import SigmaMedia.Theory.Stun.Response

/-!
# What a Peer Makes of a Response

A peer checks three things in the response to its request, and it computes all
three from the bytes it received. The integrity value is taken over a message
that was shorter by the fingerprint when it was computed, so the peer puts the
shorter length back into the header first. The fingerprint is taken over what
stands before it, as it stands. And the address is unmasked with the cookie and
the transaction id of the request.

The offsets are counted from the end of the response here, the way a peer
finds the last two attributes. They hold for every shape of the username
attribute, also for those that do not read back.

## Main definitions

* `withLength`: A message with another length in its header.
* `CoversResponse`: The last two attributes cover the right bytes.
* `addressFields`, `addressOf`: The fields of an address value.
* `decodeAddress`, `decodeXorAddress`: The two rules for reading it.
* `DeclaresAddress`: An attribute whose value decodes to a peer.

## Theorems

* `createStunSuccess_covers`: Integrity and fingerprint of every response.
* `address_attributes_decode`: Both address attributes decode to the peer.
-/

namespace SigmaMedia

namespace Stun

open Bytes Exec Net Sdp Text

/-- A message with another length in its header. -/
def withLength (length : UInt16) (message : Bytes) : Bytes :=
  message.take 2 ++ be16 length ++ message.drop 4

/-- Counted from the end of the response: four bytes of checksum over all but
    the last eight, twenty bytes of hash over all but the last thirty-two with
    the length as it was without the fingerprint, and a header that counts
    everything behind it. -/
def CoversResponse (digests : Digests) (hostPassword : Text) (n : Nat) (out : Bytes) : Prop :=
  32 ≤ n ∧ n < 65536 ∧ out.length = n ∧
    (out.drop (n - 28)).take 20
      = (digests.hmacSha1 (utf8 hostPassword)
          (withLength (UInt16.ofNat (n - 28)) (out.take (n - 32)))).val ∧
    out.drop (n - 4) = be32 (digests.crc32 (out.take (n - 8)) ^^^ 0x5354554e) ∧
    (out.drop 2).take 2 = be16 (UInt16.ofNat (n - 20))

section Covers

variable (digests : Digests) (credentials : ICECredentials)
  (transactionId : ByteArr stunTransactionIdLen) (remote : SocketAddr) (usernameAttr : Bytes)

/-- Only the length tells two success headers apart. -/
theorem withLength_successHeader (length length' : UInt16) (attributes : Bytes) :
    withLength length (successHeader length' transactionId ++ attributes)
      = successHeader length transactionId ++ attributes := by
  simp only [withLength, successHeader, List.append_assoc]
  rfl

/-- The response, with the bytes the integrity value covers in front. -/
theorem responseOf_eq_integrity :
    responseOf digests credentials transactionId remote usernameAttr
      = (successHeader (UInt16.ofNat (messageLength remote usernameAttr.length + 8)) transactionId
          ++ coveredAttributes transactionId remote usernameAttr)
        ++ (be16 StunAttributeType.messageIntegrity.key ++ be16 20
          ++ ((integrityValue digests credentials transactionId remote usernameAttr).val
          ++ Tlv.encode ⟨StunAttributeType.fingerprint.key,
              be32 (digests.crc32
                (coveredResponse digests credentials transactionId remote usernameAttr)
                ^^^ 0x5354554e)⟩ [])) := by
  rw [responseOf]
  nth_rewrite 1 [coveredResponse]
  simp only [Tlv.encode, List.append_nil, List.append_assoc,
    (integrityValue digests credentials transactionId remote usernameAttr).property]
  rfl

/-- The last two attributes of a response cover it. -/
theorem coversResponse_responseOf (hshort : usernameAttr.length ≤ 120) :
    CoversResponse digests credentials.hostPassword
      (28 + messageLength remote usernameAttr.length)
      (responseOf digests credentials transactionId remote usernameAttr) := by
  have hml := messageLength_le remote hshort
  have hattrs := length_coveredAttributes transactionId remote usernameAttr
  have hcovered := length_coveredResponse digests credentials transactionId remote usernameAttr
  have hintegrity :=
    (integrityValue digests credentials transactionId remote usernameAttr).property
  have hheader := length_successHeader transactionId
    (UInt16.ofNat (messageLength remote usernameAttr.length + 8))
  have hfront : (successHeader (UInt16.ofNat (messageLength remote usernameAttr.length + 8))
      transactionId ++ coveredAttributes transactionId remote usernameAttr).length
      = 28 + messageLength remote usernameAttr.length - 32 := by
    rw [List.length_append, hheader]
    omega
  refine ⟨by omega, by omega, length_responseOf _ _ _ _ _, ?_, ?_, ?_⟩
  · -- Four bytes of type and length stand between what is covered and the
    -- value.
    have hat : 28 + messageLength remote usernameAttr.length - 28
        = (28 + messageLength remote usernameAttr.length - 32) + 4 := by omega
    have hvalue : (responseOf digests credentials transactionId remote usernameAttr).drop
        (28 + messageLength remote usernameAttr.length - 28)
        = (integrityValue digests credentials transactionId remote usernameAttr).val
          ++ Tlv.encode ⟨StunAttributeType.fingerprint.key,
              be32 (digests.crc32
                (coveredResponse digests credentials transactionId remote usernameAttr)
                ^^^ 0x5354554e)⟩ [] := by
      rw [hat, ← List.drop_drop, responseOf_eq_integrity, List.drop_left' hfront]
      exact List.drop_left' rfl
    have hcover : withLength (UInt16.ofNat (28 + messageLength remote usernameAttr.length - 28))
        ((responseOf digests credentials transactionId remote usernameAttr).take
          (28 + messageLength remote usernameAttr.length - 32))
        = successHeader (UInt16.ofNat (messageLength remote usernameAttr.length)) transactionId
          ++ coveredAttributes transactionId remote usernameAttr := by
      rw [responseOf_eq_integrity, List.take_left' hfront, withLength_successHeader,
        Nat.add_sub_cancel_left]
    rw [hvalue, List.take_left' hintegrity, hcover]
    rfl
  · -- The fingerprint is the last eight bytes, and its value the last four.
    have hat : 28 + messageLength remote usernameAttr.length - 4
        = (20 + messageLength remote usernameAttr.length) + 4 := by omega
    rw [show 28 + messageLength remote usernameAttr.length - 8
      = 20 + messageLength remote usernameAttr.length by omega, hat, ← List.drop_drop, responseOf,
      List.drop_left' hcovered, List.take_left' hcovered]
    rfl
  · rw [responseOf_eq, successHeader, show 28 + messageLength remote usernameAttr.length - 20
      = messageLength remote usernameAttr.length + 8 by omega]
    simp only [List.append_assoc]
    rw [List.drop_left' (length_be16 _), List.take_left' (length_be16 _)]

end Covers

/-- The integrity value and the fingerprint of every response cover what a
    peer takes them over. -/
theorem createStunSuccess_covers (digests : Digests) (credentials : ICECredentials)
    (transactionId : ByteArr stunTransactionIdLen) (remote : SocketAddr) (buffer buffer' : Bytes)
    (n : Nat)
    (h : createStunSuccess digests credentials transactionId remote buffer
      = .ok (.ok (n, buffer'))) :
    CoversResponse digests credentials.hostPassword n (buffer'.take n) := by
  -- However the username is written, what was written is the response.
  have hgo : ∀ usernameAttr, WritesUsername credentials usernameAttr →
      CoversResponse digests credentials.hostPassword n (buffer'.take n) := by
    intro usernameAttr hwrites
    rcases createStunSuccess_eq_ok digests transactionId remote hwrites h with ⟨rfl, rfl⟩
    rw [List.take_left' (length_responseOf _ _ _ _ _)]
    exact coversResponse_responseOf digests credentials transactionId remote usernameAttr
      hwrites.1
  -- It is written in one of three ways, and else there is no response.
  rcases writesUsername_cases credentials with ⟨_, _, hwrites⟩ | ⟨_, _, hwrites⟩ |
    ⟨_, _, _, hwrites⟩ | ⟨_, hpanic⟩
  · exact hgo _ hwrites
  · exact hgo _ hwrites
  · exact hgo _ hwrites
  · exact absurd h (createStunSuccess_panics digests transactionId remote _ hpanic _)

/-- A peer over IPv6 is sent 112 bytes, and they are covered. -/
theorem createStunSuccess_covers_v6 :
    ∃ n buffer', createStunSuccess (fixedDigests ⟨[16, 13, 127, 185, 80, 189, 1, 20, 153, 162,
          135, 208, 78, 225, 121, 65, 60, 84, 205, 191], rfl⟩ 0x473dbe76)
        ⟨"abcd".toList, "0123456789abcdefghijkl".toList, "ef".toList, "secret".toList⟩
        ⟨List.replicate 12 0, rfl⟩ (.v6 ⟨List.replicate 15 0 ++ [1], rfl⟩ 5000 0 0)
        (List.replicate 200 0) = .ok (.ok (n, buffer')) ∧
      CoversResponse (fixedDigests ⟨[16, 13, 127, 185, 80, 189, 1, 20, 153, 162,
          135, 208, 78, 225, 121, 65, 60, 84, 205, 191], rfl⟩ 0x473dbe76)
        "0123456789abcdefghijkl".toList n (buffer'.take n) := by
  have hrun : passes (createStunSuccess (fixedDigests ⟨[16, 13, 127, 185, 80, 189, 1, 20, 153, 162,
          135, 208, 78, 225, 121, 65, 60, 84, 205, 191], rfl⟩ 0x473dbe76)
        ⟨"abcd".toList, "0123456789abcdefghijkl".toList, "ef".toList, "secret".toList⟩
        ⟨List.replicate 12 0, rfl⟩ (.v6 ⟨List.replicate 15 0 ++ [1], rfl⟩ 5000 0 0)
        (List.replicate 200 0)) (fun r => passes r fun _ => true) = true := by
    decide +kernel
  rcases of_passes hrun with ⟨r, hr, hok⟩
  rcases of_passes hok with ⟨⟨n, buffer'⟩, rfl, _⟩
  exact ⟨n, buffer', hr, createStunSuccess_covers _ _ _ _ _ _ _ hr⟩

/-- The fields of an address value: family, port and address. The first byte
    is not looked at. -/
def addressFields : Bytes → Option (UInt8 × UInt16 × Bytes)
  | _ :: family :: rest => (readU16 rest).map fun (port, address) => (family, port, address)
  | _ => none

/-- An address, by its family. -/
def addressOf (family : UInt8) (address : Bytes) : Option IpAddr :=
  if family = 0x01 then if h : address.length = 4 then some (.v4 ⟨address, h⟩) else none
  else if family = 0x02 then if h : address.length = 16 then some (.v6 ⟨address, h⟩) else none
  else none

/-- The rule for a plain address. -/
def decodeAddress (value : Bytes) : Option (IpAddr × UInt16) := do
  let (family, port, address) ← addressFields value
  let ip ← addressOf family address
  some (ip, port)

/-- The rule for a masked address: the port is masked with the upper half of
    the cookie, and the address with the cookie followed by the transaction
    id. -/
def decodeXorAddress (transactionId : ByteArr stunTransactionIdLen) (value : Bytes) :
    Option (IpAddr × UInt16) := do
  let (family, port, address) ← addressFields value
  let ip ← addressOf family
    (List.zipWith (· ^^^ ·) address (be32 stunCookie ++ transactionId.val))
  some (ip, port ^^^ (stunCookie >>> 16).toUInt16)

/-- An attribute that declares the length of its value, a multiple of four,
    and whose value decodes to the address and port of a peer. -/
def DeclaresAddress (attributeType : StunAttributeType)
    (decode : Bytes → Option (IpAddr × UInt16)) (remote : SocketAddr) (attr : Bytes) : Prop :=
  ∃ length value, attr = be16 attributeType.key ++ be16 length ++ value ∧
    length.toNat = value.length ∧ value.length % 4 = 0 ∧
    decode value = some (remote.ip, remote.port)

theorem addressFields_addressValue (family : UInt8) (port : UInt16) (address : Bytes) :
    addressFields (addressValue family port address) = some (family, port, address) := by
  have hread := readU16_be16 port address
  simp only [addressFields, addressValue, List.cons_append, List.nil_append, hread,
    Option.map_some]

theorem addressOf_v4 (ip : ByteArr 4) : addressOf 0x01 ip.val = some (.v4 ip) := by
  rw [addressOf, if_pos rfl, dif_pos ip.property]

theorem addressOf_v6 (ip : ByteArr 16) : addressOf 0x02 ip.val = some (.v6 ip) := by
  rw [addressOf, if_neg (by decide), if_pos rfl, dif_pos ip.property]

/-- The plain rule, once the address is known to be one. -/
theorem decodeAddress_addressValue {family : UInt8} {address : Bytes} {ip : IpAddr}
    (port : UInt16) (h : addressOf family address = some ip) :
    decodeAddress (addressValue family port address) = some (ip, port) := by
  rw [decodeAddress, addressFields_addressValue]
  simp only [Option.bind_eq_bind, Option.bind_some, h]

/-- The masked rule, once the unmasked address is known to be one. -/
theorem decodeXorAddress_addressValue {family : UInt8} {address : Bytes} {ip : IpAddr}
    (transactionId : ByteArr stunTransactionIdLen) (port : UInt16)
    (h : addressOf family
      (List.zipWith (· ^^^ ·) address (be32 stunCookie ++ transactionId.val)) = some ip) :
    decodeXorAddress transactionId
        (addressValue family (port ^^^ (stunCookie >>> 16).toUInt16) address)
      = some (ip, port) := by
  have hport : port ^^^ (stunCookie >>> 16).toUInt16 ^^^ (stunCookie >>> 16).toUInt16 = port := by
    rw [UInt16.xor_assoc, UInt16.xor_self, UInt16.xor_zero]
  rw [decodeXorAddress, addressFields_addressValue]
  simp only [Option.bind_eq_bind, Option.bind_some, h, hport]

theorem decodeAddress_mappedAddress (remote : SocketAddr) :
    decodeAddress (mappedAddress remote) = some (remote.ip, remote.port) := by
  cases remote with
  | v4 ip port => exact decodeAddress_addressValue port (addressOf_v4 ip)
  | v6 ip port flowinfo scopeId => exact decodeAddress_addressValue port (addressOf_v6 ip)

theorem decodeXorAddress_xorMappedAddress (remote : SocketAddr)
    (transactionId : ByteArr stunTransactionIdLen) :
    decodeXorAddress transactionId (xorMappedAddress remote transactionId)
      = some (remote.ip, remote.port) := by
  cases remote with
  | v4 ip port =>
      -- The mask of the peer is longer than the one the address was written
      -- with, and four bytes of it are used.
      have hlen : ip.val.length ≤ (be32 stunCookie).length := by
        rw [ip.property, length_be32]
      apply decodeXorAddress_addressValue
      rw [zipWith_xor_cancel transactionId.val hlen]
      exact addressOf_v4 ip
  | v6 ip port flowinfo scopeId =>
      have hlen : ip.val.length ≤ (be32 stunCookie ++ transactionId.val).length := by
        rw [ip.property, List.length_append, length_be32, transactionId.property]
        exact Nat.le_refl 16
      have hmask := zipWith_xor_cancel [] hlen
      rw [List.append_nil] at hmask
      apply decodeXorAddress_addressValue
      rw [hmask]
      exact addressOf_v6 ip

/-- An encoded element with a value of one of the two address lengths declares
    it. -/
theorem declaresAddress_encode {attributeType : StunAttributeType}
    {decode : Bytes → Option (IpAddr × UInt16)} {remote : SocketAddr} {value : Bytes}
    (hlen : value.length = addressLen remote)
    (hdecode : decode value = some (remote.ip, remote.port)) :
    DeclaresAddress attributeType decode remote (Tlv.encode ⟨attributeType.key, value⟩ []) := by
  have haddress : value.length = 8 ∨ value.length = 20 := by
    rw [hlen]
    cases remote with
    | v4 ip port => exact Or.inl rfl
    | v6 ip port flowinfo scopeId => exact Or.inr rfl
  refine ⟨UInt16.ofNat value.length, value, ?_, ?_, by omega, hdecode⟩
  · rw [Tlv.encode, List.append_nil]
  · rw [UInt16.toNat_ofNat']
    omega

/-- Both address attributes are written for every peer and every transaction
    id, and both decode to the address and port of the peer. -/
theorem address_attributes_decode (remote : SocketAddr)
    (transactionId : ByteArr stunTransactionIdLen) :
    (∃ attr, computeXorMappedAddress remote transactionId = .ok attr ∧
        DeclaresAddress .xorMappedAddress (decodeXorAddress transactionId) remote attr) ∧
      ∃ attr, writeMappedAddressAttribute 24 remote = .ok attr ∧
        DeclaresAddress .mappedAddress decodeAddress remote attr :=
  ⟨⟨_, computeXorMappedAddress_eq remote transactionId,
      declaresAddress_encode (length_xorMappedAddress remote transactionId)
        (decodeXorAddress_xorMappedAddress remote transactionId)⟩,
    _, writeMappedAddressAttribute_eq remote,
      declaresAddress_encode (length_mappedAddress remote) (decodeAddress_mappedAddress remote)⟩

end Stun

end SigmaMedia
