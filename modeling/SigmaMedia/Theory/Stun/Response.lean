import SigmaMedia.Theory.Negotiation
import SigmaMedia.Theory.Stun.Encode

/-!
# The Success Response as a Whole

`createStunSuccess_eq` says what the writer makes of a buffer once the shape of
the username attribute is known: there is room for everything, or the flush
falls short, or the fingerprint does. `writesUsername_cases` lists the shapes.
Every statement about the response comes from the two together.

A response is read back by walking its attributes, and the walk has to account
for every byte. That settles well-formedness by counting: with the value of
the username left out, the attributes that should follow no longer add up to
the bytes that are there.

## Main definitions

* `WritesUsername`: The username attribute comes out as given.
* `messageLength`: The bytes of the attributes before the fingerprint.
* `responseOf`: The response, by its username attribute.
* `ReadsBack`, `WellFormedResponse`: The response reads back as the five
  attributes.
* `UsernameFits`: The username is written in full.
* `ResponseFits`: A response of 200 bytes can be written.

## Theorems

* `writesUsername_cases`: The shapes of the username attribute.
* `createStunSuccess_eq`: The writer, by the room in its buffer.
* `createStunSuccess_wellFormed_iff`: When a response is well-formed.
* `createStunSuccess_ok_iff`: When there is one for an accepted session.
-/

namespace SigmaMedia

namespace Stun

open Bytes Exec Net Sdp Text

/-- The username attribute comes out as the given bytes. -/
def WritesUsername (credentials : ICECredentials) (attr : Bytes) : Prop :=
  attr.length ≤ 120 ∧
    ∃ rest, writeUsernameAttribute 120 credentials = .ok (attr.length, attr ++ rest)

/-- The shapes of the username attribute, by the length of the username. -/
theorem writesUsername_cases (credentials : ICECredentials) :
    (usernameLen credentials % 4 ≠ 0 ∧ usernameLen credentials ≤ 116 ∧
        WritesUsername credentials (usernameHeader credentials ++ paddedUsername credentials)) ∨
      ((usernameLen credentials % 4 = 0 ∨ 65536 ≤ usernameLen credentials) ∧
        usernameLen credentials % 65536 ≤ 65532 ∧
        WritesUsername credentials (usernameHeader credentials)) ∨
      (usernameLen credentials % 4 ≠ 0 ∧ 8189 ≤ usernameLen credentials ∧
        usernameLen credentials ≤ 65532 ∧ WritesUsername credentials []) ∨
      ((65532 < usernameLen credentials % 65536 ∨ usernameLen credentials % 4 ≠ 0 ∧
          116 < usernameLen credentials ∧ usernameLen credentials < 8189) ∧
        ¬ Returns (writeUsernameAttribute 120 credentials)) := by
  -- The padded length overflows its sixteen bits, whatever follows.
  by_cases hov : 65532 < usernameLen credentials % 65536
  · exact Or.inr (Or.inr (Or.inr ⟨Or.inl hov, writeUsernameAttribute_overflow hov⟩))
  have hno : usernameLen credentials % 65536 ≤ 65532 := by omega
  -- With a multiple of four there is no padding, and with it no write of the
  -- username either.
  by_cases hun : usernameLen credentials % 4 = 0 ∨ 65536 ≤ usernameLen credentials
  · refine Or.inr (Or.inl ⟨hun, hno, ?_, _, writeUsernameAttribute_unwritten hno hun⟩)
    rw [length_usernameHeader]
    omega
  have hmod : usernameLen credentials % 4 ≠ 0 := fun hc => hun (Or.inl hc)
  have hhi : usernameLen credentials ≤ 65532 := by omega
  by_cases hfit : usernameLen credentials ≤ 116
  · have hlen : (usernameHeader credentials ++ paddedUsername credentials).length
        = 4 + Tlv.padded (usernameLen credentials) := by
      rw [List.length_append, length_usernameHeader, length_paddedUsername]
    refine Or.inl ⟨hmod, hfit, ?_, _, by
      rw [hlen]
      exact writeUsernameAttribute_written hmod hfit⟩
    rw [hlen]
    unfold Tlv.padded
    omega
  -- What does not fit the slice makes the flush panic, up to a length that
  -- goes past the buffer and leaves no attribute at all.
  by_cases hlong : usernameLen credentials < 8189
  · exact Or.inr (Or.inr (Or.inr ⟨Or.inr ⟨hmod, by omega, hlong⟩,
      writeUsernameAttribute_tooLong hmod (by omega) hlong⟩))
  · rcases writeUsernameAttribute_bypassed hmod (by omega) hhi with ⟨scratch, hs⟩
    exact Or.inr (Or.inr (Or.inl ⟨hmod, by omega, hhi, by simp only [List.length_nil]; omega,
      scratch, hs⟩))

/-- The bytes of the attributes before the fingerprint, for a username
    attribute of the given length. -/
def messageLength (remote : SocketAddr) (usernameAttrLength : Nat) : Nat :=
  usernameAttrLength + (4 + addressLen remote) + (4 + addressLen remote) + 24

theorem messageLength_le (remote : SocketAddr) {length : Nat} (h : length ≤ 120) :
    messageLength remote length ≤ 192 := by
  unfold messageLength
  cases remote with
  | v4 ip port => simp only [addressLen]; omega
  | v6 ip port flowinfo scopeId => simp only [addressLen]; omega

section Response

variable (digests : Digests) (credentials : ICECredentials)
  (transactionId : ByteArr stunTransactionIdLen) (remote : SocketAddr) (usernameAttr : Bytes)

/-- The three attributes the integrity value covers. -/
def coveredAttributes : Bytes :=
  usernameAttr
    ++ Tlv.encode ⟨StunAttributeType.xorMappedAddress.key,
        xorMappedAddress remote transactionId⟩ []
    ++ Tlv.encode ⟨StunAttributeType.mappedAddress.key, mappedAddress remote⟩ []

/-- The integrity value, over the header as it stands before the fingerprint
    is counted. -/
def integrityValue : ByteArr 20 :=
  digests.hmacSha1 (utf8 credentials.hostPassword)
    (successHeader (UInt16.ofNat (messageLength remote usernameAttr.length)) transactionId
      ++ coveredAttributes transactionId remote usernameAttr)

/-- The response up to the fingerprint. -/
def coveredResponse : Bytes :=
  successHeader (UInt16.ofNat (messageLength remote usernameAttr.length + 8)) transactionId
    ++ (coveredAttributes transactionId remote usernameAttr
      ++ Tlv.encode ⟨StunAttributeType.messageIntegrity.key,
          (integrityValue digests credentials transactionId remote usernameAttr).val⟩ [])

/-- The response. -/
def responseOf : Bytes :=
  coveredResponse digests credentials transactionId remote usernameAttr
    ++ Tlv.encode ⟨StunAttributeType.fingerprint.key,
        be32 (digests.crc32 (coveredResponse digests credentials transactionId remote usernameAttr)
          ^^^ 0x5354554e)⟩ []

theorem length_successHeader (length : UInt16) :
    (successHeader length transactionId).length = 20 := by
  simp only [successHeader, List.length_append, length_be16, length_be32, transactionId.property,
    stunTransactionIdLen]

theorem length_xorMappedAddressAttr :
    (Tlv.encode ⟨StunAttributeType.xorMappedAddress.key,
      xorMappedAddress remote transactionId⟩ []).length = 4 + addressLen remote := by
  simp only [Tlv.encode, List.length_append, length_be16, List.length_nil, length_xorMappedAddress]
  omega

theorem length_mappedAddressAttr :
    (Tlv.encode ⟨StunAttributeType.mappedAddress.key, mappedAddress remote⟩ []).length
      = 4 + addressLen remote := by
  simp only [Tlv.encode, List.length_append, length_be16, List.length_nil, length_mappedAddress]
  omega

theorem length_integrityAttr :
    (Tlv.encode ⟨StunAttributeType.messageIntegrity.key,
      (integrityValue digests credentials transactionId remote usernameAttr).val⟩ []).length
      = 24 := by
  simp only [Tlv.encode, List.length_append, length_be16, List.length_nil,
    (integrityValue digests credentials transactionId remote usernameAttr).property]

theorem length_coveredAttributes :
    (coveredAttributes transactionId remote usernameAttr).length + 24
      = messageLength remote usernameAttr.length := by
  simp only [coveredAttributes, List.length_append, length_xorMappedAddressAttr,
    length_mappedAddressAttr, messageLength]

theorem length_coveredResponse :
    (coveredResponse digests credentials transactionId remote usernameAttr).length
      = 20 + messageLength remote usernameAttr.length := by
  have h := length_coveredAttributes transactionId remote usernameAttr
  simp only [coveredResponse, List.length_append, length_successHeader, length_integrityAttr]
  omega

theorem length_responseOf :
    (responseOf digests credentials transactionId remote usernameAttr).length
      = 28 + messageLength remote usernameAttr.length := by
  simp only [responseOf, Tlv.encode, List.length_append, length_coveredResponse, length_be16,
    length_be32, List.length_nil]
  omega

/-- The response, attribute by attribute. -/
theorem responseOf_eq :
    responseOf digests credentials transactionId remote usernameAttr
      = successHeader (UInt16.ofNat (messageLength remote usernameAttr.length + 8)) transactionId
        ++ (usernameAttr
        ++ (Tlv.encode ⟨StunAttributeType.xorMappedAddress.key,
            xorMappedAddress remote transactionId⟩ []
        ++ (Tlv.encode ⟨StunAttributeType.mappedAddress.key, mappedAddress remote⟩ []
        ++ (Tlv.encode ⟨StunAttributeType.messageIntegrity.key,
            (integrityValue digests credentials transactionId remote usernameAttr).val⟩ []
        ++ Tlv.encode ⟨StunAttributeType.fingerprint.key,
            be32 (digests.crc32
              (coveredResponse digests credentials transactionId remote usernameAttr)
              ^^^ 0x5354554e)⟩ [])))) := by
  rw [responseOf]
  nth_rewrite 1 [coveredResponse]
  rw [coveredAttributes]
  simp only [List.append_assoc]

variable {credentials usernameAttr}

/-- The integrity attribute the code writes over the header and the other
    attributes. -/
theorem writeMessageIntegrityAttribute_eq :
    writeMessageIntegrityAttribute digests
      (successHeader (UInt16.ofNat (messageLength remote usernameAttr.length)) transactionId)
      (coveredAttributes transactionId remote usernameAttr) credentials.hostPassword
      = Tlv.encode ⟨StunAttributeType.messageIntegrity.key,
          (integrityValue digests credentials transactionId remote usernameAttr).val⟩ [] := by
  simp only [writeMessageIntegrityAttribute, Tlv.encode, integrityValue, List.append_nil,
    (digests.hmacSha1 _ _).property]
  rfl

/-- The buffered writer over the attributes: all four reach the slice, or the
    flush reports that they do not fit. -/
theorem writeAttributes_eq (length : Nat) (hsmall : usernameAttr.length ≤ 120) :
    writeAttributes digests length
        (successHeader (UInt16.ofNat (messageLength remote usernameAttr.length)) transactionId)
        usernameAttr
        (Tlv.encode ⟨StunAttributeType.xorMappedAddress.key,
          xorMappedAddress remote transactionId⟩ [])
        (Tlv.encode ⟨StunAttributeType.mappedAddress.key, mappedAddress remote⟩ [])
        credentials.hostPassword
      = if length < messageLength remote usernameAttr.length then .error .writeZero
        else .ok ⟨[], coveredAttributes transactionId remote usernameAttr
          ++ Tlv.encode ⟨StunAttributeType.messageIntegrity.key,
              (integrityValue digests credentials transactionId remote usernameAttr).val⟩ [],
          length - messageLength remote usernameAttr.length⟩ := by
  have hcap : BufWriter.capacity = 8192 := rfl
  have hcov := length_coveredAttributes transactionId remote usernameAttr
  have hml := messageLength_le remote hsmall
  have hmldef : messageLength remote usernameAttr.length
      = usernameAttr.length + (4 + addressLen remote) + (4 + addressLen remote) + 24 := rfl
  have hxor := length_xorMappedAddressAttr transactionId remote
  have hmap := length_mappedAddressAttr remote
  have hmilen := length_integrityAttr digests credentials transactionId remote usernameAttr
  -- Nothing here comes near the capacity, so every write is buffered.
  have h1 : (BufWriter.new length).write usernameAttr = .ok ⟨usernameAttr, [], length⟩ :=
    BufWriter.write_of_small (by simp only [BufWriter.new, List.length_nil]; omega)
  have h2 : BufWriter.write ⟨usernameAttr, [], length⟩
      (Tlv.encode ⟨StunAttributeType.xorMappedAddress.key,
        xorMappedAddress remote transactionId⟩ []) = _ :=
    BufWriter.write_of_small (by simp only [hxor]; omega)
  have h3 : BufWriter.write ⟨usernameAttr ++ Tlv.encode ⟨StunAttributeType.xorMappedAddress.key,
        xorMappedAddress remote transactionId⟩ [], [], length⟩
      (Tlv.encode ⟨StunAttributeType.mappedAddress.key, mappedAddress remote⟩ []) = _ :=
    BufWriter.write_of_small (by simp only [List.length_append, hxor, hmap]; omega)
  have h4 : BufWriter.write ⟨coveredAttributes transactionId remote usernameAttr, [], length⟩
      (Tlv.encode ⟨StunAttributeType.messageIntegrity.key,
        (integrityValue digests credentials transactionId remote usernameAttr).val⟩ []) = _ :=
    BufWriter.write_of_small (by simp only [hmilen]; omega)
  have hcovdef : usernameAttr
      ++ Tlv.encode ⟨StunAttributeType.xorMappedAddress.key,
        xorMappedAddress remote transactionId⟩ []
      ++ Tlv.encode ⟨StunAttributeType.mappedAddress.key, mappedAddress remote⟩ []
      = coveredAttributes transactionId remote usernameAttr := rfl
  simp only [writeAttributes, h1, h2, h3, hcovdef, writeMessageIntegrityAttribute_eq, h4, ok_bind]
  by_cases hroom : length < messageLength remote usernameAttr.length
  · rw [if_pos hroom, BufWriter.flush_of_overflow (by
      simp only [List.length_append, hmilen]
      omega)]
  · rw [if_neg hroom, BufWriter.flush_of_fits (by
      simp only [List.length_append, hmilen]
      omega)]
    simp only [List.nil_append, List.length_append, hmilen, hcov]

/-- With the header written once more, the slice holds the response up to the
    fingerprint. -/
theorem filled_eq_coveredResponse (buffer : Bytes) (room : Nat) :
    successHeader (UInt16.ofNat (messageLength remote usernameAttr.length + 8)) transactionId
      ++ BufWriter.filled ⟨[], coveredAttributes transactionId remote usernameAttr
          ++ Tlv.encode ⟨StunAttributeType.messageIntegrity.key,
              (integrityValue digests credentials transactionId remote usernameAttr).val⟩ [],
          room⟩ (buffer.drop 20)
      = coveredResponse digests credentials transactionId remote usernameAttr
        ++ buffer.drop (20 + messageLength remote usernameAttr.length) := by
  have hstored : (coveredAttributes transactionId remote usernameAttr
      ++ Tlv.encode ⟨StunAttributeType.messageIntegrity.key,
          (integrityValue digests credentials transactionId remote usernameAttr).val⟩ []).length
      = messageLength remote usernameAttr.length := by
    rw [List.length_append, length_integrityAttr, length_coveredAttributes]
  rw [BufWriter.filled, coveredResponse]
  simp only [hstored, List.drop_drop, List.append_assoc]

/-- What the writer makes of a buffer, by the room in it. Short of the
    attributes the flush reports an error, and short of the fingerprint alone
    the slice it is copied to is out of range. -/
theorem createStunSuccess_eq (buffer : Bytes) (hwrites : WritesUsername credentials usernameAttr) :
    createStunSuccess digests credentials transactionId remote buffer
      = if buffer.length < 20 then .error .index
        else if buffer.length < 20 + messageLength remote usernameAttr.length then
          .ok (.error .writeZero)
        else if buffer.length < 28 + messageLength remote usernameAttr.length then .error .index
        else .ok (.ok (28 + messageLength remote usernameAttr.length,
          responseOf digests credentials transactionId remote usernameAttr
            ++ buffer.drop (28 + messageLength remote usernameAttr.length))) := by
  rcases hwrites with ⟨hsmall, rest, hwrite⟩
  by_cases hheader : buffer.length < 20
  · rw [if_pos hheader, createStunSuccess, sliceTo, if_neg (by omega)]
    rfl
  have hto : sliceTo buffer 20 = .ok (buffer.take 20) :=
    sliceTo_eq_ok.mpr ⟨by omega, rfl⟩
  have hfrom : sliceFrom buffer 20 = .ok (buffer.drop 20) :=
    sliceFrom_eq_ok.mpr ⟨by omega, rfl⟩
  have hattr : sliceTo (usernameAttr ++ rest) usernameAttr.length = .ok usernameAttr :=
    sliceTo_eq_ok.mpr ⟨by rw [List.length_append]; omega, List.take_left⟩
  -- The length the code adds up is the one the response is described by.
  have hlen : (Tlv.encode ⟨StunAttributeType.xorMappedAddress.key,
        xorMappedAddress remote transactionId⟩ []).length + stunMessageIntegrityAttributeLen
      + usernameAttr.length
      + (Tlv.encode ⟨StunAttributeType.mappedAddress.key, mappedAddress remote⟩ []).length
      = messageLength remote usernameAttr.length := by
    rw [length_xorMappedAddressAttr, length_mappedAddressAttr, messageLength,
      stunMessageIntegrityAttributeLen]
    omega
  have hml := messageLength_le remote hsmall
  rw [if_neg hheader]
  simp only [createStunSuccess, hto, hfrom, hwrite, hattr, computeXorMappedAddress_eq,
    writeMappedAddressAttribute_eq, ok_bind, hlen]
  rw [writeAttributes_eq digests transactionId remote _ hsmall, List.length_drop]
  by_cases hroom : buffer.length < 20 + messageLength remote usernameAttr.length
  · rw [if_pos hroom, if_pos (by omega)]
    rfl
  rw [if_neg hroom, if_neg (by omega)]
  have hadd : checkedAdd16 (UInt16.ofNat (messageLength remote usernameAttr.length)) 8
      = .ok (UInt16.ofNat (messageLength remote usernameAttr.length + 8)) := by
    rw [checkedAdd16_eq_ok, UInt16.toNat_ofNat', Nat.mod_eq_of_lt (by omega)]
    exact ⟨by change _ + 8 < 65536; omega, (UInt16.ofNat_add _ 8).symm⟩
  have hcov := length_coveredResponse digests credentials transactionId remote usernameAttr
  have hcovered : sliceTo (coveredResponse digests credentials transactionId remote usernameAttr
      ++ buffer.drop (20 + messageLength remote usernameAttr.length))
      (20 + messageLength remote usernameAttr.length)
      = .ok (coveredResponse digests credentials transactionId remote usernameAttr) := by
    rw [sliceTo_eq_ok, List.length_append, hcov]
    exact ⟨by omega, by rw [← hcov, List.take_left]⟩
  have hrest : sliceFrom (coveredResponse digests credentials transactionId remote usernameAttr
      ++ buffer.drop (20 + messageLength remote usernameAttr.length))
      (20 + messageLength remote usernameAttr.length)
      = .ok (buffer.drop (20 + messageLength remote usernameAttr.length)) := by
    rw [sliceFrom_eq_ok, List.length_append, hcov]
    exact ⟨by omega, by rw [← hcov, List.drop_left]⟩
  simp only [hadd, ok_bind, filled_eq_coveredResponse, hcovered, stunHeaderLen, hrest]
  -- The fingerprint is eight bytes, and they have to be there.
  rw [show (be16 StunAttributeType.fingerprint.key ++ be16 0x4 ++ be32 (digests.crc32
      (coveredResponse digests credentials transactionId remote usernameAttr)
        ^^^ 0x5354554e)).length = 8 from rfl]
  by_cases hfinger : buffer.length < 28 + messageLength remote usernameAttr.length
  · rw [if_pos hfinger, sliceFrom, if_neg (by rw [List.length_drop]; omega)]
    rfl
  · rw [if_neg hfinger, sliceFrom, if_pos (by rw [List.length_drop]; omega)]
    simp only [ok_bind, pure_eq_ok, List.drop_drop]
    rw [show 20 + messageLength remote usernameAttr.length + 8
      = 28 + messageLength remote usernameAttr.length by omega]
    simp only [responseOf, Tlv.encode, length_be32, List.append_nil]
    rfl

/-- A finished response, from the success of the writer. -/
theorem createStunSuccess_eq_ok {buffer out : Bytes} {n : Nat}
    (hwrites : WritesUsername credentials usernameAttr)
    (h : createStunSuccess digests credentials transactionId remote buffer = .ok (.ok (n, out))) :
    n = 28 + messageLength remote usernameAttr.length ∧
      out = responseOf digests credentials transactionId remote usernameAttr
        ++ buffer.drop (28 + messageLength remote usernameAttr.length) := by
  rw [createStunSuccess_eq digests transactionId remote buffer hwrites] at h
  split at h
  · cases h
  split at h
  · cases h
  split at h
  · cases h
  · cases h
    exact ⟨rfl, rfl⟩

end Response

/-- Where the writer of the username panics, so does the whole. -/
theorem createStunSuccess_panics (digests : Digests) {credentials : ICECredentials}
    (transactionId : ByteArr stunTransactionIdLen) (remote : SocketAddr) (buffer : Bytes)
    (hpanic : ¬ Returns (writeUsernameAttribute 120 credentials))
    (r : Except IoError (Nat × Bytes)) :
    createStunSuccess digests credentials transactionId remote buffer ≠ .ok r := by
  intro h
  unfold createStunSuccess at h
  simp only [bind_eq_ok, Prod.exists] at h
  rcases h with ⟨_, _, _, _, length, scratch, hwrite, _⟩
  exact hpanic ⟨_, hwrite⟩

/-- The header counts the bytes behind it, and a walk over them yields the
    username of the credentials and four further attributes, in order. -/
def ReadsBack (credentials : ICECredentials) (n : Nat) (out : Bytes)
    (xorAddress address integrity fingerprint : Bytes) : Prop :=
  (∃ length rest, readU16 (out.drop 2) = some (length, rest) ∧ length.toNat = n - 20) ∧
    Tlv.walk ((out.take n).drop 20) = some
      [⟨StunAttributeType.username.key, utf8 (username credentials)⟩,
        ⟨StunAttributeType.xorMappedAddress.key, xorAddress⟩,
        ⟨StunAttributeType.mappedAddress.key, address⟩,
        ⟨StunAttributeType.messageIntegrity.key, integrity⟩,
        ⟨StunAttributeType.fingerprint.key, fingerprint⟩]

/-- The response reads back, and each of the other attributes has the length
    of its kind. -/
def WellFormedResponse (credentials : ICECredentials) (remote : SocketAddr) (n : Nat)
    (out : Bytes) : Prop :=
  ∃ xorAddress address integrity fingerprint,
    ReadsBack credentials n out xorAddress address integrity fingerprint ∧
      xorAddress.length = addressLen remote ∧ address.length = addressLen remote ∧
      integrity.length = 20 ∧ fingerprint.length = 4

/-- The username is written in full: it needs padding, and fits the scratch
    array with it. -/
def UsernameFits (credentials : ICECredentials) : Prop :=
  usernameLen credentials % 4 ≠ 0 ∧ usernameLen credentials ≤ 116

theorem padded_addressLen (remote : SocketAddr) :
    Tlv.padded (addressLen remote) = addressLen remote ∧ addressLen remote < 65536 := by
  cases remote with
  | v4 ip port => exact ⟨by simp only [addressLen, Tlv.padded], by simp only [addressLen]; omega⟩
  | v6 ip port flowinfo scopeId =>
      exact ⟨by simp only [addressLen, Tlv.padded], by simp only [addressLen]; omega⟩

/-- The attributes of a well-formed response add up to its length. -/
theorem WellFormedResponse.length {credentials : ICECredentials} {remote : SocketAddr} {n : Nat}
    {out : Bytes} (h : WellFormedResponse credentials remote n out) (hn : 20 ≤ n)
    (hout : n ≤ out.length) :
    n = 28 + messageLength remote (4 + Tlv.padded (usernameLen credentials)) := by
  rcases h with ⟨xorAddress, address, integrity, fingerprint, ⟨_, hwalk⟩, hx, ha, hi, hf⟩
  have hsum := Tlv.length_of_walk hwalk
  have hpad := (padded_addressLen remote).1
  have hL : (utf8 (username credentials)).length = usernameLen credentials := rfl
  simp only [List.length_drop, List.length_take, List.map_cons, List.map_nil, List.sum_cons,
    List.sum_nil, hx, ha, hi, hf, hpad, hL] at hsum
  rw [show Tlv.padded 20 = 20 from rfl, show Tlv.padded 4 = 4 from rfl] at hsum
  unfold messageLength
  omega

/-- The username attribute written in full is an encoded element. -/
theorem usernameAttr_eq_encode (credentials : ICECredentials) :
    usernameHeader credentials ++ paddedUsername credentials
      = Tlv.encode ⟨StunAttributeType.username.key, utf8 (username credentials)⟩
          (List.replicate (Tlv.padded (usernameLen credentials) - usernameLen credentials) 0) := by
  simp only [usernameHeader, paddedUsername, Tlv.encode, List.append_assoc]
  rfl

/-- A padded username followed by the other four attributes reads back as the
    five in order. -/
theorem walk_attributes {credentials : ICECredentials}
    (transactionId : ByteArr stunTransactionIdLen) (remote : SocketAddr)
    (hle : usernameLen credentials ≤ 116) {integrity fingerprint : Bytes}
    (hi : integrity.length = 20) (hf : fingerprint.length = 4) :
    Tlv.walk (usernameHeader credentials ++ paddedUsername credentials
        ++ (Tlv.encode ⟨StunAttributeType.xorMappedAddress.key,
            xorMappedAddress remote transactionId⟩ []
        ++ (Tlv.encode ⟨StunAttributeType.mappedAddress.key, mappedAddress remote⟩ []
        ++ (Tlv.encode ⟨StunAttributeType.messageIntegrity.key, integrity⟩ []
        ++ Tlv.encode ⟨StunAttributeType.fingerprint.key, fingerprint⟩ []))))
      = some [⟨StunAttributeType.username.key, utf8 (username credentials)⟩,
          ⟨StunAttributeType.xorMappedAddress.key, xorMappedAddress remote transactionId⟩,
          ⟨StunAttributeType.mappedAddress.key, mappedAddress remote⟩,
          ⟨StunAttributeType.messageIntegrity.key, integrity⟩,
          ⟨StunAttributeType.fingerprint.key, fingerprint⟩] := by
  have hL : (utf8 (username credentials)).length = usernameLen credentials := rfl
  have hpadded := Tlv.le_padded (usernameLen credentials)
  rcases padded_addressLen remote with ⟨hpad, hlt⟩
  have hxor := length_xorMappedAddress remote transactionId
  have hmap := length_mappedAddress remote
  -- Each attribute is peeled off by its own encoding.
  rw [← List.append_nil (Tlv.encode ⟨StunAttributeType.fingerprint.key, fingerprint⟩ []),
    usernameAttr_eq_encode,
    Tlv.walk_encode_append (by simp only [hL]; omega)
      (by simp only [hL, List.length_replicate]; omega),
    Tlv.walk_encode_append (by simp only [hxor]; omega)
      (by simp only [hxor, hpad, List.length_nil, Nat.add_zero]),
    Tlv.walk_encode_append (by simp only [hmap]; omega)
      (by simp only [hmap, hpad, List.length_nil, Nat.add_zero]),
    Tlv.walk_encode_append (by simp only [hi]; omega)
      (by simp only [hi, Tlv.padded, List.length_nil]),
    Tlv.walk_encode_append (by simp only [hf]; omega)
      (by simp only [hf, Tlv.padded, List.length_nil]), Tlv.walk_nil]
  rfl

/-- With the username written in full, the response is well-formed. -/
theorem wellFormedResponse_of_fits (digests : Digests) {credentials : ICECredentials}
    (transactionId : ByteArr stunTransactionIdLen) (remote : SocketAddr) {usernameAttr : Bytes}
    (rest : Bytes) (hattr : usernameAttr = usernameHeader credentials ++ paddedUsername credentials)
    (hle : usernameLen credentials ≤ 116) :
    WellFormedResponse credentials remote (28 + messageLength remote usernameAttr.length)
      (responseOf digests credentials transactionId remote usernameAttr ++ rest) := by
  have hshort : usernameAttr.length ≤ 120 := by
    rw [hattr, List.length_append, length_usernameHeader, length_paddedUsername]
    unfold Tlv.padded
    omega
  have hml := messageLength_le remote hshort
  have hlen := length_responseOf digests credentials transactionId remote usernameAttr
  have hintegrity :=
    (integrityValue digests credentials transactionId remote usernameAttr).property
  have hfingerprint := length_be32 (digests.crc32
    (coveredResponse digests credentials transactionId remote usernameAttr) ^^^ 0x5354554e)
  refine ⟨_, _, _, _, ⟨⟨UInt16.ofNat (messageLength remote usernameAttr.length + 8), ?_⟩, ?_⟩,
    length_xorMappedAddress remote transactionId, length_mappedAddress remote, hintegrity,
    hfingerprint⟩
  · -- The length field counts what follows the header.
    rw [responseOf_eq, successHeader]
    simp only [List.append_assoc]
    rw [List.drop_left' (length_be16 _), readU16_be16]
    refine ⟨_, rfl, ?_⟩
    rw [UInt16.toNat_ofNat', Nat.mod_eq_of_lt (by omega)]
    omega
  · have hwalk := walk_attributes transactionId remote hle hintegrity hfingerprint
    rw [← hattr] at hwalk
    rw [← hlen, List.take_left, responseOf_eq, List.drop_left' (length_successHeader _ _)]
    exact hwalk

/-- A response reads back as its five attributes exactly when its username is
    written in full. -/
theorem createStunSuccess_wellFormed_iff (digests : Digests) (credentials : ICECredentials)
    (transactionId : ByteArr stunTransactionIdLen) (remote : SocketAddr) (buffer out : Bytes)
    (n : Nat)
    (h : createStunSuccess digests credentials transactionId remote buffer = .ok (.ok (n, out))) :
    WellFormedResponse credentials remote n out ↔ UsernameFits credentials := by
  -- A username attribute that is not the whole padded value cannot add up.
  have hbad : ∀ usernameAttr, WritesUsername credentials usernameAttr → usernameAttr.length ≤ 4 →
      ¬ WellFormedResponse credentials remote n out := by
    intro usernameAttr hwrites hshort hwf
    rcases createStunSuccess_eq_ok digests transactionId remote hwrites h with ⟨hn, hout⟩
    have hlen := hwf.length (by omega) (by
      rw [hn, hout, List.length_append, length_responseOf]
      omega)
    have hpos := usernameLen_pos credentials
    have hle := Tlv.le_padded (usernameLen credentials)
    unfold messageLength at hn hlen
    omega
  rcases writesUsername_cases credentials with ⟨hmod, hle, hwrites⟩ | ⟨hun, _, hwrites⟩ |
    ⟨_, hlong, _, hwrites⟩ | ⟨_, hpanic⟩
  · rcases createStunSuccess_eq_ok digests transactionId remote hwrites h with ⟨rfl, rfl⟩
    exact ⟨fun _ => ⟨hmod, hle⟩,
      fun _ => wellFormedResponse_of_fits digests transactionId remote _ rfl hle⟩
  · refine ⟨fun hwf => absurd hwf (hbad _ hwrites (Nat.le_of_eq (length_usernameHeader _))),
      fun hfits => ?_⟩
    rcases hfits with ⟨hmod, hle⟩
    omega
  · exact ⟨fun hwf => absurd hwf (hbad _ hwrites (Nat.zero_le _)), fun hfits => by
      have := hfits.2
      omega⟩
  · exact absurd h (createStunSuccess_panics digests transactionId remote _ hpanic _)

/-- Digests that answer with one hash and one checksum. -/
def fixedDigests (hash : ByteArr 20) (checksum : UInt32) : Digests :=
  { hmacSha1 := fun _ _ => hash, crc32 := fun _ => checksum }

/-- A username of seven bytes is written with one byte of padding, and its
    response is well-formed. -/
theorem createStunSuccess_wellFormed_seven :
    ∃ n out, createStunSuccess (fixedDigests ⟨[123, 247, 85, 238, 182, 219, 167, 104, 91, 74, 194,
          250, 107, 218, 12, 248, 198, 116, 64, 80], rfl⟩ 0x97e67c74)
        ⟨"abcd".toList, "0123456789abcdefghijkl".toList, "ef".toList, "secret".toList⟩
        ⟨List.replicate 12 0, rfl⟩ (.v4 ⟨[127, 0, 0, 1], rfl⟩ 5000) (List.replicate 200 0)
        = .ok (.ok (n, out)) ∧
      WellFormedResponse
        ⟨"abcd".toList, "0123456789abcdefghijkl".toList, "ef".toList, "secret".toList⟩
        (.v4 ⟨[127, 0, 0, 1], rfl⟩ 5000) n out := by
  -- A username of seven bytes, written with one byte of padding.
  have hrun : createStunSuccess (fixedDigests ⟨[123, 247, 85, 238, 182, 219, 167, 104, 91, 74, 194,
          250, 107, 218, 12, 248, 198, 116, 64, 80], rfl⟩ 0x97e67c74)
      ⟨"abcd".toList, "0123456789abcdefghijkl".toList, "ef".toList, "secret".toList⟩
      ⟨List.replicate 12 0, rfl⟩ (.v4 ⟨[127, 0, 0, 1], rfl⟩ 5000) (List.replicate 200 0)
      = .ok (.ok (88, [1, 1, 0, 68, 33, 18, 164, 66] ++ List.replicate 12 0
        ++ [0, 6, 0, 7, 97, 98, 99, 100, 58, 101, 102, 0]
        ++ [0, 32, 0, 8, 0, 1, 50, 154, 94, 18, 164, 67]
        ++ [0, 1, 0, 8, 0, 1, 19, 136, 127, 0, 0, 1]
        ++ [0, 8, 0, 20, 123, 247, 85, 238, 182, 219, 167, 104, 91, 74, 194, 250, 107, 218, 12, 248,
          198, 116, 64, 80]
        ++ [128, 40, 0, 4, 196, 178, 41, 58] ++ List.replicate 112 0)) := by
    decide +kernel
  exact ⟨_, _, hrun, (createStunSuccess_wellFormed_iff _ _ _ _ _ _ _ hrun).mpr
    ⟨by decide +kernel, by decide +kernel⟩⟩

/-- A client whose username comes to eight bytes is sent a response that does
    not read back: what follows the header is taken for the username. -/
theorem createStunSuccess_unreadable :
    ∃ n out, createStunSuccess (fixedDigests ⟨[22, 255, 163, 191, 162, 35, 224, 236, 121, 245, 225,
          182, 87, 245, 53, 22, 60, 250, 116, 66], rfl⟩ 0x11f721af)
        ⟨"abcd".toList, "0123456789abcdefghijkl".toList, "efg".toList, "secret".toList⟩
        ⟨List.replicate 12 0, rfl⟩ (.v4 ⟨[127, 0, 0, 1], rfl⟩ 5000) (List.replicate 200 0)
        = .ok (.ok (n, out)) ∧
      ¬ ∃ xorAddress address integrity fingerprint,
        ReadsBack ⟨"abcd".toList, "0123456789abcdefghijkl".toList, "efg".toList, "secret".toList⟩
          n out xorAddress address integrity fingerprint := by
  refine ⟨80, [1, 1, 0, 60, 33, 18, 164, 66] ++ List.replicate 12 0
    ++ [0, 6, 0, 8]
    ++ [0, 32, 0, 8, 0, 1, 50, 154, 94, 18, 164, 67]
    ++ [0, 1, 0, 8, 0, 1, 19, 136, 127, 0, 0, 1]
    ++ [0, 8, 0, 20, 22, 255, 163, 191, 162, 35, 224, 236, 121, 245, 225, 182, 87, 245, 53, 22, 60,
      250, 116, 66]
    ++ [128, 40, 0, 4, 66, 163, 116, 225] ++ List.replicate 120 0, by decide +kernel, ?_⟩
  intro h
  rcases h with ⟨xorAddress, address, integrity, fingerprint, _, hwalk⟩
  -- The walk does find a first attribute; its value is not the username.
  have hfirst := congrArg (fun walk => (walk.bind List.head?).map Tlv.value) hwalk
  revert hfirst
  simp only [Option.bind_some, List.head?_cons, Option.map_some]
  decide +kernel

/-- The longest username that is written in full into a response of 200
    bytes, by the family of the peer. -/
def usernameLimit : SocketAddr → Nat
  | .v4 _ _ => 116
  | .v6 _ _ _ _ => 96

/-- A response of 200 bytes can be written for a username of the given number
    of bytes: its padded length fits sixteen bits, and its value is left out,
    or bypasses the buffer, or has room. -/
def ResponseFits (length : Nat) (remote : SocketAddr) : Prop :=
  length % 65536 ≤ 65532 ∧ (length % 4 = 0 ∨ 8189 ≤ length ∨ length ≤ usernameLimit remote)

instance (length : Nat) (remote : SocketAddr) : Decidable (ResponseFits length remote) :=
  inferInstanceAs (Decidable (_ ∧ _))

/-- The username of an accepted session: four drawn characters, a colon and
    what the peer sent. -/
theorem usernameLen_of_accepted {resolver : SDPResolver} {session : NegotiatedSession}
    (h : Accepted resolver session) :
    usernameLen session.iceCredentials
      = 5 + (utf8 session.iceCredentials.remoteUsername).length := by
  rcases h.hostUsername with ⟨⟨drawn, hlen, halnum⟩, hhost⟩
  have hcolon : (utf8 ":".toList).length = 1 := by decide +kernel
  have hdrawn := length_utf8_alphanum halnum
  rw [usernameLen, username, hhost, utf8_append, utf8_append, List.length_append,
    List.length_append, hcolon, hdrawn, hlen]

/-- A response of 200 bytes, once the shape of the username attribute is
    known: it is there exactly when the attribute leaves room for the rest. -/
theorem createStunSuccess_ok_iff_room (digests : Digests) {credentials : ICECredentials}
    (transactionId : ByteArr stunTransactionIdLen) (remote : SocketAddr) {usernameAttr : Bytes}
    (hwrites : WritesUsername credentials usernameAttr) :
    (∃ n out, createStunSuccess digests credentials transactionId remote (List.replicate 200 0)
        = .ok (.ok (n, out))) ↔ messageLength remote usernameAttr.length ≤ 172 := by
  rw [createStunSuccess_eq digests transactionId remote _ hwrites, List.length_replicate]
  constructor
  · intro h
    rcases h with ⟨n, out, h⟩
    -- Without room one of the writes runs out of the buffer.
    by_contra hroom
    rw [if_neg (by omega)] at h
    split at h
    · cases h
    · rw [if_pos (by omega)] at h
      cases h
  · intro hroom
    rw [if_neg (by omega), if_neg (by omega), if_neg (by omega)]
    exact ⟨_, _, rfl⟩

/-- The response to a peer of an accepted session is written into 200 bytes
    without a panic exactly when its username fits. -/
theorem createStunSuccess_ok_iff (resolver : SDPResolver) (session : NegotiatedSession)
    (digests : Digests) (transactionId : ByteArr stunTransactionIdLen) (remote : SocketAddr)
    (h : Accepted resolver session) :
    (∃ n out, createStunSuccess digests session.iceCredentials transactionId remote
        (List.replicate 200 0) = .ok (.ok (n, out)))
      ↔ ResponseFits (5 + (utf8 session.iceCredentials.remoteUsername).length) remote := by
  rw [← usernameLen_of_accepted h]
  have hfamily : usernameLimit remote = 116 ∧ addressLen remote = 8 ∨
      usernameLimit remote = 96 ∧ addressLen remote = 20 := by
    cases remote with
    | v4 ip port => exact Or.inl ⟨rfl, rfl⟩
    | v6 ip port flowinfo scopeId => exact Or.inr ⟨rfl, rfl⟩
  unfold ResponseFits
  rcases writesUsername_cases session.iceCredentials with ⟨hmod, hle, hwrites⟩ |
    ⟨hun, hno, hwrites⟩ | ⟨hmod, hlong, hhi, hwrites⟩ | ⟨hbad, hpanic⟩
  · rw [createStunSuccess_ok_iff_room digests transactionId remote hwrites, List.length_append,
      length_usernameHeader, length_paddedUsername]
    unfold messageLength Tlv.padded
    omega
  · rw [createStunSuccess_ok_iff_room digests transactionId remote hwrites, length_usernameHeader]
    unfold messageLength
    omega
  · rw [createStunSuccess_ok_iff_room digests transactionId remote hwrites, List.length_nil]
    unfold messageLength
    omega
  · constructor
    · intro h
      rcases h with ⟨n, out, hok⟩
      exact absurd hok (createStunSuccess_panics digests transactionId remote _ hpanic _)
    · -- Every way for the username to panic is ruled out by the condition.
      intro hfits
      omega

/-- An offer with a username of eight characters is accepted, and its response
    can be written. -/
theorem createStunSuccess_ok_short_ufrag :
    ∃ session, loopbackResolver.acceptStreamOffer
        (offerText "someuser".toList "sendonly".toList "111".toList "96".toList) fixedDraws
        = .ok session ∧
      ∃ n out, createStunSuccess (fixedDigests ⟨[134, 80, 52, 253, 204, 5, 74, 196, 76, 52, 169,
          159, 193, 8, 123, 222, 54, 191, 31, 7], rfl⟩ 0xc6611780)
        session.iceCredentials ⟨List.replicate 12 0, rfl⟩ (.v4 ⟨[127, 0, 0, 1], rfl⟩ 5000)
        (List.replicate 200 0) = .ok (.ok (n, out)) := by
  have hrun : passes (loopbackResolver.acceptStreamOffer
      (offerText "someuser".toList "sendonly".toList "111".toList "96".toList) fixedDraws)
      (fun session => decide (ResponseFits
        (5 + (utf8 session.iceCredentials.remoteUsername).length)
        (.v4 ⟨[127, 0, 0, 1], rfl⟩ 5000))) = true := by
    decide +kernel
  rcases of_passes hrun with ⟨session, hsession, hfits⟩
  exact ⟨session, hsession, (createStunSuccess_ok_iff loopbackResolver session _ _ _
    (Or.inl ⟨_, _, hsession⟩)).mpr (of_decide_eq_true hfits)⟩

/-- A peer may choose its username so long that the answer to its own binding
    request panics: 113 characters in its offer are enough. -/
theorem createStunSuccess_panics_on_long_ufrag :
    ∃ session, loopbackResolver.acceptStreamOffer
        (offerText (List.replicate 113 'a') "sendonly".toList "111".toList "96".toList) fixedDraws
        = .ok session ∧
      createStunSuccess (fixedDigests ⟨List.replicate 20 0, rfl⟩ 0) session.iceCredentials
        ⟨List.replicate 12 0, rfl⟩ (.v4 ⟨[127, 0, 0, 1], rfl⟩ 5000) (List.replicate 200 0)
        = .error .unwrap := by
  have hrun : passes (loopbackResolver.acceptStreamOffer
      (offerText (List.replicate 113 'a') "sendonly".toList "111".toList "96".toList) fixedDraws)
      (fun session => decide (createStunSuccess (fixedDigests ⟨List.replicate 20 0, rfl⟩ 0)
        session.iceCredentials ⟨List.replicate 12 0, rfl⟩ (.v4 ⟨[127, 0, 0, 1], rfl⟩ 5000)
        (List.replicate 200 0) = .error .unwrap)) = true := by
    decide +kernel
  rcases of_passes hrun with ⟨session, hsession, hpanics⟩
  exact ⟨session, hsession, of_decide_eq_true hpanics⟩

end Stun

end SigmaMedia
