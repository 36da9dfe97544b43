import SigmaMedia.Base.Tlv
import SigmaMedia.Theory.Stun.Decode

/-!
# What the STUN Writer Writes

The success response, piece by piece, for every credential and every peer.

The only piece of unbounded length is the username, and it decides the fate of
the whole response. Its attribute comes out in one of three shapes. A value
that needs padding and fits the scratch array is written in full. A value that
needs none is left out, and so is one whose length no longer fits sixteen
bits: the attribute is a header with nothing behind it. A value large enough
to bypass the writer's buffer leaves an empty buffer, so the attribute is
missing altogether. Everything in between panics.

`writeUsernameAttribute_written`, `_unwritten`, `_bypassed`, `_overflow` and
`_tooLong` are these five cases; they cover every length.

## Main definitions

* `username`, `usernameLen`: The username of the response, and its bytes.
* `xorMappedAddress`, `mappedAddress`: The two address attributes.
* `addressLen`: The length of an address value.

## Theorems

* `xorRange_eq`: The masking loop is a pointwise xor.
* `writeUsernameAttribute_written` and its four companions: The shapes of the
  username attribute.
* `computeXorMappedAddress_eq`, `writeMappedAddressAttribute_eq`: The address
  attributes are encoded elements.
-/

namespace SigmaMedia

namespace Stun

open Bytes Exec Net Sdp Text

/-- The username of a response: host and remote, with a colon between. -/
def username (credentials : ICECredentials) : Text :=
  credentials.hostUsername ++ ":".toList ++ credentials.remoteUsername

/-- The number of bytes of the username. -/
def usernameLen (credentials : ICECredentials) : Nat := (utf8 (username credentials)).length

/-- The type and the length of the username attribute, the length cut to
    sixteen bits. -/
def usernameHeader (credentials : ICECredentials) : Bytes :=
  be16 StunAttributeType.username.key ++ be16 (UInt16.ofNat (usernameLen credentials))

theorem length_usernameHeader (credentials : ICECredentials) :
    (usernameHeader credentials).length = 4 := rfl

/-- The colon alone makes the username non-empty. -/
theorem usernameLen_pos (credentials : ICECredentials) : 0 < usernameLen credentials := by
  have hcolon : (utf8 ":".toList).length = 1 := by decide +kernel
  rw [usernameLen, username, utf8_append, utf8_append, List.length_append, List.length_append,
    hcolon]
  omega

theorem utf8_replicate_nul (n : Nat) :
    utf8 (List.replicate n '\x00') = List.replicate n 0 := by
  induction n with
  | zero => rfl
  | succ m ih =>
      rw [List.replicate_succ, List.replicate_succ, ← ih]
      rfl

/-- The attribute, as the writer goes about it: the header is buffered, and
    the padded value is written behind it only when it is longer than the
    value itself. -/
theorem writeUsernameAttribute_eq (credentials : ICECredentials) :
    writeUsernameAttribute 120 credentials = (do
      let padded ← padTo4bytes (UInt16.ofNat (usernameLen credentials))
      let writer ←
        if usernameLen credentials < padded.toNat then
          unwrapOk ((⟨usernameHeader credentials, [], 120⟩ : BufWriter).write
            (utf8 (username credentials)
              ++ List.replicate (padded.toNat - usernameLen credentials) 0))
        else .ok ⟨usernameHeader credentials, [], 120⟩
      let flushed ← unwrapOk writer.flush
      return (writer.buffer.length, flushed.filled (List.replicate 120 0))) := by
  -- The first two writes are small and stay in the buffer.
  have h1 : (BufWriter.new 120).write (be16 StunAttributeType.username.key)
      = .ok ⟨be16 StunAttributeType.username.key, [], 120⟩ := rfl
  have h2 : (⟨be16 StunAttributeType.username.key, [], 120⟩ : BufWriter).write
      (be16 (UInt16.ofNat (usernameLen credentials)))
      = .ok ⟨usernameHeader credentials, [], 120⟩ := rfl
  unfold writeUsernameAttribute
  simp only [h1, unwrapOk, ok_bind]
  rw [show (utf8 (credentials.hostUsername ++ ":".toList ++ credentials.remoteUsername)).length
    = usernameLen credentials from rfl, h2]
  simp only [ok_bind, utf8_append _ (List.replicate _ _), utf8_replicate_nul]
  rfl

/-- A length in the last three of its sixteen bits overflows when padded. -/
theorem writeUsernameAttribute_overflow {credentials : ICECredentials}
    (h : 65532 < usernameLen credentials % 65536) :
    ¬ Returns (writeUsernameAttribute 120 credentials) := by
  rw [writeUsernameAttribute_eq, returns_bind]
  intro hreturns
  rcases hreturns with ⟨padded, hp, _⟩
  rw [padTo4bytes_eq_ok, UInt16.toNat_ofNat'] at hp
  omega

theorem padTo4bytes_usernameLen {credentials : ICECredentials}
    (h : usernameLen credentials % 65536 ≤ 65532) :
    ∃ p, padTo4bytes (UInt16.ofNat (usernameLen credentials)) = .ok p ∧
      p.toNat = Tlv.padded (usernameLen credentials % 65536) := by
  have hlt : Tlv.padded (usernameLen credentials % 65536) < 65536 := by
    unfold Tlv.padded
    omega
  refine ⟨UInt16.ofNat (Tlv.padded (usernameLen credentials % 65536)), ?_, ?_⟩
  · rw [padTo4bytes_eq_ok, UInt16.toNat_ofNat', UInt16.toNat_ofNat']
    exact ⟨h, Nat.mod_eq_of_lt hlt⟩
  · rw [UInt16.toNat_ofNat']
    exact Nat.mod_eq_of_lt hlt

/-- A value that needs no padding, or whose length does not fit sixteen bits,
    is not written: the attribute is its header alone. -/
theorem writeUsernameAttribute_unwritten {credentials : ICECredentials}
    (h : usernameLen credentials % 65536 ≤ 65532)
    (hno : usernameLen credentials % 4 = 0 ∨ 65536 ≤ usernameLen credentials) :
    writeUsernameAttribute 120 credentials
      = .ok (4, usernameHeader credentials ++ List.replicate 116 0) := by
  rcases padTo4bytes_usernameLen h with ⟨p, hp, hpad⟩
  -- The branch that writes asks for a padded length above the true one.
  have hle : ¬ usernameLen credentials < p.toNat := by
    rw [hpad]
    unfold Tlv.padded
    omega
  rw [writeUsernameAttribute_eq, hp]
  simp only [ok_bind, if_neg hle]
  rfl

/-- The value behind the header, with its padding. -/
def paddedUsername (credentials : ICECredentials) : Bytes :=
  utf8 (username credentials)
    ++ List.replicate (Tlv.padded (usernameLen credentials) - usernameLen credentials) 0

theorem length_paddedUsername (credentials : ICECredentials) :
    (paddedUsername credentials).length = Tlv.padded (usernameLen credentials) := by
  have hle := Tlv.le_padded (usernameLen credentials)
  have hL : (utf8 (username credentials)).length = usernameLen credentials := rfl
  rw [paddedUsername, List.length_append, List.length_replicate, hL]
  omega

/-- A value that needs padding is written behind the header, whatever the
    writer then makes of it. -/
theorem writeUsernameAttribute_padded {credentials : ICECredentials}
    (hmod : usernameLen credentials % 4 ≠ 0) (hle : usernameLen credentials ≤ 65532) :
    writeUsernameAttribute 120 credentials = (do
      let writer ← unwrapOk ((⟨usernameHeader credentials, [], 120⟩ : BufWriter).write
        (paddedUsername credentials))
      let flushed ← unwrapOk writer.flush
      return (writer.buffer.length, flushed.filled (List.replicate 120 0))) := by
  have hL : usernameLen credentials % 65536 = usernameLen credentials :=
    Nat.mod_eq_of_lt (by omega)
  have hmodle : usernameLen credentials % 65536 ≤ 65532 := by omega
  rcases padTo4bytes_usernameLen hmodle with ⟨p, hp, hpad⟩
  rw [hL] at hpad
  have hlt : usernameLen credentials < Tlv.padded (usernameLen credentials) := by
    unfold Tlv.padded
    omega
  rw [writeUsernameAttribute_eq, hp]
  simp only [ok_bind, hpad, if_pos hlt]
  rfl

/-- A value that needs padding and fits the scratch array is written in
    full. -/
theorem writeUsernameAttribute_written {credentials : ICECredentials}
    (hmod : usernameLen credentials % 4 ≠ 0) (hle : usernameLen credentials ≤ 116) :
    writeUsernameAttribute 120 credentials
      = .ok (4 + Tlv.padded (usernameLen credentials),
          usernameHeader credentials ++ paddedUsername credentials
            ++ List.replicate (116 - Tlv.padded (usernameLen credentials)) 0) := by
  have hbound : Tlv.padded (usernameLen credentials) ≤ 116 := by
    unfold Tlv.padded
    omega
  have hlen : (usernameHeader credentials ++ paddedUsername credentials).length
      = 4 + Tlv.padded (usernameLen credentials) := by
    rw [List.length_append, length_usernameHeader, length_paddedUsername]
  have hcap : BufWriter.capacity = 8192 := rfl
  rw [writeUsernameAttribute_padded hmod (by omega), BufWriter.write_of_small (by
    rw [← List.length_append, hlen]
    omega)]
  simp only [unwrapOk, ok_bind]
  -- Four bytes and at most 116: the flush fits the slice.
  rw [BufWriter.flush_of_fits (by simp only [hlen]; omega)]
  simp only [ok_bind, pure_eq_ok, hlen, BufWriter.filled, List.nil_append, List.drop_replicate]
  rw [show 120 - (4 + Tlv.padded (usernameLen credentials))
    = 116 - Tlv.padded (usernameLen credentials) by omega]

/-- A value beyond the scratch array, and still small enough to be buffered,
    fails at the flush. -/
theorem writeUsernameAttribute_tooLong {credentials : ICECredentials}
    (hmod : usernameLen credentials % 4 ≠ 0) (hlo : 116 < usernameLen credentials)
    (hhi : usernameLen credentials < 8189) :
    ¬ Returns (writeUsernameAttribute 120 credentials) := by
  have hbound : 116 < Tlv.padded (usernameLen credentials) ∧
      Tlv.padded (usernameLen credentials) ≤ 8188 := by
    unfold Tlv.padded
    omega
  have hcap : BufWriter.capacity = 8192 := rfl
  -- The value is buffered, also when it fills the buffer to the last byte.
  have hwrite : (⟨usernameHeader credentials, [], 120⟩ : BufWriter).write
      (paddedUsername credentials)
      = .ok ⟨usernameHeader credentials ++ paddedUsername credentials, [], 120⟩ := by
    by_cases hfull : Tlv.padded (usernameLen credentials) = 8188
    · exact BufWriter.write_of_exact (by simp only [length_usernameHeader]; omega) (by
        simp only [length_usernameHeader, length_paddedUsername]
        omega)
    · exact BufWriter.write_of_small (by
        simp only [length_usernameHeader, length_paddedUsername]
        omega)
  rw [writeUsernameAttribute_padded hmod (by omega), hwrite]
  simp only [unwrapOk, ok_bind]
  rw [BufWriter.flush_of_overflow (by
    simp only [List.length_append, length_usernameHeader, length_paddedUsername]
    omega)]
  exact not_returns_error _

/-- A value that fills the writer's buffer goes past it, and the attribute is
    taken from a buffer that is empty again. -/
theorem writeUsernameAttribute_bypassed {credentials : ICECredentials}
    (hmod : usernameLen credentials % 4 ≠ 0) (hlo : 8189 ≤ usernameLen credentials)
    (hhi : usernameLen credentials ≤ 65532) :
    ∃ scratch, writeUsernameAttribute 120 credentials = .ok (0, scratch) := by
  have hbound : 8192 ≤ Tlv.padded (usernameLen credentials) := by
    unfold Tlv.padded
    omega
  have hcap : BufWriter.capacity = 8192 := rfl
  -- The header is flushed to make way, and the value goes to the array
  -- directly, as much of it as there is room for.
  have hflush : (⟨usernameHeader credentials, [], 120⟩ : BufWriter).flush
      = .ok ⟨[], usernameHeader credentials, 116⟩ := rfl
  rw [writeUsernameAttribute_padded hmod hhi, BufWriter.write_of_large
    (by simp only [length_usernameHeader]; omega)
    (by rw [length_paddedUsername]; omega) hflush]
  simp only [unwrapOk, ok_bind]
  rw [BufWriter.flush_of_fits (by simp only [BufWriter.store, List.length_nil]; omega)]
  exact ⟨_, rfl⟩

/-- The masking loop is a pointwise xor. -/
theorem xorRange_eq {target mask : Bytes} (h : target.length ≤ mask.length) :
    xorRange target mask = .ok (List.zipWith (· ^^^ ·) target mask) := by
  have hmap : xorRange target mask = .ok ((List.range target.length).map fun i =>
      target.getD i 0 ^^^ mask.getD i 0) := by
    refine mapM_eq_ok fun i hi => ?_
    have hlt : i < target.length := List.mem_range.mp hi
    rw [index_eq_ok.mpr (List.getElem?_eq_getElem hlt),
      index_eq_ok.mpr (List.getElem?_eq_getElem (by omega : i < mask.length))]
    simp only [ok_bind, pure_eq_ok, List.getD_eq_getElem?_getD,
      List.getElem?_eq_getElem hlt, List.getElem?_eq_getElem (by omega : i < mask.length),
      Option.getD_some]
  -- Both lists are as long as the target, and agree index by index.
  rw [hmap, Except.ok.injEq]
  apply List.ext_getElem
  · rw [List.length_map, List.length_range, List.length_zipWith]
    omega
  · intro i h1 h2
    rw [List.length_map, List.length_range] at h1
    simp only [List.getElem_map, List.getElem_range, List.getElem_zipWith,
      List.getD_eq_getElem?_getD, List.getElem?_eq_getElem h1,
      List.getElem?_eq_getElem (by omega : i < mask.length), Option.getD_some]

/-- The value of an address attribute: family, port, address. -/
def addressValue (family : UInt8) (port : UInt16) (address : Bytes) : Bytes :=
  [0, family] ++ be16 port ++ address

/-- The value of the masked address attribute. -/
def xorMappedAddress (remote : SocketAddr) (transactionId : ByteArr stunTransactionIdLen) :
    Bytes :=
  match remote with
  | .v4 ip port => addressValue 0x01 (port ^^^ (stunCookie >>> 16).toUInt16)
      (List.zipWith (· ^^^ ·) ip.val (be32 stunCookie))
  | .v6 ip port _ _ => addressValue 0x02 (port ^^^ (stunCookie >>> 16).toUInt16)
      (List.zipWith (· ^^^ ·) ip.val (be32 stunCookie ++ transactionId.val))

/-- The value of the plain address attribute. -/
def mappedAddress (remote : SocketAddr) : Bytes :=
  match remote with
  | .v4 ip port => addressValue 0x01 port ip.val
  | .v6 ip port _ _ => addressValue 0x2 port ip.val

/-- The length of an address value, by the family of the peer. -/
def addressLen : SocketAddr → Nat
  | .v4 _ _ => 8
  | .v6 _ _ _ _ => 20

theorem length_mappedAddress (remote : SocketAddr) :
    (mappedAddress remote).length = addressLen remote := by
  cases remote with
  | v4 ip port =>
      simp only [mappedAddress, addressValue, List.length_append, ip.property, addressLen,
        length_be16, List.length_cons, List.length_nil]
  | v6 ip port flowinfo scopeId =>
      simp only [mappedAddress, addressValue, List.length_append, ip.property, addressLen,
        length_be16, List.length_cons, List.length_nil]

theorem length_xorMappedAddress (remote : SocketAddr)
    (transactionId : ByteArr stunTransactionIdLen) :
    (xorMappedAddress remote transactionId).length = addressLen remote := by
  cases remote with
  | v4 ip port =>
      simp only [xorMappedAddress, addressValue, List.length_append, List.length_zipWith,
        ip.property, addressLen, length_be16, length_be32, List.length_cons, List.length_nil,
        min_self]
  | v6 ip port flowinfo scopeId =>
      simp only [xorMappedAddress, addressValue, List.length_append, List.length_zipWith,
        ip.property, transactionId.property, addressLen, length_be16, length_be32,
        List.length_cons, List.length_nil, stunTransactionIdLen, min_self]

theorem computeXorMappedAddress_eq (remote : SocketAddr)
    (transactionId : ByteArr stunTransactionIdLen) :
    computeXorMappedAddress remote transactionId
      = .ok (Tlv.encode ⟨StunAttributeType.xorMappedAddress.key,
          xorMappedAddress remote transactionId⟩ []) := by
  have hlen := length_xorMappedAddress remote transactionId
  cases remote with
  | v4 ip port =>
      rw [computeXorMappedAddress, xorRange_eq (by rw [ip.property]; exact Nat.le_refl 4)]
      simp only [ok_bind, pure_eq_ok, Tlv.encode, hlen, addressLen, List.append_nil]
      simp only [xorMappedAddress, addressValue, addressAttribute, List.append_assoc]
      rfl
  | v6 ip port flowinfo scopeId =>
      -- The mask is the cookie and the transaction id: sixteen bytes.
      rw [computeXorMappedAddress, xorRange_eq (by
        rw [ip.property, List.length_append, transactionId.property]
        exact Nat.le_refl 16)]
      simp only [ok_bind, pure_eq_ok, Tlv.encode, hlen, addressLen, List.append_nil]
      simp only [xorMappedAddress, addressValue, addressAttribute, List.append_assoc]
      rfl

theorem writeMappedAddressAttribute_eq (remote : SocketAddr) :
    writeMappedAddressAttribute 24 remote
      = .ok (Tlv.encode ⟨StunAttributeType.mappedAddress.key, mappedAddress remote⟩ []) := by
  have hlen := length_mappedAddress remote
  have hcap : BufWriter.capacity = 8192 := rfl
  -- Both families write the same layout, so the writer is followed once.
  have hgo : ∀ attr : Bytes, attr.length ≤ 24 → (do
      let writer ← unwrapOk ((BufWriter.new 24).write attr)
      let bytesWritten := writer.buffer.length
      let writer ← unwrapOk writer.flush
      sliceTo (writer.filled (List.replicate 24 0)) bytesWritten) = Except.ok attr := by
    intro attr hattr
    rw [BufWriter.write_of_small (by simp only [BufWriter.new, List.length_nil]; omega)]
    simp only [unwrapOk, ok_bind, BufWriter.new, List.nil_append]
    rw [BufWriter.flush_of_fits (by simp only []; omega)]
    simp only [ok_bind, BufWriter.filled, List.nil_append, sliceTo_eq_ok, List.length_append]
    exact ⟨by omega, List.take_left⟩
  cases remote with
  | v4 ip port =>
      rw [writeMappedAddressAttribute, hgo _ (by
        simp only [addressAttribute, List.length_append, length_be16, ip.property,
          List.length_cons, List.length_nil]
        omega)]
      simp only [Tlv.encode, hlen, addressLen, List.append_nil]
      simp only [mappedAddress, addressValue, addressAttribute, List.append_assoc]
      rfl
  | v6 ip port flowinfo scopeId =>
      rw [writeMappedAddressAttribute, hgo _ (by
        simp only [addressAttribute, List.length_append, length_be16, ip.property,
          List.length_cons, List.length_nil]
        omega)]
      simp only [Tlv.encode, hlen, addressLen, List.append_nil]
      simp only [mappedAddress, addressValue, addressAttribute, List.append_assoc]
      rfl

end Stun

end SigmaMedia
