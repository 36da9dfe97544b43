import SigmaMedia.Base.Tlv
import SigmaMedia.Core.Stun

/-!
# When the STUN Reader Returns

Which datagrams the reader gets through without a panic.

The header checks are harmless: whatever fails them is answered with nothing.
Past them the reader is committed, and every attribute has to be complete.
`AttributesComplete` says what that takes, by recursion on the bytes: each
attribute's length has to round up without overflow, its padded value has to
be there, and a username or an integrity value has to be what the reader takes
it for. One stray byte at the end is let through, since a type cannot be read
from it.

`readAttribute_cases` is the inversion of one turn of the loop, and the loop's
own lemma is the induction over it.

## Main definitions

* `HeaderAccepted`: The header checks pass.
* `ValueComplete`: A value is what its attribute type needs.
* `SplitsAttribute`: The bytes start with a whole attribute.
* `AttributesComplete`: The bytes are whole attributes to the end.

## Theorems

* `padTo4bytes_eq_ok`: What rounding a length up takes, and gives.
* `readAttribute_of_split`: A turn of the loop on a whole attribute.
* `readAttributes_returns_iff`: When the loop returns.
* `getStunPacket_returns_iff`: When the reader returns.
-/

namespace SigmaMedia

namespace Stun

open Bytes Exec Text

theorem padTo4bytes_eq_ok {v p : UInt16} :
    padTo4bytes v = .ok p ↔ v.toNat ≤ 65532 ∧ p.toNat = Tlv.padded v.toNat := by
  have hlt := v.toNat_lt
  have hmod : (v % 4).toNat = v.toNat % 4 := UInt16.toNat_mod v 4
  unfold padTo4bytes Tlv.padded
  by_cases h : v % 4 = 0
  · -- A multiple of four is left alone, and the largest one is 65532.
    have hz : v.toNat % 4 = 0 := by
      rw [← hmod, h]
      rfl
    simp only [h, if_true, Except.ok.injEq]
    constructor
    · rintro rfl
      omega
    · intro hp
      apply UInt16.toNat_inj.mp
      omega
  · have hz : v.toNat % 4 ≠ 0 := fun hc => h (UInt16.toNat_inj.mp (hmod.trans hc))
    simp only [h, if_false, bind_eq_ok, checkedAdd16_eq_ok, pure_eq_ok, Except.ok.injEq]
    have hfour : (4 : UInt16).toNat = 4 := rfl
    -- The sum is formed first; it fits exactly below the last three lengths.
    have hval : v.toNat + 4 < 65536 → (v + 4 - v % 4).toNat = (v.toNat + 3) / 4 * 4 := by
      intro hfit
      have hsum : (v + 4).toNat = v.toNat + 4 := by
        rw [UInt16.toNat_add, hfour]
        omega
      rw [UInt16.toNat_sub_of_le _ _ (by rw [UInt16.le_iff_toNat_le]; omega), hsum, hmod]
      omega
    constructor
    · intro h
      rcases h with ⟨_, ⟨hfit, rfl⟩, rfl⟩
      exact ⟨by omega, hval (by omega)⟩
    · intro h
      rcases h with ⟨hle, hp⟩
      refine ⟨v + 4, ⟨by omega, rfl⟩, ?_⟩
      apply UInt16.toNat_inj.mp
      rw [hval (by omega), hp]

/-- A value is what the reader takes an attribute of this type for: a username
    is text with a colon in it, an integrity value has its twenty bytes. -/
def ValueComplete (key : UInt16) (value : Bytes) : Prop :=
  (key = StunAttributeType.username.key → ∃ t : Text, value = utf8 t ∧ ':' ∈ t) ∧
    (key = StunAttributeType.messageIntegrity.key → stunMessageIntegrityLen ≤ value.length)

/-- The bytes start with a whole attribute, its value padded. -/
def SplitsAttribute (b : Bytes) (key length : UInt16) (value rest : Bytes) : Prop :=
  b = be16 key ++ be16 length ++ value ++ rest ∧ length.toNat ≤ 65532 ∧
    value.length = Tlv.padded length.toNat

/-- The bytes are whole attributes to the end, up to one stray byte. -/
inductive AttributesComplete : Bytes → Prop
  | dry (b : Bytes) : b.length < 2 → AttributesComplete b
  | more (b : Bytes) (key length : UInt16) (value rest : Bytes) :
      SplitsAttribute b key length value rest → ValueComplete key value →
      AttributesComplete rest → AttributesComplete b

/-- The header checks pass: a binding request with the magic cookie, whose
    length is a multiple of four and lies within the datagram. -/
def HeaderAccepted (packet : Bytes) : Prop :=
  ∃ (length : UInt16) (rest : Bytes),
    packet = be16 StunType.bindingRequest.key ++ be16 length ++ be32 stunCookie ++ rest ∧
      stunTransactionIdLen ≤ rest.length ∧ length % 4 = 0 ∧
      stunHeaderLen + length.toNat ≤ packet.length

theorem decodeAttribute_username_returns (value : Bytes) :
    Returns (decodeAttribute .username value) ↔ ∃ t : Text, value = utf8 t ∧ ':' ∈ t := by
  simp only [decodeAttribute, returns_bind, unwrap_eq_ok, Prod.exists, pure_eq_ok, returns_ok,
    and_true, fromUtf8_eq_some]
  -- Two things can go wrong: the bytes are not text, the text has no colon.
  refine exists_congr fun t => and_congr_right fun _ => ?_
  rw [← splitOnce_singleton_isSome, Option.isSome_iff_exists, Prod.exists]
  rfl

theorem decodeAttribute_messageIntegrity_returns (value : Bytes) :
    Returns (decodeAttribute .messageIntegrity value)
      ↔ stunMessageIntegrityLen ≤ value.length := by
  unfold decodeAttribute
  by_cases hl : stunMessageIntegrityLen ≤ value.length
  · simp only [dif_pos hl]
    exact ⟨fun _ => hl, fun _ => returns_ok _⟩
  · simp only [dif_neg hl]
    exact ⟨fun hc => absurd hc (not_returns_error _), fun hc => absurd hc hl⟩

theorem decodeAttribute_returns_iff (key : UInt16) (value : Bytes) :
    Returns (decodeAttribute (StunAttributeType.ofKey key) value) ↔ ValueComplete key value := by
  by_cases hu : key = StunAttributeType.username.key
  · subst hu
    have hm : ¬ StunAttributeType.username.key = StunAttributeType.messageIntegrity.key := by decide
    refine (decodeAttribute_username_returns value).trans ?_
    exact ⟨fun h => ⟨fun _ => h, fun hc => absurd hc hm⟩, fun h => h.1 rfl⟩
  · by_cases hm : key = StunAttributeType.messageIntegrity.key
    · subst hm
      refine (decodeAttribute_messageIntegrity_returns value).trans ?_
      exact ⟨fun h => ⟨fun hc => absurd hc hu, fun _ => h⟩, fun h => h.2 rfl⟩
    · -- Every other type is taken as it is.
      refine ⟨fun _ => ⟨fun hc => absurd hc hu, fun hc => absurd hc hm⟩, fun _ => ?_⟩
      simp only [StunAttributeType.key] at hu hm
      rw [StunAttributeType.ofKey, if_neg hu, if_neg hm]
      by_cases hi : key = 0x802a
      · rw [if_pos hi]
        exact returns_ok _
      · rw [if_neg hi]
        by_cases hc : key = 0x25
        · rw [if_pos hc]
          exact returns_ok _
        · rw [if_neg hc]
          exact returns_ok _

theorem readAttribute_dry {b : Bytes} (h : b.length < 2) : readAttribute b = .ok none := by
  rw [readAttribute, readU16_eq_none.mpr h]

/-- A turn of the loop on a whole attribute decodes its value and goes on
    behind it. -/
theorem readAttribute_of_split {b value rest : Bytes} {key length : UInt16}
    (h : SplitsAttribute b key length value rest) :
    readAttribute b = (do
      let attr ← decodeAttribute (StunAttributeType.ofKey key) value
      return some (attr, rest)) := by
  rcases h with ⟨rfl, hle, hval⟩
  -- The padded length is computed in 16 bits and still fits there.
  have hpad : padTo4bytes length = .ok (UInt16.ofNat value.length) := by
    have hlt := length.toNat_lt
    rw [padTo4bytes_eq_ok, UInt16.toNat_ofNat', hval]
    refine ⟨hle, Nat.mod_eq_of_lt ?_⟩
    unfold Tlv.padded
    omega
  have hfit : (UInt16.ofNat value.length).toNat = value.length := by
    rw [(padTo4bytes_eq_ok.mp hpad).2, hval]
  have hread : readExact value.length (value ++ rest) = some (value, rest) :=
    readExact_eq_some.mpr ⟨rfl, rfl⟩
  simp only [readAttribute, List.append_assoc, readU16_be16, unwrap, ok_bind, hpad, hfit, hread]

/-- A turn of the loop that goes on has read a whole attribute. -/
theorem readAttribute_cases {b : Bytes} (h : Returns (readAttribute b)) :
    b.length < 2 ∨ ∃ key length value rest, SplitsAttribute b key length value rest ∧
      ValueComplete key value := by
  rcases hk : readU16 b with _ | ⟨key, r₁⟩
  · exact Or.inl (readU16_eq_none.mp hk)
  · right
    rw [readAttribute, hk] at h
    simp only [returns_bind, Prod.exists, unwrap_eq_ok] at h
    rcases h with ⟨length, r₂, hl, pad, hp, value, rest, hv, attr, ha, _⟩
    rw [readU16_eq_some] at hk hl
    rw [padTo4bytes_eq_ok] at hp
    rw [readExact_eq_some] at hv
    -- The three reads put together are the shape of an attribute.
    refine ⟨key, length, value, rest, ⟨?_, hp.1, by rw [hv.1, hp.2]⟩, ?_⟩
    · rw [hk, hl, hv.2]
      simp only [List.append_assoc]
    · exact (decodeAttribute_returns_iff key value).mp ⟨attr, ha⟩

theorem readAttributes_dry {b : Bytes} (h : b.length < 2) : readAttributes b = .ok [] := by
  rw [readAttributes]
  split
  · rename_i hr
    rw [readAttribute_dry h] at hr
    cases hr
  · rfl
  · rename_i hr
    rw [readAttribute_dry h] at hr
    cases hr

theorem readAttributes_of_read {b rest : Bytes} {attr : StunAttribute}
    (h : readAttribute b = .ok (some (attr, rest))) :
    readAttributes b = (do
      let attributes ← readAttributes rest
      return attr :: attributes) := by
  rw [readAttributes]
  split
  · rename_i hr
    rw [h] at hr
    cases hr
  · rename_i hr
    rw [h] at hr
    cases hr
  · rename_i hr
    rw [h] at hr
    cases hr
    rfl

theorem readAttributes_of_error {b : Bytes} {p : Panic} (h : readAttribute b = .error p) :
    readAttributes b = .error p := by
  rw [readAttributes]
  split
  · rename_i hr
    rw [h] at hr
    cases hr
    rfl
  · rename_i hr
    rw [h] at hr
    cases hr
  · rename_i hr
    rw [h] at hr
    cases hr

theorem readAttributes_returns_iff (b : Bytes) :
    Returns (readAttributes b) ↔ AttributesComplete b := by
  constructor
  · intro h
    -- The loop shortens its input, so the induction is on its length.
    induction hn : b.length using Nat.strong_induction_on generalizing b with
    | _ n ih =>
        -- A panic in the first turn would be the panic of the loop.
        have hone : Returns (readAttribute b) := by
          by_contra hc
          rcases not_returns_iff.mp hc with ⟨p, hp⟩
          rw [readAttributes_of_error hp] at h
          exact not_returns_error _ h
        rcases readAttribute_cases hone with hdry | ⟨key, length, value, rest, hs, hv⟩
        · exact AttributesComplete.dry b hdry
        · rcases (decodeAttribute_returns_iff key value).mpr hv with ⟨attr, ha⟩
          have hread : readAttribute b = .ok (some (attr, rest)) := by
            rw [readAttribute_of_split hs, ha]
            rfl
          rw [readAttributes_of_read hread, returns_bind] at h
          rcases h with ⟨attributes, hrest, _⟩
          have hlt := readAttribute_length hread
          exact AttributesComplete.more b key length value rest hs hv
            (ih rest.length (by omega) rest ⟨attributes, hrest⟩ rfl)
  · intro h
    -- The other way round, the induction is on the attributes.
    induction h with
    | dry b hdry => exact ⟨[], readAttributes_dry hdry⟩
    | more b key length value rest hs hv _ ih =>
        rcases (decodeAttribute_returns_iff key value).mpr hv with ⟨attr, ha⟩
        have hread : readAttribute b = .ok (some (attr, rest)) := by
          rw [readAttribute_of_split hs, ha]
          rfl
        rw [readAttributes_of_read hread, returns_bind]
        rcases ih with ⟨attributes, hrest⟩
        exact ⟨attributes, hrest, returns_ok _⟩

/-- A datagram that fails a header check is not a request. -/
theorem parseStunPacket_of_not_accepted {packet : Bytes} (h : ¬ HeaderAccepted packet) :
    parseStunPacket packet = .ok none := by
  unfold parseStunPacket
  -- One check after another; each that fails gives the answer at once.
  by_cases hshort : packet.length < stunHeaderLen
  · rw [if_pos hshort]
  rw [if_neg hshort]
  rcases h1 : readU16 packet with _ | ⟨messageType, r₁⟩
  · rfl
  by_cases htype : messageType ≠ StunType.bindingRequest.key
  · simp only [if_pos htype]
  simp only [if_neg htype]
  rcases h2 : readU16 r₁ with _ | ⟨length, r₂⟩
  · rfl
  by_cases hlen : length % 4 ≠ 0 ∨ packet.length < stunHeaderLen + length.toNat
  · simp only [if_pos hlen]
  simp only [if_neg hlen]
  rcases h3 : readU32 r₂ with _ | ⟨cookie, r₃⟩
  · rfl
  by_cases hcookie : cookie ≠ stunCookie
  · simp only [if_pos hcookie]
  -- All checks passed after all.
  refine absurd ⟨length, r₃, ?_, ?_, ?_, ?_⟩ h
  · rw [readU16_eq_some] at h1 h2
    rw [readU32_eq_some] at h3
    rw [h1, h2, h3, not_not.mp htype, not_not.mp hcookie]
    simp only [List.append_assoc]
  · rw [readU16_eq_some] at h1 h2
    rw [readU32_eq_some] at h3
    rw [h1, h2, h3] at hshort
    simp only [List.length_append, length_be16, length_be32, stunHeaderLen] at hshort
    unfold stunTransactionIdLen
    omega
  · exact not_not.mp fun hc => hlen (Or.inl hc)
  · exact Nat.le_of_not_lt fun hc => hlen (Or.inr hc)

/-- Past the header checks the outcome is that of the attribute loop on
    everything behind the header. -/
theorem parseStunPacket_of_accepted {packet : Bytes} (h : HeaderAccepted packet) :
    parseStunPacket packet = (do
      let attributes ← readAttributes (packet.drop stunHeaderLen)
      return some { transactionId := (readInto stunTransactionIdLen (packet.drop 8)).1,
                    attributes := attributes }) := by
  rcases h with ⟨length, rest, hp, hrest, hmod, hlen⟩
  have hlong : ¬ packet.length < stunHeaderLen := by omega
  have hbad : ¬ (length % 4 ≠ 0 ∨ packet.length < stunHeaderLen + length.toNat) := by
    rintro (hc | hc)
    · exact hc hmod
    · omega
  -- The transaction id starts behind the cookie, the attributes behind that.
  have hdrop8 : packet.drop 8 = rest := by
    rw [hp]
    rfl
  have hdrop : packet.drop stunHeaderLen = rest.drop stunTransactionIdLen := by
    rw [hp]
    rfl
  unfold parseStunPacket
  rw [if_neg hlong, hdrop, hdrop8]
  have h1 : readU16 packet = some (StunType.bindingRequest.key,
      be16 length ++ be32 stunCookie ++ rest) := by
    rw [readU16_eq_some, hp]
    simp only [List.append_assoc]
  simp only [h1, List.append_assoc, readU16_be16, readU32_be32, if_neg hbad, ne_eq,
    not_true_eq_false, if_false, readInto]

theorem getStunPacket_of_accepted {data : Bytes} (h : HeaderAccepted data) :
    getStunPacket data = (do
      let attributes ← readAttributes (data.drop stunHeaderLen)
      return parseBindingRequest
        { transactionId := (readInto stunTransactionIdLen (data.drop 8)).1,
          attributes := attributes }) := by
  rw [getStunPacket, parseStunPacket_of_accepted h]
  cases readAttributes (data.drop stunHeaderLen) with
  | error p => rfl
  | ok attributes => rfl

/-- The integrity value of an attribute, if it has one. -/
def StunAttribute.integrity? : StunAttribute → Option (ByteArr stunMessageIntegrityLen)
  | .messageIntegrity value => some value
  | _ => none

/-- The username of an attribute, if it has one. -/
def StunAttribute.username? : StunAttribute → Option SessionUsername
  | .username value => some value
  | _ => none

/-- Whether an attribute asks for a nomination. -/
def StunAttribute.nominates? : StunAttribute → Option Unit
  | .useCandidate => some ()
  | _ => none

/-- What a request is taken for, once it is known whether it nominates. -/
def ICEStunMessageType.ofFlag (nominates : Bool) (packet : ICEStunPacket) : ICEStunMessageType :=
  if nominates then .nomination packet else .liveCheck packet

theorem findSome?_nominates (attributes : List StunAttribute) :
    (attributes.findSome? StunAttribute.nominates?).isSome
      = decide (StunAttribute.useCandidate ∈ attributes) := by
  rw [Bool.eq_iff_iff, List.findSome?_isSome_iff, decide_eq_true_eq]
  constructor
  · intro h
    rcases h with ⟨attr, hmem, hsome⟩
    cases attr with
    | useCandidate => exact hmem
    | _ => cases hsome
  · intro h
    exact ⟨.useCandidate, h, rfl⟩

/-- A request is made of the first integrity value and the first username, and
    is a nomination if it asks for that anywhere. -/
theorem parseBindingRequest_eq (request : StunBindingRequest) :
    parseBindingRequest request
      = (request.attributes.findSome? StunAttribute.integrity?).bind fun messageIntegrity =>
          (request.attributes.findSome? StunAttribute.username?).bind fun usernameAttribute =>
            some (.ofFlag (decide (.useCandidate ∈ request.attributes))
              { messageIntegrity, usernameAttribute,
                transactionId := request.transactionId }) := by
  rw [← findSome?_nominates]
  unfold parseBindingRequest
  simp only [Option.bind_eq_bind]
  congr 1
  -- Both look for the integrity value first, and then for the username.
  funext messageIntegrity
  congr 1
  funext usernameAttribute
  split
  · rename_i hflag
    rw [show request.attributes.findSome? StunAttribute.nominates? = none from hflag]
    rfl
  · rename_i hflag
    rw [show request.attributes.findSome? StunAttribute.nominates? = some _ from hflag]
    rfl

/-- The reader returns exactly on the datagrams that fail a header check and
    on those whose bytes behind the header are whole attributes. -/
theorem getStunPacket_returns_iff (data : Bytes) :
    Returns (getStunPacket data)
      ↔ (HeaderAccepted data → AttributesComplete (data.drop stunHeaderLen)) := by
  rw [getStunPacket, returns_bind]
  -- With a header that is refused no attribute is read, and nothing can fail.
  by_cases h : HeaderAccepted data
  · rw [parseStunPacket_of_accepted h]
    simp only [bind_eq_ok, pure_eq_ok, Except.ok.injEq, returns_ok, and_true, h, true_implies,
      ← readAttributes_returns_iff]
    constructor
    · intro h
      rcases h with ⟨_, attributes, ha, _⟩
      exact ⟨attributes, ha⟩
    · intro h
      rcases h with ⟨attributes, ha⟩
      exact ⟨_, attributes, ha, rfl⟩
  · rw [parseStunPacket_of_not_accepted h]
    exact ⟨fun _ hc => absurd hc h, fun _ => ⟨none, rfl, returns_ok _⟩⟩

/-- A request cut right behind an attribute type: a length cannot be read. -/
theorem getStunPacket_panics_on_cut_attribute :
    ¬ Returns (getStunPacket [0x00, 0x01, 0x00, 0x00, 0x21, 0x12, 0xa4, 0x42,
      0, 0, 0, 0, 0, 0, 0, 0, 0, 0, 0, 0, 0x00, 0x06]) := by
  have h : getStunPacket [0x00, 0x01, 0x00, 0x00, 0x21, 0x12, 0xa4, 0x42,
      0, 0, 0, 0, 0, 0, 0, 0, 0, 0, 0, 0, 0x00, 0x06] = .error .unwrap := by decide +kernel
  rw [h]
  exact not_returns_error _

end Stun

end SigmaMedia
