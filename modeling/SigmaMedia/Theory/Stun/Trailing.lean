import SigmaMedia.Theory.Stun.Decode

/-!
# Where a Message Ends

The header of a message says how long it is, and the reader checks that so
many bytes are there. Then it reads attributes until the datagram is used up,
whether or not the message is over, so whatever follows the message is read as
if it were part of it.

What that does depends on the message alone as far as it is well formed: its
attributes are read first and in full, and those behind it are added to them.
They go unnoticed if they are well formed too and bring nothing the request is
made from. A message that is cut short is another matter: its last attribute
takes what it lacks from the bytes behind it.

`TrailingHarmless` is the exact condition.

## Main definitions

* `Declares`: The header checks pass, with a declared length.
* `Carries`: The bytes carry an attribute of a type.
* `NamesSession`: A request can be made of the attributes.
* `TrailingHarmless`: The bytes behind a message go unnoticed.

## Theorems

* `readAttributes_append`: The attributes of a message and of what follows.
* `carries_iff`: Which attributes are read.
* `parseBindingRequest_append_iff`: When more attributes change nothing.
* `sameOutcome_take_iff`: When the bytes behind a message change nothing.
-/

namespace SigmaMedia

namespace Stun

open Bytes Exec Text

/-- The header checks pass, and the header declares the length. -/
def Declares (data : Bytes) (length : UInt16) : Prop :=
  ∃ rest : Bytes,
    data = be16 StunType.bindingRequest.key ++ be16 length ++ be32 stunCookie ++ rest ∧
      stunTransactionIdLen ≤ rest.length ∧ length % 4 = 0 ∧
      stunHeaderLen + length.toNat ≤ data.length

/-- Walking over whole attributes, one of the type is met. -/
inductive Carries : Bytes → UInt16 → Prop
  | here {b value rest : Bytes} {key length : UInt16} :
      SplitsAttribute b key length value rest → Carries b key
  | later {b value rest : Bytes} {key key' length : UInt16} :
      SplitsAttribute b key' length value rest → Carries rest key → Carries b key

/-- A request can be made of attributes of the given types: an integrity value
    and a username are among them. -/
def NamesSession (carries : UInt16 → Prop) : Prop :=
  carries StunAttributeType.messageIntegrity.key ∧ carries StunAttributeType.username.key

/-- The bytes behind a message go unnoticed. If the message is well formed,
    they are well formed too, and they bring no nomination to a request that
    was none and nothing that makes a request of what was none. If it is not,
    they do not make it well formed. -/
def TrailingHarmless (message trailing : Bytes) : Prop :=
  (AttributesComplete message →
    AttributesComplete trailing ∧
      ((NamesSession (Carries message) ∧
          (Carries trailing StunAttributeType.useCandidate.key →
            Carries message StunAttributeType.useCandidate.key)) ∨
        (¬ NamesSession (Carries message) ∧
          ¬ NamesSession fun key => Carries message key ∨ Carries trailing key))) ∧
    (¬ AttributesComplete message → ¬ AttributesComplete (message ++ trailing))

theorem SplitsAttribute.length {b value rest : Bytes} {key length : UInt16}
    (h : SplitsAttribute b key length value rest) :
    b.length = 4 + Tlv.padded length.toNat + rest.length := by
  rcases h with ⟨rfl, _, hvalue⟩
  simp only [List.length_append, length_be16, hvalue]

/-- An attribute can be taken off the front in one way only. -/
theorem SplitsAttribute.unique {b value value' rest rest' : Bytes}
    {key key' length length' : UInt16} (h : SplitsAttribute b key length value rest)
    (h' : SplitsAttribute b key' length' value' rest') : key = key' ∧ rest = rest' := by
  rcases h with ⟨hb, _, hvalue⟩
  rcases h' with ⟨hb', _, hvalue'⟩
  -- The key is the first two bytes, and the length the two behind.
  have hkey : readU16 b = some (key, be16 length ++ (value ++ rest)) := by
    rw [hb, List.append_assoc, List.append_assoc, readU16_be16]
  have hkey' : readU16 b = some (key', be16 length' ++ (value' ++ rest')) := by
    rw [hb', List.append_assoc, List.append_assoc, readU16_be16]
  rw [hkey, Option.some.injEq, Prod.mk.injEq] at hkey'
  rcases hkey' with ⟨rfl, hbehind⟩
  have hlength : readU16 (be16 length ++ (value ++ rest)) = some (length, value ++ rest) :=
    readU16_be16 _ _
  rw [hbehind, readU16_be16, Option.some.injEq, Prod.mk.injEq] at hlength
  rcases hlength with ⟨rfl, hvalues⟩
  exact ⟨rfl, (List.append_inj hvalues (by rw [hvalue, hvalue'])).2.symm⟩

theorem SplitsAttribute.append {b value rest : Bytes} {key length : UInt16}
    (h : SplitsAttribute b key length value rest) (more : Bytes) :
    SplitsAttribute (b ++ more) key length value (rest ++ more) := by
  rcases h with ⟨rfl, hle, hvalue⟩
  refine ⟨?_, hle, hvalue⟩
  simp only [List.append_assoc]

/-- Attributes that end where four bytes do are read in full before those
    behind them. -/
theorem readAttributes_append {message : Bytes} (h : AttributesComplete message)
    (hlen : message.length % 4 = 0) (trailing : Bytes) :
    readAttributes (message ++ trailing) = (do
      let attributes ← readAttributes message
      let attributes' ← readAttributes trailing
      return attributes ++ attributes') := by
  induction h with
  | dry b hdry =>
      -- A stray byte would not fit the length.
      have hnil : b = [] := List.eq_nil_of_length_eq_zero (by omega)
      have hdone : readAttributes [] = .ok [] := readAttributes_dry Nat.zero_lt_two
      rw [hnil, List.nil_append, hdone, ok_bind]
      cases readAttributes trailing with
      | error p => rfl
      | ok attributes' => rfl
  | more b key length value rest hsplit hvalue _ ih =>
      have hrest : rest.length % 4 = 0 := by
        have hb := hsplit.length
        unfold Tlv.padded at hb
        omega
      rcases (decodeAttribute_returns_iff key value).mpr hvalue with ⟨attr, hattr⟩
      have hread : readAttribute b = .ok (some (attr, rest)) := by
        rw [readAttribute_of_split hsplit, hattr]
        rfl
      have hread' : readAttribute (b ++ trailing) = .ok (some (attr, rest ++ trailing)) := by
        rw [readAttribute_of_split (hsplit.append trailing), hattr]
        rfl
      rw [readAttributes_of_read hread, readAttributes_of_read hread', ih hrest]
      cases readAttributes rest with
      | error p => rfl
      | ok attributes =>
          cases readAttributes trailing with
          | error p => rfl
          | ok attributes' => rfl

/-- The type an attribute was read as. -/
def StunAttribute.type : StunAttribute → StunAttributeType
  | .unknown => .unknown
  | .messageIntegrity _ => .messageIntegrity
  | .username _ => .username
  | .iceControlling => .iceControlling
  | .useCandidate => .useCandidate

/-- The types a request is made from. -/
def requestTypes : List StunAttributeType := [.messageIntegrity, .username, .useCandidate]

theorem ofKey_eq_iff {type : StunAttributeType} (h : type ∈ requestTypes) (key : UInt16) :
    StunAttributeType.ofKey key = type ↔ key = type.key := by
  simp only [requestTypes, List.mem_cons, List.not_mem_nil, or_false] at h
  constructor
  · intro hkey
    unfold StunAttributeType.ofKey at hkey
    -- Only its own key leads to each of the three types.
    rcases h with rfl | rfl | rfl
    · split_ifs at hkey with h₁ h₂
      exact h₂
    · split_ifs at hkey with h₁
      exact h₁
    · split_ifs at hkey with h₁ h₂ h₃ h₄
      exact h₄
  · rintro rfl
    rcases h with rfl | rfl | rfl <;> rfl

theorem decodeAttribute_type {key : UInt16} {value : Bytes} {attr : StunAttribute}
    (h : decodeAttribute (StunAttributeType.ofKey key) value = .ok attr) :
    attr.type = StunAttributeType.ofKey key := by
  unfold StunAttributeType.ofKey at h ⊢
  -- Along the keys, in the order in which they are compared.
  split_ifs at h ⊢ with h₁ h₂ h₃ h₄
  · simp only [decodeAttribute, bind_eq_ok, Prod.exists, pure_eq_ok, Except.ok.injEq] at h
    rcases h with ⟨_, _, _, _, _, rfl⟩
    rfl
  · simp only [decodeAttribute] at h
    split at h
    · cases h
      rfl
    · cases h
  · cases h
    rfl
  · cases h
    rfl
  · cases h
    rfl

/-- An attribute of the type is among those read. -/
def Among (attributes : List StunAttribute) (type : StunAttributeType) : Prop :=
  ∃ attr ∈ attributes, attr.type = type

/-- The attributes that were read are those the bytes carry. -/
theorem carries_iff {b : Bytes} {attributes : List StunAttribute}
    (h : readAttributes b = .ok attributes) {type : StunAttributeType}
    (htype : type ∈ requestTypes) :
    Carries b type.key ↔ Among attributes type := by
  have hcomplete := (readAttributes_returns_iff b).mp ⟨attributes, h⟩
  -- Over the reading of the bytes, an attribute at a time.
  induction hcomplete generalizing attributes with
  | dry b hdry =>
      rw [readAttributes_dry hdry] at h
      cases h
      -- Too few bytes for the head of an attribute: neither side has any.
      refine ⟨?_, ?_⟩
      · intro hcarries
        cases hcarries with
        | here hsplit =>
            have hlength := hsplit.length
            omega
        | later hsplit _ =>
            have hlength := hsplit.length
            omega
      · intro hattr
        rcases hattr with ⟨attr, hmem, _⟩
        cases hmem
  | more b key length value rest hsplit hvalue _ ih =>
      rcases (decodeAttribute_returns_iff key value).mpr hvalue with ⟨attr, hattr⟩
      have hread : readAttribute b = .ok (some (attr, rest)) := by
        rw [readAttribute_of_split hsplit, hattr]
        rfl
      rw [readAttributes_of_read hread, bind_eq_ok] at h
      rcases h with ⟨attributes', hrest, hcons⟩
      cases hcons
      -- The first attribute is of the type, or one of the others is.
      have hlater : Carries rest type.key ↔ Among attributes' type := ih hrest
      rw [Among, List.exists_mem_cons_iff, decodeAttribute_type hattr, ofKey_eq_iff htype]
      change _ ↔ _ ∨ Among attributes' type
      rw [← hlater]
      constructor
      · intro hcarries
        cases hcarries with
        | here hsplit' => exact Or.inl (hsplit.unique hsplit').1
        | later hsplit' hbehind => exact Or.inr ((hsplit.unique hsplit').2 ▸ hbehind)
      · intro hcarries
        rcases hcarries with rfl | hbehind
        · exact .here hsplit
        · exact .later hsplit hbehind

theorem integrity?_isSome (attr : StunAttribute) :
    attr.integrity?.isSome = true ↔ attr.type = .messageIntegrity := by
  cases attr <;> simp only [StunAttribute.integrity?, StunAttribute.type, Option.isSome_none,
    Option.isSome_some, Bool.false_eq_true, reduceCtorEq]

theorem username?_isSome (attr : StunAttribute) :
    attr.username?.isSome = true ↔ attr.type = .username := by
  cases attr <;> simp only [StunAttribute.username?, StunAttribute.type, Option.isSome_none,
    Option.isSome_some, Bool.false_eq_true, reduceCtorEq]

theorem findSome?_integrity_isSome (attributes : List StunAttribute) :
    (attributes.findSome? StunAttribute.integrity?).isSome = true ↔
      Among attributes .messageIntegrity := by
  rw [List.findSome?_isSome_iff]
  exact exists_congr fun attr => and_congr_right fun _ => integrity?_isSome attr

theorem findSome?_username_isSome (attributes : List StunAttribute) :
    (attributes.findSome? StunAttribute.username?).isSome = true ↔
      Among attributes .username := by
  rw [List.findSome?_isSome_iff]
  exact exists_congr fun attr => and_congr_right fun _ => username?_isSome attr

theorem useCandidate_mem_iff (attributes : List StunAttribute) :
    StunAttribute.useCandidate ∈ attributes ↔ Among attributes .useCandidate := by
  constructor
  · intro h
    exact ⟨.useCandidate, h, rfl⟩
  · intro h
    rcases h with ⟨attr, hmem, htype⟩
    cases attr with
    | useCandidate => exact hmem
    | _ => cases htype

theorem ofFlag_inj {f g : Bool} {packet packet' : ICEStunPacket} :
    ICEStunMessageType.ofFlag f packet = ICEStunMessageType.ofFlag g packet' ↔
      f = g ∧ packet = packet' := by
  cases f <;> cases g <;> simp only [ICEStunMessageType.ofFlag, reduceCtorEq, if_true, if_false,
    Bool.false_eq_true, ICEStunMessageType.nomination.injEq, ICEStunMessageType.liveCheck.injEq,
    true_and, false_and]

theorem among_append {attributes attributes' : List StunAttribute} {type : StunAttributeType} :
    Among (attributes ++ attributes') type ↔ Among attributes type ∨ Among attributes' type := by
  simp only [Among, List.mem_append, or_and_right, exists_or]

/-- A request can be made of the attributes exactly when an integrity value and
    a username are among them. -/
theorem parseBindingRequest_eq_none_iff (request : StunBindingRequest) :
    parseBindingRequest request = none ↔
      ¬ (Among request.attributes .messageIntegrity ∧ Among request.attributes .username) := by
  rw [parseBindingRequest_eq, ← findSome?_integrity_isSome, ← findSome?_username_isSome]
  cases request.attributes.findSome? StunAttribute.integrity? with
  | none => simp only [Option.bind_none, Option.isSome_none, Bool.false_eq_true, false_and,
      not_false_eq_true]
  | some messageIntegrity =>
      cases request.attributes.findSome? StunAttribute.username? with
      | none => simp only [Option.bind_none, Option.bind_some, Option.isSome_none,
          Bool.false_eq_true, and_false, not_false_eq_true]
      | some username => simp only [Option.bind_some, Option.isSome_some, and_self,
          not_true_eq_false, reduceCtorEq]

/-- More attributes change nothing: the request is made of the first ones and
    was a nomination if it becomes one, or it is none either way. -/
theorem parseBindingRequest_append_iff (transactionId : ByteArr stunTransactionIdLen)
    (attributes attributes' : List StunAttribute) :
    parseBindingRequest { transactionId, attributes := attributes ++ attributes' }
        = parseBindingRequest { transactionId, attributes } ↔
      ((Among attributes .messageIntegrity ∧ Among attributes .username) ∧
          (Among attributes' .useCandidate → Among attributes .useCandidate)) ∨
        (¬ (Among attributes .messageIntegrity ∧ Among attributes .username) ∧
          ¬ ((Among attributes .messageIntegrity ∨ Among attributes' .messageIntegrity) ∧
            (Among attributes .username ∨ Among attributes' .username))) := by
  by_cases hnames : Among attributes .messageIntegrity ∧ Among attributes .username
  · rcases Option.isSome_iff_exists.mp ((findSome?_integrity_isSome attributes).mpr hnames.1)
      with ⟨messageIntegrity, hintegrity⟩
    rcases Option.isSome_iff_exists.mp ((findSome?_username_isSome attributes).mpr hnames.2)
      with ⟨username, husername⟩
    -- The first values are found where they were.
    rw [parseBindingRequest_eq, parseBindingRequest_eq]
    simp only [List.findSome?_append, hintegrity, husername, Option.some_or, Option.bind_some,
      Option.some.injEq, ofFlag_inj, and_true, hnames, true_and, not_true_eq_false, false_and,
      or_false, decide_eq_decide, List.mem_append, useCandidate_mem_iff]
    exact or_iff_left_iff_imp
  · have hnone := (parseBindingRequest_eq_none_iff { transactionId, attributes }).mpr hnames
    rw [hnone, parseBindingRequest_eq_none_iff]
    simp only [among_append, hnames, false_and, false_or, not_false_eq_true, true_and]

section Declared

variable {data : Bytes} {length : UInt16}

/-- A message is declared to be as long as it is when what follows is gone. -/
theorem Declares.take (h : Declares data length) :
    Declares (data.take (stunHeaderLen + length.toNat)) length := by
  unfold Declares stunHeaderLen stunTransactionIdLen at *
  rcases h with ⟨rest, hdata, hrest, hmod, hlen⟩
  refine ⟨rest.take (12 + length.toNat), ?_, ?_, hmod, ?_⟩
  · have hshift : 20 + length.toNat = 8 + (12 + length.toNat) := by omega
    have hheader : (be16 StunType.bindingRequest.key ++ be16 length ++ be32 stunCookie).length
        = 8 := rfl
    rw [hdata, hshift, ← hheader, List.take_length_add_append]
  · rw [List.length_take]
    omega
  · rw [List.length_take]
    omega

/-- The transaction id is within the message. -/
theorem readInto_take (data : Bytes) (n : Nat) (h : stunHeaderLen + n ≤ data.length) :
    (readInto stunTransactionIdLen ((data.take (stunHeaderLen + n)).drop 8)).1
      = (readInto stunTransactionIdLen (data.drop 8)).1 := by
  unfold stunHeaderLen at *
  apply Subtype.ext
  simp only [readInto, stunTransactionIdLen, List.length_drop, List.length_take]
  have htake : ((data.take (20 + n)).drop 8).take 12 = (data.drop 8).take 12 := by
    rw [List.drop_take, List.take_take]
    congr 1
    omega
  rw [htake]
  congr 2
  omega

theorem Declares.length_message (h : Declares data length) :
    ((data.take (stunHeaderLen + length.toNat)).drop stunHeaderLen).length % 4 = 0 := by
  rcases h with ⟨_, _, _, hmod, hlen⟩
  have hzero : length.toNat % 4 = 0 := by
    have hmod' : (length % 4).toNat = length.toNat % 4 := UInt16.toNat_mod length 4
    rw [← hmod', hmod]
    rfl
  rw [List.length_drop, List.length_take]
  omega

theorem drop_header (data : Bytes) (n : Nat) (h : stunHeaderLen + n ≤ data.length) :
    data.drop stunHeaderLen
      = (data.take (stunHeaderLen + n)).drop stunHeaderLen ++ data.drop (stunHeaderLen + n) := by
  conv_lhs => rw [← List.take_append_drop (stunHeaderLen + n) data]
  rw [List.drop_append_of_le_length]
  rw [List.length_take]
  omega

/-- The bytes behind a declared message change nothing exactly when they are
    harmless. -/
theorem sameOutcome_take_iff (data : Bytes) (length : UInt16) (h : Declares data length) :
    SameOutcome (getStunPacket data)
        (getStunPacket (data.take (stunHeaderLen + length.toNat))) ↔
      TrailingHarmless ((data.take (stunHeaderLen + length.toNat)).drop stunHeaderLen)
        (data.drop (stunHeaderLen + length.toNat)) := by
  have hlen := h.length_message
  have hwithin : stunHeaderLen + length.toNat ≤ data.length := by
    rcases h with ⟨_, _, _, _, hwithin⟩
    exact hwithin
  rw [getStunPacket_of_accepted ⟨length, h⟩, getStunPacket_of_accepted ⟨length, h.take⟩,
    readInto_take data _ hwithin, drop_header data _ hwithin]
  generalize (data.take (stunHeaderLen + length.toNat)).drop stunHeaderLen = message at hlen ⊢
  generalize data.drop (stunHeaderLen + length.toNat) = trailing
  generalize (readInto stunTransactionIdLen (data.drop 8)).1 = transactionId
  unfold TrailingHarmless
  by_cases hmessage : AttributesComplete message
  · rcases (readAttributes_returns_iff message).mpr hmessage with ⟨attributes, hattributes⟩
    simp only [hmessage, true_implies, not_true_eq_false, false_implies, and_true,
      readAttributes_append hmessage hlen, hattributes, ok_bind, pure_eq_ok]
    by_cases htrailing : AttributesComplete trailing
    · rcases (readAttributes_returns_iff trailing).mpr htrailing with ⟨attributes', hattributes'⟩
      simp only [htrailing, true_and, hattributes', ok_bind, sameOutcome_ok, NamesSession]
      rw [parseBindingRequest_append_iff]
      rw [carries_iff hattributes (by decide), carries_iff hattributes (by decide),
        carries_iff hattributes (by decide), carries_iff hattributes' (by decide),
        carries_iff hattributes' (by decide), carries_iff hattributes' (by decide)]
    · -- The message is read, and the whole is not.
      have hpanics := fun h => htrailing ((readAttributes_returns_iff trailing).mp h)
      simp only [htrailing, false_and, iff_false]
      intro hsame
      rcases returns_bind.mp (hsame.returns (returns_ok _)) with ⟨_, hwhole, _⟩
      rcases bind_eq_ok.mp hwhole with ⟨attributes', hattributes', _⟩
      exact hpanics ⟨attributes', hattributes'⟩
  · have hpanics : ¬ Returns (do
        let attributes ← readAttributes message
        return parseBindingRequest { transactionId, attributes }) := by
      intro hreturns
      rcases returns_bind.mp hreturns with ⟨attributes, hattributes, _⟩
      exact hmessage ((readAttributes_returns_iff message).mp ⟨attributes, hattributes⟩)
    rw [sameOutcome_of_not_returns hpanics, ← readAttributes_returns_iff (message ++ trailing),
      returns_bind]
    simp only [hmessage, false_implies, true_and, not_false_eq_true, true_implies, pure_eq_ok,
      returns_ok, and_true]
    exact Iff.rfl

end Declared

/-- An array of zeros. -/
def zeros (n : Nat) : ByteArr n := ⟨List.replicate n 0, List.length_replicate⟩

/-- A live check, and then bytes it does not declare. -/
def checkFollowedBy (trailing : Bytes) : Bytes :=
  be16 StunType.bindingRequest.key ++ be16 32 ++ be32 stunCookie
    ++ (List.replicate 12 0
      ++ be16 StunAttributeType.username.key ++ be16 3 ++ utf8 "a:b".toList ++ [0]
      ++ be16 StunAttributeType.messageIntegrity.key ++ be16 20 ++ List.replicate 20 0
      ++ trailing)

/-- The request of the live check. -/
def checkPacket : ICEStunPacket :=
  { usernameAttribute := { host := ['a'], remote := ['b'] },
    messageIntegrity := zeros 20, transactionId := zeros 12 }

theorem declares_checkFollowedBy (trailing : Bytes) : Declares (checkFollowedBy trailing) 32 := by
  refine ⟨_, rfl, ?_, rfl, ?_⟩
  · simp only [List.length_append, List.length_replicate, stunTransactionIdLen]
    omega
  · have hlength : (checkFollowedBy trailing).length = 52 + trailing.length := by
      simp only [checkFollowedBy, List.length_append, List.length_replicate, length_be16,
        length_be32, show (utf8 "a:b".toList).length = 3 from rfl, List.length_singleton]
      omega
    rw [hlength]
    exact Nat.le_add_right 52 trailing.length

/-- An attribute of a type that is not read follows. -/
theorem sameOutcome_take_unknown :
    Declares (checkFollowedBy [0x80, 0x22, 0, 0]) 32 ∧
      SameOutcome (getStunPacket (checkFollowedBy [0x80, 0x22, 0, 0]))
        (getStunPacket ((checkFollowedBy [0x80, 0x22, 0, 0]).take 52)) ∧
      TrailingHarmless (((checkFollowedBy [0x80, 0x22, 0, 0]).take 52).drop 20)
        [0x80, 0x22, 0, 0] := by
  have hdeclares := declares_checkFollowedBy [0x80, 0x22, 0, 0]
  have hsame : SameOutcome (getStunPacket (checkFollowedBy [0x80, 0x22, 0, 0]))
      (getStunPacket ((checkFollowedBy [0x80, 0x22, 0, 0]).take 52)) :=
    Or.inl ⟨some (.liveCheck checkPacket), by decide +kernel, by decide +kernel⟩
  exact ⟨hdeclares, hsame, (sameOutcome_take_iff _ 32 hdeclares).mp hsame⟩

/-- A request for nomination follows, and the live check becomes one. -/
theorem sameOutcome_take_fails_on_nomination :
    Declares (checkFollowedBy [0, 0x25, 0, 0]) 32 ∧
      getStunPacket (checkFollowedBy [0, 0x25, 0, 0]) = .ok (some (.nomination checkPacket)) ∧
      getStunPacket ((checkFollowedBy [0, 0x25, 0, 0]).take 52)
        = .ok (some (.liveCheck checkPacket)) ∧
      ¬ SameOutcome (getStunPacket (checkFollowedBy [0, 0x25, 0, 0]))
        (getStunPacket ((checkFollowedBy [0, 0x25, 0, 0]).take 52)) := by
  have hwhole : getStunPacket (checkFollowedBy [0, 0x25, 0, 0])
      = .ok (some (.nomination checkPacket)) := by decide +kernel
  have hmessage : getStunPacket ((checkFollowedBy [0, 0x25, 0, 0]).take 52)
      = .ok (some (.liveCheck checkPacket)) := by decide +kernel
  refine ⟨declares_checkFollowedBy _, hwhole, hmessage, ?_⟩
  rw [hwhole, hmessage, sameOutcome_ok]
  intro h
  cases h

end Stun

end SigmaMedia
