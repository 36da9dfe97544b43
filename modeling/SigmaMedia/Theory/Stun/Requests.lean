import SigmaMedia.Theory.Stun.Encode
import SigmaMedia.Theory.Stun.Trailing

/-!
# Reading a Request Back

A peer encodes a request as RFC 5389 has it: each attribute's value is padded
to a multiple of four, with padding bytes that mean nothing. The reader takes
the padding for a part of the value. For most attributes that makes no
difference, since their values are not looked at, or only the first twenty
bytes of them. A username is text, and trailing null characters are taken off
it, so it comes back if the padding is made of zeros and only then: other
characters end up in the username, and bytes that are not text stop the
server.

## Main definitions

* `WireAttribute`: An attribute with its padding.
* `encodeRequest`: A request on the wire.
* `IsIceChar`: The characters usernames are made of.

## Theorems

* `readAttributes_encode`: The reader goes over the attributes one by one.
* `decodeAttribute_username_iff`: When a username comes back.
* `getStunPacket_encode_iff`: When a request comes back.
-/

namespace SigmaMedia

namespace Stun

open Bytes Exec Text

/-- An attribute with the bytes its value is padded with. -/
structure WireAttribute where
  attr : Tlv
  padding : Bytes
  fits : attr.value.length + padding.length = Tlv.padded attr.value.length

/-- An attribute on the wire. -/
def WireAttribute.bytes (a : WireAttribute) : Bytes := Tlv.encode a.attr a.padding

/-- A binding request with the given attributes. -/
def encodeRequest (transactionId : ByteArr stunTransactionIdLen)
    (attributes : List WireAttribute) : Bytes :=
  be16 StunType.bindingRequest.key
    ++ be16 (UInt16.ofNat (attributes.flatMap WireAttribute.bytes).length) ++ be32 stunCookie
    ++ (transactionId.val ++ attributes.flatMap WireAttribute.bytes)

/-- A character of a username: a letter, a digit, a plus or a slash. -/
def IsIceChar (c : Char) : Prop := c.isAlphanum = true ∨ c = '+' ∨ c = '/'

/-- What the reader makes of an attribute, padding and all. -/
def WireAttribute.decoded (a : WireAttribute) : Exec StunAttribute :=
  decodeAttribute (StunAttributeType.ofKey a.attr.kind) (a.attr.value ++ a.padding)

theorem WireAttribute.splits {a : WireAttribute} (h : a.attr.value.length ≤ 65532)
    (rest : Bytes) :
    SplitsAttribute (a.bytes ++ rest) a.attr.kind (UInt16.ofNat a.attr.value.length)
      (a.attr.value ++ a.padding) rest := by
  have hlength : (UInt16.ofNat a.attr.value.length).toNat = a.attr.value.length := by
    rw [UInt16.toNat_ofNat']
    exact Nat.mod_eq_of_lt (by omega)
  refine ⟨?_, ?_, ?_⟩
  · simp only [WireAttribute.bytes, Tlv.encode, List.append_assoc]
  · rw [hlength]
    exact h
  · rw [hlength, List.length_append, a.fits]

/-- The reader goes over the attributes one by one. -/
theorem readAttributes_encode {attributes : List WireAttribute}
    (h : ∀ a ∈ attributes, a.attr.value.length ≤ 65532) :
    readAttributes (attributes.flatMap WireAttribute.bytes)
      = attributes.mapM WireAttribute.decoded := by
  induction attributes with
  | nil => exact readAttributes_dry Nat.zero_lt_two
  | cons a attributes ih =>
      have hsplit := WireAttribute.splits (h a List.mem_cons_self)
        (attributes.flatMap WireAttribute.bytes)
      have hread := readAttribute_of_split hsplit
      rw [List.flatMap_cons, List.mapM_cons, ← ih fun b hb => h b (List.mem_cons_of_mem a hb),
        WireAttribute.decoded]
      -- An attribute that cannot be decoded ends both readings.
      cases hdecode : decodeAttribute (StunAttributeType.ofKey a.attr.kind)
          (a.attr.value ++ a.padding) with
      | error p =>
          rw [hdecode] at hread
          rw [readAttributes_of_error hread]
          rfl
      | ok attr =>
          rw [hdecode] at hread
          rw [readAttributes_of_read hread]
          rfl

theorem IsIceChar.ne {c d : Char} (h : IsIceChar c) (hd : ¬ IsIceChar d) : c ≠ d := by
  rintro rfl
  exact hd h

theorem not_isIceChar_colon : ¬ IsIceChar ':' := by
  unfold IsIceChar
  decide

theorem not_isIceChar_nul : ¬ IsIceChar '\x00' := by
  unfold IsIceChar
  decide

/-- A text that ends in no null character is not trimmed. -/
theorem rdropWhile_nul_of_isIceChar {t : Text} (h : ∀ c ∈ t, IsIceChar c) :
    t.rdropWhile (· = '\x00') = t := by
  rw [List.rdropWhile_eq_self_iff]
  intro hne hlast
  rw [decide_eq_true_eq] at hlast
  exact (h _ (List.getLast_mem hne)).ne not_isIceChar_nul hlast

/-- A username comes back exactly when it is padded with zeros. -/
theorem decodeAttribute_username_iff {host remote : Text} (hhost : ∀ c ∈ host, IsIceChar c)
    (hremote : ∀ c ∈ remote, IsIceChar c) (padding : Bytes) :
    decodeAttribute .username (utf8 (host ++ ":".toList ++ remote) ++ padding)
        = .ok (.username { host, remote }) ↔ ∀ b ∈ padding, b = 0 := by
  have hcolon : ':' ∉ host := fun hc => (hhost ':' hc).ne not_isIceChar_colon rfl
  have htrim := rdropWhile_append_eq_iff (rdropWhile_nul_of_isIceChar hremote)
  -- The text that is read goes on with whatever the padding encodes.
  have hdecode : ∀ more : Text,
      decodeAttribute .username (utf8 (host ++ ":".toList ++ remote) ++ utf8 more)
        = .ok (.username { host, remote := (remote ++ more).rdropWhile (· = '\x00') }) := by
    intro more
    have htext : host ++ ":".toList ++ remote ++ more = host ++ ':' :: (remote ++ more) := by
      rw [List.append_assoc, List.append_assoc]
      rfl
    have hsplit : splitOnce ":".toList (host ++ ':' :: (remote ++ more))
        = some (host, remote ++ more) := splitOnce_singleton hcolon (remote ++ more)
    simp only [decodeAttribute, ← utf8_append, fromUtf8_utf8, unwrap, ok_bind, htext, hsplit,
      rdropWhile_nul_of_isIceChar hhost, pure_eq_ok]
  constructor
  · intro h b hb
    rcases (decodeAttribute_username_returns _).mp ⟨_, h⟩ with ⟨t, ht, _⟩
    rcases exists_of_utf8_append ht with ⟨more, rfl, rfl⟩
    rw [hdecode, Except.ok.injEq, StunAttribute.username.injEq, SessionUsername.mk.injEq,
      htrim] at h
    have hnul : more = List.replicate more.length '\x00' :=
      List.eq_replicate_of_mem fun c hc => of_decide_eq_true (h.1 c hc)
    rw [hnul, utf8_replicate_nul] at hb
    exact List.eq_of_mem_replicate hb
  · intro h
    have hzero : padding = utf8 (List.replicate padding.length '\x00') := by
      rw [utf8_replicate_nul]
      exact List.eq_replicate_of_mem h
    have hback := (htrim (List.replicate padding.length '\x00')).mpr fun c hc =>
      decide_eq_true (List.eq_of_mem_replicate hc)
    rw [hzero, hdecode, hback]

theorem WireAttribute.length_bytes (a : WireAttribute) :
    a.bytes.length = 4 + Tlv.padded a.attr.value.length := by
  have hfits := a.fits
  simp only [WireAttribute.bytes, Tlv.encode, List.length_append, length_be16]
  omega

theorem WireAttribute.length_value_le {a : WireAttribute} {attributes : List WireAttribute}
    (h : a ∈ attributes) :
    a.attr.value.length ≤ (attributes.flatMap WireAttribute.bytes).length := by
  have hpadded := Tlv.le_padded a.attr.value.length
  rcases List.append_of_mem h with ⟨front, back, rfl⟩
  rw [List.flatMap_append, List.flatMap_cons, List.length_append, List.length_append,
    a.length_bytes]
  omega

/-- Attributes end where four bytes do. -/
theorem length_flatMap_bytes (attributes : List WireAttribute) :
    (attributes.flatMap WireAttribute.bytes).length % 4 = 0 := by
  induction attributes with
  | nil => rfl
  | cons a attributes ih =>
      rw [List.flatMap_cons, List.length_append, a.length_bytes]
      unfold Tlv.padded
      omega

section Encoded

variable {transactionId : ByteArr stunTransactionIdLen} {attributes : List WireAttribute}

/-- The header of a request passes the checks. -/
theorem headerAccepted_encodeRequest
    (hsize : (attributes.flatMap WireAttribute.bytes).length ≤ 65532) :
    HeaderAccepted (encodeRequest transactionId attributes) := by
  have hmod := length_flatMap_bytes attributes
  have hlength : (UInt16.ofNat (attributes.flatMap WireAttribute.bytes).length).toNat
      = (attributes.flatMap WireAttribute.bytes).length := by
    rw [UInt16.toNat_ofNat']
    exact Nat.mod_eq_of_lt (by omega)
  -- The length is that of the attributes, which are padded to words of four
  -- bytes.
  refine ⟨_, _, rfl, ?_, ?_, ?_⟩
  · rw [List.length_append, transactionId.property]
    omega
  · apply UInt16.toNat_inj.mp
    rw [UInt16.toNat_mod, hlength]
    exact hmod
  · rw [hlength]
    simp only [encodeRequest, List.length_append, length_be16, length_be32,
      transactionId.property, stunHeaderLen, stunTransactionIdLen]
    omega

/-- A request is made of its attributes, as the reader makes them out. -/
theorem getStunPacket_encodeRequest
    (hsize : (attributes.flatMap WireAttribute.bytes).length ≤ 65532) :
    getStunPacket (encodeRequest transactionId attributes) = (do
      let read ← attributes.mapM WireAttribute.decoded
      return parseBindingRequest { transactionId, attributes := read }) := by
  have hid : (readInto stunTransactionIdLen
      ((encodeRequest transactionId attributes).drop 8)).1 = transactionId := by
    have hdrop : (encodeRequest transactionId attributes).drop 8
        = transactionId.val ++ attributes.flatMap WireAttribute.bytes := rfl
    rw [hdrop]
    exact readInto_append transactionId _
  -- Behind the header stand the attributes.
  have hdrop : (encodeRequest transactionId attributes).drop stunHeaderLen
      = attributes.flatMap WireAttribute.bytes := by
    have hsplit : (encodeRequest transactionId attributes).drop stunHeaderLen
        = (transactionId.val ++ attributes.flatMap WireAttribute.bytes).drop
            stunTransactionIdLen := rfl
    rw [hsplit, List.drop_left' transactionId.property]
  rw [getStunPacket_of_accepted (headerAccepted_encodeRequest hsize), hid, hdrop,
    readAttributes_encode fun a ha => (WireAttribute.length_value_le ha).trans hsize]

/-- The attributes that were read are those that were written. -/
theorem among_decoded_iff {read : List StunAttribute}
    (h : attributes.mapM WireAttribute.decoded = .ok read) {type : StunAttributeType}
    (htype : type ∈ requestTypes) :
    Among read type ↔ ∃ a ∈ attributes, a.attr.kind = type.key := by
  have hall := mapM_eq_ok_iff.mp h
  constructor
  · intro hamong
    rcases hamong with ⟨attr, hmem, hattr⟩
    rcases exists_of_mem_forall₂ hall hmem with ⟨a, ha, hdecoded⟩
    rw [decodeAttribute_type hdecoded, ofKey_eq_iff htype] at hattr
    exact ⟨a, ha, hattr⟩
  · intro hkind
    rcases hkind with ⟨a, ha, hkind⟩
    rcases exists_of_mem_forall₂ hall.flip ha with ⟨attr, hmem, hdecoded⟩
    exact ⟨attr, hmem, (decodeAttribute_type hdecoded).trans ((ofKey_eq_iff htype _).mpr hkind)⟩

/-- There is one attribute of a type. -/
theorem mem_and_kind_iff {key : UInt16} {a : WireAttribute}
    (hone : attributes.filter (fun a => a.attr.kind = key) = [a]) (a' : WireAttribute) :
    a' ∈ attributes ∧ a'.attr.kind = key ↔ a' = a := by
  rw [← List.mem_singleton (a := a') (b := a), ← hone, List.mem_filter, decide_eq_true_eq]

/-- The one attribute of a type is where its value is found. -/
theorem findSome?_decoded {γ : Type} {value? : StunAttribute → Option γ}
    {type : StunAttributeType} (htype : type ∈ requestTypes)
    (hvalue : ∀ attr, (value? attr).isSome = true ↔ attr.type = type)
    {a : WireAttribute} {attr : StunAttribute} {v : γ} {read : List StunAttribute}
    (h : attributes.mapM WireAttribute.decoded = .ok read)
    (hone : attributes.filter (fun a => a.attr.kind = type.key) = [a])
    (hattr : a.decoded = .ok attr) (hv : value? attr = some v) :
    read.findSome? value? = some v := by
  have hmem := (mem_and_kind_iff hone a).mpr rfl
  refine findSome?_of_unique (mapM_eq_ok_iff.mp h) hmem.1 hattr hv ?_
  intro a' ha' attr' hdecoded hsome
  have hread := decodeAttribute_type hdecoded
  rw [(hvalue attr').mp hsome, eq_comm, ofKey_eq_iff htype] at hread
  exact (mem_and_kind_iff hone a').mp ⟨ha', hread⟩

theorem decoded_messageIntegrity {a : WireAttribute} {integrity : ByteArr stunMessageIntegrityLen}
    (hkind : a.attr.kind = StunAttributeType.messageIntegrity.key)
    (hvalue : a.attr.value = integrity.val) : a.decoded = .ok (.messageIntegrity integrity) := by
  have hlength : stunMessageIntegrityLen ≤ (integrity.val ++ a.padding).length := by
    rw [List.length_append, integrity.property]
    omega
  have htake : (integrity.val ++ a.padding).take stunMessageIntegrityLen = integrity.val :=
    List.take_left' integrity.property
  rw [WireAttribute.decoded, hkind, hvalue,
    show StunAttributeType.ofKey StunAttributeType.messageIntegrity.key = .messageIntegrity
      from rfl]
  simp only [decodeAttribute, dif_pos hlength, htake]

/-- A request comes back exactly when its username is padded with zeros. -/
theorem getStunPacket_encode_iff (transactionId : ByteArr stunTransactionIdLen)
    (host remote : Text) (hhost : ∀ c ∈ host, IsIceChar c) (hremote : ∀ c ∈ remote, IsIceChar c)
    (integrity : ByteArr stunMessageIntegrityLen) (attributes : List WireAttribute)
    (hsize : (attributes.flatMap WireAttribute.bytes).length ≤ 65532)
    (username messageIntegrity : WireAttribute)
    (husername : attributes.filter (fun a => a.attr.kind = StunAttributeType.username.key)
      = [username])
    (hnames : username.attr.value = utf8 (host ++ ":".toList ++ remote))
    (hintegrity : attributes.filter
      (fun a => a.attr.kind = StunAttributeType.messageIntegrity.key) = [messageIntegrity])
    (hvalue : messageIntegrity.attr.value = integrity.val) :
    getStunPacket (encodeRequest transactionId attributes)
        = .ok (some (.ofFlag
            (decide (∃ a ∈ attributes, a.attr.kind = StunAttributeType.useCandidate.key))
            { usernameAttribute := { host, remote }, messageIntegrity := integrity,
              transactionId })) ↔
      ∀ b ∈ username.padding, b = 0 := by
  have hnamed := (mem_and_kind_iff husername username).mpr rfl
  have hsigned := (mem_and_kind_iff hintegrity messageIntegrity).mpr rfl
  have hdecoded : username.decoded
      = decodeAttribute .username (utf8 (host ++ ":".toList ++ remote) ++ username.padding) := by
    rw [WireAttribute.decoded, hnamed.2, hnames,
      show StunAttributeType.ofKey StunAttributeType.username.key = .username from rfl]
  rw [← decodeAttribute_username_iff hhost hremote username.padding, ← hdecoded,
    getStunPacket_encodeRequest hsize]
  constructor
  · intro h
    rcases bind_eq_ok.mp h with ⟨read, hread, hpacket⟩
    rw [pure_eq_ok, Except.ok.injEq, parseBindingRequest_eq] at hpacket
    simp only [Option.bind_eq_some_iff, Option.some.injEq, ofFlag_inj, ICEStunPacket.mk.injEq]
      at hpacket
    rcases hpacket with ⟨_, _, names, hfound, _, hsame⟩
    -- The names that were found were read from the only username there is.
    rcases List.exists_of_findSome?_eq_some hfound with ⟨attr, hmem, hattr⟩
    rcases exists_of_mem_forall₂ (mapM_eq_ok_iff.mp hread) hmem with ⟨a, ha, hdecode⟩
    have htype : attr.type = .username := (username?_isSome attr).mp (by rw [hattr]; rfl)
    have hkind : a.attr.kind = StunAttributeType.username.key := by
      rw [← ofKey_eq_iff (by decide), ← decodeAttribute_type hdecode, htype]
    rw [(mem_and_kind_iff husername a).mp ⟨ha, hkind⟩] at hdecode
    rw [hdecode]
    cases attr with
    | username names' =>
        cases hattr
        rw [hsame.1]
    | _ => cases htype
  · intro h
    -- All the other attributes are read whatever their padding.
    have hreturns : Returns (attributes.mapM WireAttribute.decoded) := by
      refine returns_mapM fun a ha => ?_
      by_cases hu : a.attr.kind = StunAttributeType.username.key
      · rw [(mem_and_kind_iff husername a).mp ⟨ha, hu⟩, h]
        exact returns_ok _
      by_cases hm : a.attr.kind = StunAttributeType.messageIntegrity.key
      · rw [(mem_and_kind_iff hintegrity a).mp ⟨ha, hm⟩,
          decoded_messageIntegrity hsigned.2 hvalue]
        exact returns_ok _
      exact (decodeAttribute_returns_iff _ _).mpr ⟨fun hc => absurd hc hu, fun hc => absurd hc hm⟩
    rcases hreturns with ⟨read, hread⟩
    have hfound : read.findSome? StunAttribute.username? = some { host, remote } :=
      findSome?_decoded (by decide) username?_isSome hread husername h rfl
    have hsigned' : read.findSome? StunAttribute.integrity? = some integrity :=
      findSome?_decoded (by decide) integrity?_isSome hread hintegrity
        (decoded_messageIntegrity hsigned.2 hvalue) rfl
    have hflag : decide (StunAttribute.useCandidate ∈ read)
        = decide (∃ a ∈ attributes, a.attr.kind = StunAttributeType.useCandidate.key) := by
      rw [decide_eq_decide, useCandidate_mem_iff, among_decoded_iff hread (by decide)]
    rw [hread, ok_bind, parseBindingRequest_eq, hfound, hsigned', Option.bind_some,
      Option.bind_some, hflag]
    rfl

end Encoded

/-- The username of the live check, padded with a byte. -/
def checkUsername (padding : UInt8) : WireAttribute :=
  ⟨⟨StunAttributeType.username.key, utf8 "a:b".toList⟩, [padding], rfl⟩

/-- An integrity attribute of zeros. -/
def checkIntegrity : WireAttribute :=
  ⟨⟨StunAttributeType.messageIntegrity.key, List.replicate 20 0⟩, [], rfl⟩

/-- An attribute that is not read, padded with bytes that are no text. -/
def checkSoftware : WireAttribute := ⟨⟨0x8022, [0x78]⟩, [0xff, 0xff, 0xff], rfl⟩

/-- The live check with another attribute between, encoded. -/
def encodedCheck (padding : UInt8) : Bytes :=
  encodeRequest (zeros 12) [checkUsername padding, checkSoftware, checkIntegrity]

/-- The live check comes back from zeros. -/
theorem getStunPacket_encode_zero :
    getStunPacket (encodedCheck 0) = .ok (some (.liveCheck checkPacket)) :=
  (getStunPacket_encode_iff _ ['a'] ['b'] (List.forall_mem_singleton.mpr (Or.inl rfl))
    (List.forall_mem_singleton.mpr (Or.inl rfl)) (zeros 20) _ (by decide)
    (checkUsername 0) checkIntegrity rfl rfl rfl rfl).mpr (List.forall_mem_singleton.mpr rfl)

/-- A letter in the padding becomes a part of the username, and a byte that is
    no text stops the server. -/
theorem getStunPacket_encode_fails_on_padding :
    getStunPacket (encodedCheck 0x78)
        = .ok (some (.liveCheck
            { checkPacket with usernameAttribute := { host := ['a'], remote := ['b', 'x'] } })) ∧
      getStunPacket (encodedCheck 0x78) ≠ .ok (some (.liveCheck checkPacket)) ∧
      ¬ Returns (getStunPacket (encodedCheck 0xff)) := by
  have hread : getStunPacket (encodedCheck 0x78)
      = .ok (some (.liveCheck
          { checkPacket with usernameAttribute := { host := ['a'], remote := ['b', 'x'] } })) := by
    decide +kernel
  have hpanics : getStunPacket (encodedCheck 0xff) = .error .unwrap := by decide +kernel
  refine ⟨hread, ?_, ?_⟩
  · rw [hread]
    decide
  · rw [hpanics]
    exact not_returns_error _

end Stun

end SigmaMedia
