import SigmaMedia.Theory.Thumbnail.Collect

/-!
# Reading an RTP Packet Back

A packet as RFC 3550 lays it out: a fixed header, up to fifteen contributing
sources, perhaps a header extension, the payload, and perhaps padding that
ends with its own length.

The reader looks at the two flags that announce an extension and padding, and
then takes what is behind the sources for the payload, up to three thousand
bytes of it. So the header comes back from every packet, and the payload from
those that have neither and fit. The exceptions are packets whose payload is
exactly as long as the reader's array: padding is cut off by accident then,
and an extension goes unnoticed if the payload repeats it from end to end.

## Main definitions

* `HeaderExtension`, `Padding`: The two optional parts.
* `Layout`: A packet as the RFC lays it out, and `Layout.encode`, its bytes.
* `Recovered`: What the reader should make of it.
* `FillsScratch`: When it does.

## Theorems

* `tryFrom_encode`: What the reader makes of a packet.
* `take_append_eq_iff`: When a prefix of fixed length is the middle part.
* `recovered_iff`: Which packets come back.
-/

namespace SigmaMedia

namespace Thumbnail

open Bytes Exec

/-- A header extension: a profile, and words counted in sixteen bits. -/
structure HeaderExtension where
  profile : UInt16
  words : List UInt32
  counted : words.length < 65536

/-- An extension on the wire. -/
def HeaderExtension.bytes (extension : HeaderExtension) : Bytes :=
  be16 extension.profile ++ be16 (UInt16.ofNat extension.words.length)
    ++ extension.words.flatMap be32

/-- Padding: any bytes, and a last one that counts them and itself. -/
structure Padding where
  filler : Bytes
  counted : filler.length < 255

/-- Padding on the wire. -/
def Padding.bytes (padding : Padding) : Bytes :=
  padding.filler ++ [UInt8.ofNat (padding.filler.length + 1)]

/-- A packet, part by part. -/
structure Layout where
  marker : Bool
  payloadType : UInt8
  payloadType_lt : payloadType.toNat < 128
  sequenceNumber : UInt16
  timestamp : UInt32
  ssrc : UInt32
  csrc : List UInt32
  csrc_le : csrc.length ≤ 15
  extension : Option HeaderExtension
  payload : Bytes
  padding : Option Padding

/-- Version two, the two flags and the number of sources. -/
def firstOctet (padding extension : Bool) (csrcCount : Nat) : UInt8 :=
  0b1000_0000 ||| (if padding then 0b0010_0000 else 0) ||| (if extension then 0b0001_0000 else 0)
    ||| UInt8.ofNat csrcCount

/-- The second byte: marker and payload type. -/
def secondOctet (marker : Bool) (payloadType : UInt8) : UInt8 :=
  (if marker then 0b1000_0000 else 0) ||| payloadType

namespace Layout

/-- The bytes of the extension, if there is one. -/
def extensionBytes (layout : Layout) : Bytes := layout.extension.elim [] HeaderExtension.bytes

/-- The bytes of the padding, if there is some. -/
def paddingBytes (layout : Layout) : Bytes := layout.padding.elim [] Padding.bytes

/-- The packet on the wire. -/
def encode (layout : Layout) : Bytes :=
  [firstOctet layout.padding.isSome layout.extension.isSome layout.csrc.length,
      secondOctet layout.marker layout.payloadType]
    ++ be16 layout.sequenceNumber ++ be32 layout.timestamp ++ be32 layout.ssrc
    ++ layout.csrc.flatMap be32 ++ layout.extensionBytes ++ layout.payload ++ layout.paddingBytes

end Layout

/-- The fields a stream is collected by come back, and the payload does, with
    nothing added or cut off. -/
def Recovered (layout : Layout) (packet : RTPPacket) : Prop :=
  packet.marker = layout.marker ∧ packet.sequenceNumber = layout.sequenceNumber ∧
    packet.timestamp = layout.timestamp ∧ packet.csrc = layout.csrc ∧
    packet.payload = layout.payload

/-- The payload fits the reader's array. If anything stands around it, it fills
    the array, and if an extension stands before it, it repeats that. -/
def FillsScratch (layout : Layout) : Prop :=
  layout.payload.length ≤ 3000 ∧
    (layout.extension ≠ none ∨ layout.padding ≠ none → layout.payload.length = 3000) ∧
    layout.payload <+: layout.extensionBytes ++ layout.payload

theorem firstOctet_fields {csrcCount : Nat} (h : csrcCount ≤ 15) (padding extension : Bool) :
    (firstOctet padding extension csrcCount &&& 0b1100_0000) >>> 6 = 2 ∧
      decide ((firstOctet padding extension csrcCount &&& 0b0010_0000) = 0b0010_0000) = padding ∧
      decide ((firstOctet padding extension csrcCount &&& 0b0001_0000) = 0b0001_0000)
        = extension ∧
      (firstOctet padding extension csrcCount &&& 0b0000_1111).toNat = csrcCount := by
  have hall : ∀ n < 16, ∀ p e : Bool, (firstOctet p e n &&& 0b1100_0000) >>> 6 = 2 ∧
      decide ((firstOctet p e n &&& 0b0010_0000) = 0b0010_0000) = p ∧
      decide ((firstOctet p e n &&& 0b0001_0000) = 0b0001_0000) = e ∧
      (firstOctet p e n &&& 0b0000_1111).toNat = n := by decide +kernel
  exact hall csrcCount (Nat.lt_succ_of_le h) padding extension

theorem secondOctet_fields {payloadType : UInt8} (h : payloadType.toNat < 128) (marker : Bool) :
    decide ((secondOctet marker payloadType &&& 0b1000_0000) = 0b1000_0000) = marker ∧
      secondOctet marker payloadType &&& 0b0111_1111 = payloadType := by
  rcases payloadType with ⟨v⟩
  revert v marker
  decide +kernel

/-- The sources are read one by one. -/
theorem readCsrc_flatMap (csrc : List UInt32) (rest : Bytes) :
    readCsrc csrc.length (csrc.flatMap be32 ++ rest) = some (csrc, rest) := by
  induction csrc with
  | nil => rfl
  | cons source csrc ih =>
      rw [List.flatMap_cons, List.append_assoc, List.length_cons, readCsrc, readU32_be32]
      simp only [Option.bind_eq_bind, Option.bind_some, ih, Option.pure_def]

/-- What the reader makes of a packet: its header, and what stands behind the
    sources. -/
theorem tryFrom_encode (layout : Layout) :
    RTPPacket.tryFrom layout.encode
      = .ok { marker := layout.marker, version := 2, padding := layout.padding.isSome,
              ext := layout.extension.isSome,
              csrcCount := firstOctet layout.padding.isSome layout.extension.isSome
                layout.csrc.length &&& 0b0000_1111,
              payloadType := layout.payloadType, sequenceNumber := layout.sequenceNumber,
              timestamp := layout.timestamp, ssrc := layout.ssrc, csrc := layout.csrc,
              payload := (layout.extensionBytes ++ layout.payload ++ layout.paddingBytes).take
                3000 } := by
  have hfirst := firstOctet_fields layout.csrc_le layout.padding.isSome layout.extension.isSome
  have hsecond := secondOctet_fields layout.payloadType_lt layout.marker
  rcases hfirst with ⟨hversion, hpadding, hext, hcount⟩
  rcases hsecond with ⟨hmarker, htype⟩
  have hbytes : layout.encode
      = firstOctet layout.padding.isSome layout.extension.isSome layout.csrc.length
        :: secondOctet layout.marker layout.payloadType
        :: (be16 layout.sequenceNumber ++ (be32 layout.timestamp ++ (be32 layout.ssrc
          ++ (layout.csrc.flatMap be32
            ++ (layout.extensionBytes ++ layout.payload ++ layout.paddingBytes))))) := by
    simp only [Layout.encode, List.append_assoc, List.cons_append, List.nil_append]
  -- Everything behind the sources is taken for payload, up to the array.
  rw [hbytes]
  simp only [RTPPacket.tryFrom, readU8, okOr, ok_bind, readU16_be16, readU32_be32, hcount,
    readCsrc_flatMap, hversion, hpadding, hext, hmarker, htype]
  rfl

/-- A prefix of fixed length is the middle part exactly when that fits it,
    fills it if anything is added, and repeats what stands before it. -/
theorem take_append_eq_iff {before middle after : Bytes} {n : Nat} :
    (before ++ middle ++ after).take n = middle ↔
      middle.length ≤ n ∧ (before ≠ [] ∨ after ≠ [] → middle.length = n) ∧
        middle <+: before ++ middle := by
  constructor
  · intro h
    have hlength := congrArg List.length h
    simp only [List.length_take, List.length_append] at hlength
    have hfills : before ≠ [] ∨ after ≠ [] → middle.length = n := by
      intro hadded
      have hpos : 0 < before.length ∨ 0 < after.length :=
        hadded.imp List.length_pos_iff.mpr List.length_pos_iff.mpr
      omega
    refine ⟨by omega, hfills, ?_⟩
    -- Both are prefixes of the whole, and the middle part is the shorter one.
    have hwhole : middle <+: before ++ middle ++ after := by
      conv_lhs => rw [← h]
      exact List.take_prefix n _
    exact List.prefix_of_prefix_length_le hwhole (List.prefix_append _ after)
      (by rw [List.length_append]; omega)
  · intro h
    rcases h with ⟨hle, hfills, hprefix⟩
    by_cases hadded : before ≠ [] ∨ after ≠ []
    · have hn := hfills hadded
      rw [List.take_append_of_le_length (by rw [List.length_append]; omega), ← hn]
      exact (List.prefix_iff_eq_take.mp hprefix).symm
    · rw [not_or, not_not, not_not] at hadded
      rw [hadded.1, hadded.2, List.nil_append, List.append_nil]
      exact List.take_of_length_le hle

theorem extensionBytes_eq_nil_iff (layout : Layout) :
    layout.extensionBytes = [] ↔ layout.extension = none := by
  cases h : layout.extension with
  | none => simp only [Layout.extensionBytes, h, Option.elim_none]
  | some extension =>
      simp only [Layout.extensionBytes, h, Option.elim_some, HeaderExtension.bytes, reduceCtorEq,
        iff_false]
      intro hnil
      cases hnil

theorem paddingBytes_eq_nil_iff (layout : Layout) :
    layout.paddingBytes = [] ↔ layout.padding = none := by
  cases h : layout.padding with
  | none => simp only [Layout.paddingBytes, h, Option.elim_none]
  | some padding =>
      simp only [Layout.paddingBytes, h, Option.elim_some, Padding.bytes, List.append_eq_nil_iff,
        List.cons_ne_nil, and_false, reduceCtorEq]

/-- A packet comes back exactly when its payload is all that stands behind the
    sources and fits, or when it fills the reader's array by itself. -/
theorem recovered_iff (layout : Layout) :
    (∃ packet, RTPPacket.tryFrom layout.encode = .ok packet ∧ Recovered layout packet) ↔
      FillsScratch layout := by
  have hparts : (layout.extensionBytes ++ layout.payload ++ layout.paddingBytes).take 3000
      = layout.payload ↔ _ := take_append_eq_iff
  rw [Ne, Ne, extensionBytes_eq_nil_iff, paddingBytes_eq_nil_iff] at hparts
  rw [FillsScratch, Ne, Ne, ← hparts, tryFrom_encode]
  constructor
  · intro h
    rcases h with ⟨packet, hpacket, hrecovered⟩
    cases hpacket
    exact hrecovered.2.2.2.2
  · intro h
    exact ⟨_, rfl, rfl, rfl, rfl, rfl, h⟩

/-- A packet of two payload bytes behind an extension of one word. -/
def extended : Layout :=
  { marker := true, payloadType := 96, payloadType_lt := by decide, sequenceNumber := 1,
    timestamp := 9, ssrc := 7, csrc := [], csrc_le := Nat.zero_le 15,
    extension := some { profile := 0xbede, words := [0x10203040], counted := by decide },
    payload := [0x65, 0xaa], padding := none }

/-- The extension is taken for the start of the payload. -/
theorem recovered_fails_on_extension :
    extended.encode.length ≤ 3600 ∧
      ∃ packet, RTPPacket.tryFrom extended.encode = .ok packet ∧
        packet.payload = [0xbe, 0xde, 0, 1, 0x10, 0x20, 0x30, 0x40, 0x65, 0xaa] ∧
        ¬ Recovered extended packet := by
  have hread : passes (RTPPacket.tryFrom extended.encode) (fun packet =>
      decide (packet.payload = [0xbe, 0xde, 0, 1, 0x10, 0x20, 0x30, 0x40, 0x65, 0xaa])) = true := by
    decide +kernel
  rcases of_passes hread with ⟨packet, hpacket, hpayload⟩
  refine ⟨by decide +kernel, packet, hpacket, of_decide_eq_true hpayload, fun hrecovered => ?_⟩
  have hsame := hrecovered.2.2.2.2
  rw [of_decide_eq_true hpayload] at hsame
  cases hsame

end Thumbnail

end SigmaMedia
