import SigmaMedia.Base.Trace
import SigmaMedia.Core.Thumbnail

/-!
# One Packet of a Picture

A packet does one of three things to the collector. It marks the end of a
picture nobody was collecting, and the collector now knows where the next one
starts. It is not the packet that was waited for, and the collector starts
over. Or it is, and its payload is read.

`processPacket_marked`, `processPacket_rejected` and `processPacket_collected`
are the three, and every statement about the collector comes from them. Only
the last reads the payload, so only there can the collector panic, and
`Decodable` says on which payloads it does not.

## Main definitions

* `IsNalUnit`, `IsFuA`: What a payload starts with.
* `Collects`: The packet is the one waited for.
* `Decodable`: Reading the payload does not panic.
* `Survives`: Neither does the whole step.

## Theorems

* `getNalPacket_single`, `getNalPacket_fragment`, `getNalPacket_other`: What
  a payload holds.
* `processPacket_marked`, `processPacket_rejected`, `processPacket_collected`:
  The three effects of a packet.
* `extract_returns_iff`: One step returns exactly when it survives.
* `feed_extract_returns_iff`: So does a run.
-/

namespace SigmaMedia

namespace Thumbnail

open Bytes Exec Trace

/-- The header of a whole NAL unit: no forbidden bit, and a type of 1 to
    23. -/
def IsNalUnit (b : UInt8) : Prop := b.toNat < 128 ∧ 1 ≤ b.toNat % 32 ∧ b.toNat % 32 ≤ 23

/-- The first byte of a fragment: no forbidden bit, and type 28. -/
def IsFuA (b : UInt8) : Prop := b.toNat < 128 ∧ b.toNat % 32 = 28

/-- The second byte of a last fragment: the end bit without the start bit. -/
def IsEnd (b : UInt8) : Prop := 64 ≤ b.toNat ∧ b.toNat < 128

instance (b : UInt8) : Decidable (IsNalUnit b) := inferInstanceAs (Decidable (_ ∧ _))

instance (b : UInt8) : Decidable (IsFuA b) := inferInstanceAs (Decidable (_ ∧ _))

instance (b : UInt8) : Decidable (IsEnd b) := inferInstanceAs (Decidable (_ ∧ _))

theorem NALUnitHeader.tryFrom_nalUnit {b : UInt8} (h : IsNalUnit b) :
    NALUnitHeader.tryFrom b = .ok ⟨(b &&& 0b0110_0000) >>> 5, b, .nalUnit⟩ := by
  rcases b with ⟨v⟩
  revert v
  decide +kernel

theorem NALUnitHeader.tryFrom_fuA {b : UInt8} (h : IsFuA b) :
    NALUnitHeader.tryFrom b = .ok ⟨(b &&& 0b0110_0000) >>> 5, b, .fuA⟩ := by
  rcases b with ⟨v⟩
  revert v
  decide +kernel

/-- Any other first byte is refused, or has a type that is not read. -/
theorem NALUnitHeader.tryFrom_other {b : UInt8} (hu : ¬ IsNalUnit b) (hf : ¬ IsFuA b) :
    (NALUnitHeader.tryFrom b).map NALUnitHeader.payloadType ≠ .ok .nalUnit ∧
      (NALUnitHeader.tryFrom b).map NALUnitHeader.payloadType ≠ .ok .fuA := by
  rcases b with ⟨v⟩
  revert v
  decide +kernel

/-- The role in a second byte, by its two top bits. -/
theorem NALFragmentationHeader.tryFrom_eq (c : UInt8) :
    NALFragmentationHeader.tryFrom c
      = if 192 ≤ c.toNat then .error .malformedPacket
        else if 128 ≤ c.toNat then .ok ⟨.start, c &&& 0b0001_1111⟩
        else if 64 ≤ c.toNat then .ok ⟨.finish, c &&& 0b0001_1111⟩
        else .ok ⟨.continue, c &&& 0b0001_1111⟩ := by
  rcases c with ⟨v⟩
  revert v
  decide +kernel

theorem getNalPacket_single {b : UInt8} (h : IsNalUnit b) (rest : Bytes) :
    getNalPacket (b :: rest) = .ok (some (.nalUnit (b :: rest))) := by
  simp only [getNalPacket, index, List.getElem?_cons_zero, ok_bind,
    NALUnitHeader.tryFrom_nalUnit h, pure_eq_ok]

theorem getNalPacket_fragment {b c : UInt8} (h : IsFuA b) (chunk : Bytes) :
    getNalPacket (b :: c :: chunk)
      = match NALFragmentationHeader.tryFrom c with
        | .error _ => .ok none
        | .ok header => .ok (some (.fragmentationUnit ⟨(b &&& 0b0110_0000) >>> 5, b, .fuA⟩ header
            chunk)) := by
  simp only [getNalPacket, index, List.getElem?_cons_zero, ok_bind, List.getElem?_cons_succ,
    NALUnitHeader.tryFrom_fuA h, pure_eq_ok]
  cases NALFragmentationHeader.tryFrom c with
  | error e => rfl
  | ok header => rfl

theorem getNalPacket_cut {b : UInt8} (h : IsFuA b) : getNalPacket [b] = .error .index := by
  simp only [getNalPacket, index, List.getElem?_cons_zero, ok_bind, NALUnitHeader.tryFrom_fuA h]
  rfl

theorem getNalPacket_other {b : UInt8} (hu : ¬ IsNalUnit b) (hf : ¬ IsFuA b) (rest : Bytes) :
    getNalPacket (b :: rest) = .ok none := by
  have hother := NALUnitHeader.tryFrom_other hu hf
  simp only [getNalPacket, index, List.getElem?_cons_zero, ok_bind]
  cases hheader : NALUnitHeader.tryFrom b with
  | error e => rfl
  | ok header =>
      rw [hheader] at hother
      rcases hother with ⟨h1, h2⟩
      rcases header with ⟨nri, inner, kind⟩
      -- Any kind but the two that are read gives nothing.
      cases kind with
      | nalUnit => exact absurd rfl h1
      | fuA => exact absurd rfl h2
      | fuB => rfl
      | stapA => rfl
      | stapB => rfl
      | mtap16 => rfl
      | mtap24 => rfl
      | reserved => rfl

/-- Reading the payload does not panic, given the fragments collected so far:
    there is a first byte, a fragment has a second one, and a last fragment
    does not complete a unit of no bytes. -/
def Decodable (fragments : Bytes) : Bytes → Prop
  | [] => False
  | [b] => ¬ IsFuA b
  | b :: c :: chunk => IsFuA b → IsEnd c → fragments ++ chunk ≠ []

/-- What the joined unit of a last fragment is, and what each other payload
    makes of the fragments. -/
theorem decodeNalUnit_single {packet : RTPPacket} {b : UInt8} {rest : Bytes}
    (hpayload : packet.payload = b :: rest) (h : IsNalUnit b) (decoder : NALDecoder) :
    decoder.decodeNalUnit packet = .ok (decoder, some (b :: rest)) := by
  rw [NALDecoder.decodeNalUnit, hpayload, getNalPacket_single h]
  rfl

theorem decodeNalUnit_other {packet : RTPPacket} {b : UInt8} {rest : Bytes}
    (hpayload : packet.payload = b :: rest) (hu : ¬ IsNalUnit b) (hf : ¬ IsFuA b)
    (decoder : NALDecoder) : decoder.decodeNalUnit packet = .ok (decoder, none) := by
  rw [NALDecoder.decodeNalUnit, hpayload, getNalPacket_other hu hf]
  rfl

/-- A fragment starts the unit over, adds to it, completes it or is refused,
    by the top bits of its second byte. -/
theorem decodeNalUnit_fragment {packet : RTPPacket} {b c : UInt8} {chunk : Bytes}
    (hpayload : packet.payload = b :: c :: chunk) (h : IsFuA b) (decoder : NALDecoder) :
    decoder.decodeNalUnit packet
      = if 192 ≤ c.toNat then .ok (decoder, none)
        else if 128 ≤ c.toNat then
          .ok (⟨((b &&& 0b1110_0000) ^^^ (c &&& 0b0001_1111)) :: chunk⟩, none)
        else if 64 ≤ c.toNat then .ok (⟨[]⟩, some (decoder.fragmentationBuffer ++ chunk))
        else .ok (⟨decoder.fragmentationBuffer ++ chunk⟩, none) := by
  rw [NALDecoder.decodeNalUnit, hpayload, getNalPacket_fragment h,
    NALFragmentationHeader.tryFrom_eq]
  -- The two upper bits of the header: both, only the start, only the end, neither.
  by_cases h1 : 192 ≤ c.toNat
  · rw [if_pos h1, if_pos h1]
    rfl
  · rw [if_neg h1, if_neg h1]
    by_cases h2 : 128 ≤ c.toNat
    · rw [if_pos h2, if_pos h2]
      rfl
    · rw [if_neg h2, if_neg h2]
      by_cases h3 : 64 ≤ c.toNat
      · rw [if_pos h3, if_pos h3]
        rfl
      · rw [if_neg h3, if_neg h3]
        rfl

section Roles

variable {packet : RTPPacket} {b c : UInt8} {chunk : Bytes}

/-- A first fragment throws away what was there, and rebuilds the header from
    its two bytes. -/
theorem decodeNalUnit_start (hpayload : packet.payload = b :: c :: chunk) (h : IsFuA b)
    (hlo : 128 ≤ c.toNat) (hhi : c.toNat < 192) (decoder : NALDecoder) :
    decoder.decodeNalUnit packet
      = .ok (⟨((b &&& 0b1110_0000) ^^^ (c &&& 0b0001_1111)) :: chunk⟩, none) := by
  rw [decodeNalUnit_fragment hpayload h, if_neg (by omega), if_pos hlo]

theorem decodeNalUnit_continue (hpayload : packet.payload = b :: c :: chunk) (h : IsFuA b)
    (hc : c.toNat < 64) (decoder : NALDecoder) :
    decoder.decodeNalUnit packet = .ok (⟨decoder.fragmentationBuffer ++ chunk⟩, none) := by
  rw [decodeNalUnit_fragment hpayload h, if_neg (by omega), if_neg (by omega),
    if_neg (by omega)]

theorem decodeNalUnit_finish (hpayload : packet.payload = b :: c :: chunk) (h : IsFuA b)
    (hc : IsEnd c) (decoder : NALDecoder) :
    decoder.decodeNalUnit packet = .ok (⟨[]⟩, some (decoder.fragmentationBuffer ++ chunk)) := by
  rcases hc with ⟨hlo, hhi⟩
  rw [decodeNalUnit_fragment hpayload h, if_neg (by omega), if_neg (by omega), if_pos hlo]

end Roles

theorem isNextInSeq_iff {decoder : AccessUnitDecoder} {seq next : UInt16}
    (h : decoder.lastSeq = some seq) : decoder.isNextInSeq next = true ↔ next = seq + 1 := by
  unfold AccessUnitDecoder.isNextInSeq
  rw [h]
  by_cases hmax : seq = 0xffff
  · simp only [hmax, if_true, decide_eq_true_eq]
    exact Iff.rfl
  · simp only [hmax, if_false, decide_eq_true_eq]

/-- The packet is the one waited for: it ends no picture nobody collects, it
    is next in sequence, and its timestamp is the one collected or the first
    of a new one. -/
def Collects (decoder : AccessUnitDecoder) (packet : RTPPacket) : Prop :=
  ¬ (packet.marker = true ∧ decoder.timestamp = none) ∧
    decoder.isNextInSeq packet.sequenceNumber = true ∧
    (decoder.isLoopback = true ∨ decoder.isMatchingTimestamp packet.timestamp = true)

section Process

variable {decoder : AccessUnitDecoder} {packet : RTPPacket}

/-- The end of a picture nobody collects is where the next one starts. -/
theorem processPacket_marked (h : packet.marker = true ∧ decoder.timestamp = none) :
    decoder.processPacket packet
      = .ok ({ decoder with
          lastSeq := some packet.sequenceNumber, isLoopback := true,
          internalBuffer := decoder.internalBuffer ++ [0] }, none) := by
  rw [AccessUnitDecoder.processPacket, if_pos h]
  rfl

/-- The collector a packet is held against: the first one of a picture brings
    its timestamp. -/
def resumed (decoder : AccessUnitDecoder) (packet : RTPPacket) : AccessUnitDecoder :=
  if decoder.isLoopback then
    { decoder with timestamp := some packet.timestamp, isLoopback := false }
  else decoder

theorem resumed_isNextInSeq (sequenceNumber : UInt16) :
    (resumed decoder packet).isNextInSeq sequenceNumber = decoder.isNextInSeq sequenceNumber := by
  unfold resumed
  by_cases hloop : decoder.isLoopback = true
  · rw [if_pos hloop]
    rfl
  · rw [if_neg hloop]

theorem resumed_isMatchingTimestamp :
    (resumed decoder packet).isMatchingTimestamp packet.timestamp = true ↔
      decoder.isLoopback = true ∨ decoder.isMatchingTimestamp packet.timestamp = true := by
  unfold resumed
  by_cases hloop : decoder.isLoopback = true
  · rw [if_pos hloop]
    exact ⟨fun _ => Or.inl hloop, fun _ => by
      simp only [AccessUnitDecoder.isMatchingTimestamp, decide_true]⟩
  · rw [if_neg hloop]
    exact ⟨Or.inr, fun h => h.resolve_left hloop⟩

theorem resumed_isLoopback : (resumed decoder packet).isLoopback = false := by
  unfold resumed
  by_cases hloop : decoder.isLoopback = true
  · rw [if_pos hloop]
  · rw [if_neg hloop]
    exact Bool.eq_false_iff.mpr hloop

/-- A packet that was not waited for leaves the collector as it was made. -/
theorem processPacket_rejected (hmarked : ¬ (packet.marker = true ∧ decoder.timestamp = none))
    (h : ¬ Collects decoder packet) :
    decoder.processPacket packet = .ok (AccessUnitDecoder.new, none) := by
  have hnal : ∃ e, (resumed decoder packet).getNal packet
      = .ok (resumed decoder packet, .error e) := by
    unfold AccessUnitDecoder.getNal
    rw [resumed_isNextInSeq]
    -- Out of sequence, or in sequence with another timestamp.
    by_cases hseq : decoder.isNextInSeq packet.sequenceNumber = true
    · have htime : ¬ (resumed decoder packet).isMatchingTimestamp packet.timestamp = true :=
        fun hc => h ⟨hmarked, hseq, resumed_isMatchingTimestamp.mp hc⟩
      rw [if_neg (by rw [hseq]; decide), if_pos (by rw [Bool.eq_false_iff.mpr htime]; rfl)]
      exact ⟨_, rfl⟩
    · rw [if_pos (by rw [Bool.eq_false_iff.mpr hseq]; rfl)]
      exact ⟨_, rfl⟩
  rcases hnal with ⟨e, hnal⟩
  have hloop : (resumed decoder packet).isLoopback = false := resumed_isLoopback
  simp only [AccessUnitDecoder.processPacket, if_neg hmarked]
  rw [show (if decoder.isLoopback = true then
      { decoder with timestamp := some packet.timestamp, isLoopback := false }
      else decoder) = resumed decoder packet from rfl, hnal]
  -- The error path clears everything but the flag, which is already down.
  simp only [ok_bind, pure_eq_ok, hloop]
  rfl

/-- The collector after the packet waited for, with what it holds then. -/
def collected (packet : RTPPacket) (nalDecoder : NALDecoder) (buffer : Bytes) :
    AccessUnitDecoder :=
  { lastSeq := some packet.sequenceNumber, timestamp := some packet.timestamp, nalDecoder,
    internalBuffer := buffer, isLoopback := false }

/-- The packet waited for is read. A unit goes to the picture behind its start
    code, and the marker hands the picture out; a marker without a unit throws
    it away. -/
theorem processPacket_collected (h : Collects decoder packet) :
    decoder.processPacket packet = (do
      let (nalDecoder, nalUnit) ← decoder.nalDecoder.decodeNalUnit packet
      match nalUnit with
      | none =>
          if packet.marker then .ok (AccessUnitDecoder.new, none)
          else .ok (collected packet nalDecoder decoder.internalBuffer, none)
      | some nal => do
          let nalHeader ← index nal 0
          let buffer := decoder.internalBuffer ++ AccessUnitDecoder.startCode nalHeader ++ nal
          if packet.marker then .ok (collected packet nalDecoder [], some buffer)
          else .ok (collected packet nalDecoder buffer, none)) := by
  rcases h with ⟨hmarked, hseq, htime⟩
  -- A packet that is collected has the timestamp, or sets it.
  have hresumed : resumed decoder packet = { decoder with
      timestamp := some packet.timestamp, isLoopback := false } := by
    unfold resumed
    by_cases hloop : decoder.isLoopback = true
    · rw [if_pos hloop]
    · rw [if_neg hloop]
      have hmatch := htime.resolve_left hloop
      rcases decoder with ⟨lastSeq, _ | timestamp, nalDecoder, buffer, loop⟩
      · cases hmatch
      · simp only [AccessUnitDecoder.isMatchingTimestamp, decide_eq_true_eq] at hmatch
        simp only [hmatch, AccessUnitDecoder.mk.injEq, true_and]
        exact Bool.eq_false_iff.mpr hloop
  have hnext : (resumed decoder packet).isNextInSeq packet.sequenceNumber = true := by
    rw [resumed_isNextInSeq, hseq]
  have hmatching := resumed_isMatchingTimestamp.mpr htime
  simp only [AccessUnitDecoder.processPacket, if_neg hmarked]
  rw [show (if decoder.isLoopback = true then
      { decoder with timestamp := some packet.timestamp, isLoopback := false }
      else decoder) = resumed decoder packet from rfl]
  simp only [AccessUnitDecoder.getNal, hnext, hmatching, Bool.not_true, Bool.false_eq_true,
    if_false]
  rw [hresumed]
  cases decoder.nalDecoder.decodeNalUnit packet with
  | error p => rfl
  | ok r =>
      rcases r with ⟨nalDecoder, _ | nal⟩
      · by_cases hmarker : packet.marker = true
        · simp only [ok_bind, hmarker, true_and, if_true]
          rfl
        · simp only [ok_bind, hmarker, false_and, if_false, Bool.false_eq_true]
          rfl
      · simp only [ok_bind, reduceCtorEq, and_false, if_false, pure_eq_ok]
        cases index nal 0 with
        | error p => rfl
        | ok nalHeader => rfl

end Process

/-- Reading a payload and looking at the first byte of what it completes
    returns exactly on the decodable ones. -/
theorem decodeNalUnit_returns_iff (decoder : NALDecoder) (packet : RTPPacket) :
    (∃ decoder' nalUnit, decoder.decodeNalUnit packet = .ok (decoder', nalUnit) ∧
        nalUnit ≠ some []) ↔ Decodable decoder.fragmentationBuffer packet.payload := by
  rcases hpayload : packet.payload with _ | ⟨b, _ | ⟨c, chunk⟩⟩
  · simp only [NALDecoder.decodeNalUnit, hpayload, Decodable, iff_false]
    intro h
    rcases h with ⟨_, _, h, _⟩
    cases h
  · by_cases hf : IsFuA b
    · simp only [NALDecoder.decodeNalUnit, hpayload, Decodable, hf, not_true_eq_false, iff_false,
        getNalPacket_cut hf]
      intro h
      rcases h with ⟨_, _, h, _⟩
      cases h
    · by_cases hu : IsNalUnit b
      · rw [decodeNalUnit_single hpayload hu]
        exact ⟨fun _ => hf, fun _ => ⟨_, _, rfl, fun hc => (by cases hc)⟩⟩
      · rw [decodeNalUnit_other hpayload hu hf]
        exact ⟨fun _ => hf, fun _ => ⟨_, _, rfl, fun hc => (by cases hc)⟩⟩
  · unfold Decodable
    by_cases hf : IsFuA b
    · rw [decodeNalUnit_fragment hpayload hf]
      by_cases hend : IsEnd c
      · -- Only a last fragment completes a unit.
        rcases hend with ⟨hlo, hhi⟩
        rw [if_neg (by omega), if_neg (by omega), if_pos hlo]
        constructor
        · rintro ⟨_, _, hok, hne⟩ _ _ hnil
          cases hok
          exact hne (congrArg some hnil)
        · intro h
          exact ⟨_, _, rfl, fun hc => h hf ⟨hlo, hhi⟩ (Option.some.inj hc)⟩
      · refine ⟨fun _ _ hc => absurd hc hend, fun _ => ?_⟩
        unfold IsEnd at hend
        split
        · exact ⟨_, _, rfl, fun hc => (by cases hc)⟩
        · split
          · exact ⟨_, _, rfl, fun hc => (by cases hc)⟩
          · rw [if_neg (by omega)]
            exact ⟨_, _, rfl, fun hc => (by cases hc)⟩
    · refine ⟨fun _ hc => absurd hc hf, fun _ => ?_⟩
      by_cases hu : IsNalUnit b
      · rw [decodeNalUnit_single hpayload hu]
        exact ⟨_, _, rfl, fun hc => (by cases hc)⟩
      · rw [decodeNalUnit_other hpayload hu hf]
        exact ⟨_, _, rfl, fun hc => (by cases hc)⟩

/-- The step survives: a packet that can be read and was waited for has a
    decodable payload. -/
def Survives (decoder : AccessUnitDecoder) (buffer : Bytes) : Prop :=
  ∀ packet, RTPPacket.tryFrom buffer = .ok packet → Collects decoder packet →
    Decodable decoder.nalDecoder.fragmentationBuffer packet.payload

theorem processPacket_returns_iff (decoder : AccessUnitDecoder) (packet : RTPPacket) :
    Returns (decoder.processPacket packet) ↔
      (Collects decoder packet →
        Decodable decoder.nalDecoder.fragmentationBuffer packet.payload) := by
  by_cases hcollect : Collects decoder packet
  · rw [processPacket_collected hcollect, ← decodeNalUnit_returns_iff]
    cases hdecode : decoder.nalDecoder.decodeNalUnit packet with
    | error p =>
        constructor
        · intro h
          rcases h with ⟨_, h⟩
          cases h
        · intro h
          rcases h hcollect with ⟨_, _, hc, _⟩
          cases hc
    | ok r =>
        rcases r with ⟨nalDecoder, _ | nal⟩
        · refine ⟨fun _ _ => ⟨_, _, rfl, fun hc => (by cases hc)⟩, fun _ => ?_⟩
          simp only [ok_bind]
          split
          · exact returns_ok _
          · exact returns_ok _
        · simp only [ok_bind, returns_bind]
          constructor
          · -- The start code looks at the first byte, which an empty unit does not have.
            rintro ⟨nalHeader, hindex, _⟩ _
            refine ⟨_, _, rfl, fun hc => ?_⟩
            rw [Option.some.inj hc] at hindex
            cases hindex
          · intro h
            rcases h hcollect with ⟨_, _, hok, hne⟩
            cases hok
            rcases nal with _ | ⟨nalHeader, rest⟩
            · exact absurd rfl hne
            · refine ⟨nalHeader, rfl, ?_⟩
              split
              · exact returns_ok _
              · exact returns_ok _
  · refine ⟨fun _ hc => absurd hc hcollect, fun _ => ?_⟩
    by_cases hmarked : packet.marker = true ∧ decoder.timestamp = none
    · rw [processPacket_marked hmarked]
      exact returns_ok _
    · rw [processPacket_rejected hmarked hcollect]
      exact returns_ok _

theorem extract_returns_iff (decoder : AccessUnitDecoder) (buffer : Bytes) :
    Returns (decoder.extract buffer) ↔ Survives decoder buffer := by
  unfold AccessUnitDecoder.extract Survives
  cases RTPPacket.tryFrom buffer with
  | error e => exact ⟨fun _ _ hc => (by cases hc), fun _ => returns_ok _⟩
  | ok packet =>
      rw [processPacket_returns_iff]
      refine ⟨fun h p hp => ?_, fun h => h packet rfl⟩
      cases hp
      exact h

/-- The video decoder behind these stages does not panic. -/
theorem tryExtractThumbnail_returns_iff {h264 : H264} (extractor : ThumbnailExtractor h264)
    (buffer : Bytes) :
    Returns (extractor.tryExtractThumbnail buffer) ↔ Survives extractor.auDecoder buffer := by
  rw [← extract_returns_iff, ThumbnailExtractor.tryExtractThumbnail]
  cases extractor.auDecoder.extract buffer with
  | error p => exact ⟨fun h => (not_returns_error p h).elim, fun h => (not_returns_error p h).elim⟩
  | ok result =>
      rcases result with ⟨auDecoder, _ | accessUnit⟩
      · exact ⟨fun _ => returns_ok _, fun _ => returns_ok _⟩
      · exact ⟨fun _ => returns_ok _, fun _ => returns_ok _⟩

/-- A run of buffers through the reader and the collector returns exactly when
    every step of it survives. -/
theorem feed_extract_returns_iff (buffers : List Bytes) :
    Returns (feed AccessUnitDecoder.extract AccessUnitDecoder.new buffers) ↔
      Along AccessUnitDecoder.extract Survives AccessUnitDecoder.new buffers :=
  feed_returns_iff extract_returns_iff AccessUnitDecoder.new buffers

/-- A packet with the marker, and then one in sequence without a payload. -/
theorem feed_extract_panics_on_empty_payload :
    feed AccessUnitDecoder.extract AccessUnitDecoder.new
        [[0x80, 0xe0, 0, 1, 0, 0, 0, 1, 0, 0, 0, 7, 0x65],
          [0x80, 0x60, 0, 2, 0, 0, 0, 2, 0, 0, 0, 7]]
      = .error .index := by
  decide +kernel

end Thumbnail

end SigmaMedia
