import SigmaMedia.Theory.Thumbnail.Collect

/-!
# Where the Bytes of a Picture Come From

Packets may be lost, sent twice or out of order, and two buffers survive from
one packet to the next. A picture that is handed out must not be stitched
together across such a gap.

It never is. Every packet that is not the next one of the picture being
collected leaves the collector as it was made, so whatever is in the two
buffers came from a block of packets processed one after another, with one
timestamp and consecutive numbers. `Follows` is that invariant: it names the
packets each unit of the picture was joined from, and those the unfinished one
has so far, by their positions in the run.

Within the block the order is that of the units, and a unit takes its place
when it is complete. Nothing keeps a whole unit from arriving between the
fragments of another one, and then the bytes of the fragments come out behind
those of a later packet.

A unit left unfinished at the end of a picture stays in its buffer, and may be
completed by the next picture if the timestamp does not change. Its packets
are in the same block even then.

## Main definitions

* `piece`: What a packet adds to a unit.
* `Assembly`: The packets a unit is joined from.
* `Interrupts`: A packet that makes the collector start over.
* `Block`: A block of packets without a gap.
* `Drawn`: Units joined from the packets of a block, each used once.
* `picture`: Units behind their start codes.
* `Follows`, `Traced`: What the collector holds, and where it came from.
* `Breaks`: A gap, a packet that comes again, or another timestamp.

## Theorems

* `decodeNalUnit_cases`: What a payload does to the unfinished unit.
* `processPacket_cases`: What a packet does to the collector.
* `traced_step`: Every packet keeps the invariant.
* `accessUnit_of_block`: Every picture comes from a block.
-/

namespace SigmaMedia

namespace Thumbnail

open Bytes Exec Trace

/-- What a packet adds to a unit: all of its payload if that is a whole unit,
    and the fragment in it otherwise, a first one behind the header it
    carries. -/
def piece (packet : RTPPacket) : Bytes :=
  match getNalPacket packet.payload with
  | .ok (some (.nalUnit unit)) => unit
  | .ok (some (.fragmentationUnit unitHeader fragmentationHeader unit)) =>
      match fragmentationHeader.fragmentationRole with
      | .start =>
          ((unitHeader.inner &&& 0b1110_0000) ^^^ fragmentationHeader.nalPayloadType) :: unit
      | _ => unit
  | _ => []

/-- What the packets at the given positions add up to. -/
def gather (packets : List RTPPacket) (positions : List Nat) : Bytes :=
  positions.flatMap fun j => (packets[j]?).elim [] piece

/-- The packets a unit is joined from, the one that completes it last. -/
structure Assembly where
  fragments : List Nat
  completing : Nat

/-- All the packets of a unit. -/
def Assembly.positions (assembly : Assembly) : List Nat :=
  assembly.fragments ++ [assembly.completing]

/-- A unit behind its start code. -/
def coded (nal : Bytes) : Bytes := AccessUnitDecoder.startCode (nal.headD 0) ++ nal

/-- A packet that makes the collector start over: a marker it takes its
    bearings from, or a packet that cannot be decoded. -/
def Interrupts (decoder : AccessUnitDecoder) (packet : RTPPacket) : Prop :=
  (packet.marker = true ∧ decoder.timestamp = none) ∨
    ∃ decoder' e, (resumed decoder packet).getNal packet = .ok (decoder', .error e)

/-- The packets from `i` to `k` have one timestamp and consecutive numbers, and
    none of them made the collector start over. -/
structure Block (packets : List RTPPacket) (i k : Nat) : Prop where
  timestamp : ∀ j, i ≤ j → j ≤ k →
    packets[j]?.map RTPPacket.timestamp = packets[k]?.map RTPPacket.timestamp
  consecutive : ∀ j, i ≤ j → j < k → packets[j + 1]?.map RTPPacket.sequenceNumber
    = packets[j]?.map fun packet => packet.sequenceNumber + 1
  uninterrupted : ∀ j, i ≤ j → j ≤ k → ∀ decoder outputs packet,
    feed AccessUnitDecoder.processPacket AccessUnitDecoder.new (packets.take j)
      = .ok (decoder, outputs) → packets[j]? = some packet → ¬ Interrupts decoder packet

/-- The units, and the unfinished one, are joined from packets from `i` on and
    before `n`: each in the order of its packets, one after the other in the
    order they were completed, and no packet is used twice. -/
structure Drawn (i n : Nat) (units : List Assembly) (unfinished : List Nat) : Prop where
  ordered : ∀ unit ∈ units, unit.positions.Pairwise (· < ·)
  unfinished_ordered : unfinished.Pairwise (· < ·)
  within : ∀ j ∈ units.flatMap Assembly.positions ++ unfinished, i ≤ j ∧ j < n
  once : (units.flatMap Assembly.positions ++ unfinished).Nodup
  completed : units.Pairwise fun unit next => unit.completing < next.completing

namespace Drawn

variable {i n : Nat} {units : List Assembly} {unfinished : List Nat}

theorem nil (i n : Nat) : Drawn i n [] [] where
  ordered _ h := absurd h List.not_mem_nil
  unfinished_ordered := List.Pairwise.nil
  within _ h := absurd h List.not_mem_nil
  once := List.nodup_nil
  completed := List.Pairwise.nil

/-- A packet that adds nothing. -/
theorem skip (h : Drawn i n units unfinished) : Drawn i (n + 1) units unfinished where
  ordered := h.ordered
  unfinished_ordered := h.unfinished_ordered
  within j hj := ⟨(h.within j hj).1, Nat.lt_succ_of_lt (h.within j hj).2⟩
  once := h.once
  completed := h.completed

/-- The unfinished unit is thrown away. -/
theorem abandon (h : Drawn i n units unfinished) : Drawn i n units [] where
  ordered := h.ordered
  unfinished_ordered := List.Pairwise.nil
  within j hj := by
    rw [List.append_nil] at hj
    exact h.within j (List.mem_append_left _ hj)
  once := by
    rw [List.append_nil]
    exact (List.nodup_append.mp h.once).1
  completed := h.completed

/-- The units are handed out. -/
theorem handOut (h : Drawn i n units unfinished) : Drawn i n [] unfinished where
  ordered _ hmem := absurd hmem List.not_mem_nil
  unfinished_ordered := h.unfinished_ordered
  within j hj := h.within j (List.mem_append_right _ hj)
  once := (List.nodup_append.mp h.once).2.1
  completed := List.Pairwise.nil

theorem unfinished_lt (h : Drawn i n units unfinished) {j : Nat} (hj : j ∈ unfinished) : j < n :=
  (h.within j (List.mem_append_right _ hj)).2

theorem positions_lt (h : Drawn i n units unfinished) {unit : Assembly} (hunit : unit ∈ units)
    {j : Nat} (hj : j ∈ unit.positions) : j < n :=
  (h.within j (List.mem_append_left _ (List.mem_flatMap.mpr ⟨unit, hunit, hj⟩))).2

theorem extended_ordered (h : Drawn i n units unfinished) :
    (unfinished ++ [n]).Pairwise (· < ·) := by
  rw [List.pairwise_append]
  refine ⟨h.unfinished_ordered, List.pairwise_singleton _ _, ?_⟩
  intro a ha b hb
  rw [List.mem_singleton.mp hb]
  exact h.unfinished_lt ha

/-- The next packet was not used before. -/
theorem extended_once (h : Drawn i n units unfinished) :
    (units.flatMap Assembly.positions ++ (unfinished ++ [n])).Nodup := by
  rw [← List.append_assoc, List.nodup_append]
  refine ⟨h.once, List.pairwise_singleton _ n, ?_⟩
  intro a ha b hb heq
  rw [heq, List.mem_singleton.mp hb] at ha
  exact Nat.lt_irrefl n (h.within n ha).2

theorem extended_within (h : Drawn i n units unfinished) (hi : i ≤ n) :
    ∀ j ∈ units.flatMap Assembly.positions ++ (unfinished ++ [n]), i ≤ j ∧ j < n + 1 := by
  intro j hj
  rw [← List.append_assoc, List.mem_append] at hj
  rcases hj with hj | hj
  · exact (h.skip.within j hj)
  · rw [List.mem_singleton.mp hj]
    exact ⟨hi, Nat.lt_succ_self n⟩

/-- The next packet adds to the unfinished unit. -/
theorem extend (h : Drawn i n units unfinished) (hi : i ≤ n) :
    Drawn i (n + 1) units (unfinished ++ [n]) where
  ordered := h.ordered
  unfinished_ordered := h.extended_ordered
  within := h.extended_within hi
  once := h.extended_once
  completed := h.completed

theorem completed_append (h : Drawn i n units unfinished) (fragments : List Nat) :
    (units ++ [(⟨fragments, n⟩ : Assembly)]).Pairwise fun unit next =>
      unit.completing < next.completing := by
  rw [List.pairwise_append]
  refine ⟨h.completed, List.pairwise_singleton _ _, ?_⟩
  intro unit hunit next hnext
  rw [List.mem_singleton.mp hnext]
  exact h.positions_lt hunit (List.mem_append_right _ (List.mem_singleton_self _))

theorem flatMap_append_positions (units : List Assembly) (fragments : List Nat) (n : Nat) :
    (units ++ [(⟨fragments, n⟩ : Assembly)]).flatMap Assembly.positions
      = units.flatMap Assembly.positions ++ (fragments ++ [n]) := by
  rw [List.flatMap_append, List.flatMap_singleton]
  rfl

/-- The next packet completes the unfinished unit. -/
theorem complete (h : Drawn i n units unfinished) (hi : i ≤ n) :
    Drawn i (n + 1) (units ++ [⟨unfinished, n⟩]) [] where
  ordered unit hunit := by
    rcases List.mem_append.mp hunit with hunit | hunit
    · exact h.ordered unit hunit
    · rw [List.mem_singleton.mp hunit]
      exact h.extended_ordered
  unfinished_ordered := List.Pairwise.nil
  within := by
    rw [flatMap_append_positions, List.append_nil]
    exact h.extended_within hi
  -- The packets of the new unit were the unfinished ones and the last.
  once := by
    rw [flatMap_append_positions, List.append_nil]
    exact h.extended_once
  completed := h.completed_append unfinished

/-- The next packet is a unit of its own, and the unfinished one stays
    unfinished. -/
theorem insert (h : Drawn i n units unfinished) (hi : i ≤ n) :
    Drawn i (n + 1) (units ++ [⟨[], n⟩]) unfinished := by
  -- The new packet is used in its own unit, in front of the unfinished ones.
  have hperm : ((units ++ [(⟨[], n⟩ : Assembly)]).flatMap Assembly.positions ++ unfinished).Perm
      (units.flatMap Assembly.positions ++ (unfinished ++ [n])) := by
    rw [flatMap_append_positions, List.nil_append, List.append_assoc]
    exact List.Perm.append_left _ List.perm_append_comm
  refine ⟨?_, h.unfinished_ordered, ?_, ?_, h.completed_append []⟩
  · intro unit hunit
    rcases List.mem_append.mp hunit with hunit | hunit
    · exact h.ordered unit hunit
    · rw [List.mem_singleton.mp hunit]
      exact List.pairwise_singleton _ _
  · intro j hj
    exact h.extended_within hi j (hperm.mem_iff.mp hj)
  · exact hperm.nodup_iff.mpr h.extended_once

end Drawn

/-- What was gathered stays what it is when more packets arrive. -/
theorem gather_append {packets : List RTPPacket} {positions : List Nat}
    (h : ∀ j ∈ positions, j < packets.length) (more : List RTPPacket) :
    gather (packets ++ more) positions = gather packets positions := by
  apply List.flatMap_congr
  intro j hj
  rw [List.getElem?_append_left (h j hj)]

theorem gather_last (packets : List RTPPacket) (packet : RTPPacket) (positions : List Nat)
    (h : ∀ j ∈ positions, j < packets.length) :
    gather (packets ++ [packet]) (positions ++ [packets.length])
      = gather packets positions ++ piece packet := by
  have hlast : (packets ++ [packet])[packets.length]? = some packet := by
    rw [List.getElem?_append_right (Nat.le_refl _), Nat.sub_self]
    rfl
  rw [gather, List.flatMap_append, List.flatMap_singleton, hlast]
  exact congrArg (· ++ piece packet) (gather_append h [packet])

/-- What a payload does to the unfinished unit: nothing, or it is whole
    itself, starts the unit over, adds to it, or completes it. -/
theorem decodeNalUnit_cases {decoder decoder' : NALDecoder} {packet : RTPPacket}
    {nalUnit : Option Bytes} (h : decoder.decodeNalUnit packet = .ok (decoder', nalUnit)) :
    (decoder' = decoder ∧ nalUnit = none) ∨
      (decoder' = decoder ∧ nalUnit = some (piece packet)) ∨
      (decoder' = ⟨piece packet⟩ ∧ nalUnit = none) ∨
      (decoder' = ⟨decoder.fragmentationBuffer ++ piece packet⟩ ∧ nalUnit = none) ∨
      (decoder' = ⟨[]⟩ ∧ nalUnit = some (decoder.fragmentationBuffer ++ piece packet)) := by
  unfold NALDecoder.decodeNalUnit at h
  unfold piece
  rcases bind_eq_ok.mp h with ⟨found, hfound, h⟩
  rw [hfound]
  rcases found with _ | found
  · cases h
    exact Or.inl ⟨rfl, rfl⟩
  · cases found with
    | nalUnit unit =>
        cases h
        exact Or.inr (Or.inl ⟨rfl, rfl⟩)
    | fragmentationUnit unitHeader fragmentationHeader unit =>
        simp only [] at h ⊢
        -- A fragment starts a unit over, adds to it, or completes it.
        cases hrole : fragmentationHeader.fragmentationRole with
        | start =>
            rw [hrole] at h
            cases h
            exact Or.inr (Or.inr (Or.inl ⟨rfl, rfl⟩))
        | «continue» =>
            rw [hrole] at h
            cases h
            exact Or.inr (Or.inr (Or.inr (Or.inl ⟨rfl, rfl⟩)))
        | finish =>
            rw [hrole] at h
            cases h
            exact Or.inr (Or.inr (Or.inr (Or.inr ⟨rfl, rfl⟩)))

/-- A packet that was waited for does not interrupt, unless it has the marker
    and completes no unit. -/
theorem not_interrupts {decoder : AccessUnitDecoder} {packet : RTPPacket}
    {nalDecoder : NALDecoder} {nalUnit : Option Bytes} (hcollects : Collects decoder packet)
    (hdecode : decoder.nalDecoder.decodeNalUnit packet = .ok (nalDecoder, nalUnit))
    (hlast : ¬ (packet.marker = true ∧ nalUnit = none)) : ¬ Interrupts decoder packet := by
  rcases hcollects with ⟨hmarked, hseq, htime⟩
  -- Taking up the timestamp of a packet does not touch the joiner.
  have hsame : (resumed decoder packet).nalDecoder = decoder.nalDecoder := by
    unfold resumed
    by_cases hloop : decoder.isLoopback = true
    · rw [if_pos hloop]
    · rw [if_neg hloop]
  have hnext : (resumed decoder packet).isNextInSeq packet.sequenceNumber = true := by
    rw [resumed_isNextInSeq, hseq]
  have hmatching := resumed_isMatchingTimestamp.mpr htime
  intro h
  -- Neither a marker nor an error: number, timestamp and last packet are right.
  rcases h with h | ⟨decoder', e, h⟩
  · exact hmarked h
  · simp only [AccessUnitDecoder.getNal, hnext, hmatching, Bool.not_true, Bool.false_eq_true,
      if_false, hsame, hdecode, ok_bind, if_neg hlast, pure_eq_ok] at h
    cases h

/-- What a packet does to the collector: it takes its bearings from a marker,
    starts over, or reads the packet it waited for, which completes no unit or
    one, and then the marker hands the units out. -/
theorem processPacket_cases {decoder decoder' : AccessUnitDecoder} {packet : RTPPacket}
    {output : Option Bytes} (h : decoder.processPacket packet = .ok (decoder', output)) :
    (packet.marker = true ∧ decoder.timestamp = none ∧ decoder' = { decoder with
        lastSeq := some packet.sequenceNumber, isLoopback := true,
        internalBuffer := decoder.internalBuffer ++ [0] } ∧ output = none) ∨
      (decoder' = .new ∧ output = none) ∨
      (Collects decoder packet ∧ ¬ Interrupts decoder packet ∧
        ∃ nalDecoder nalUnit, decoder.nalDecoder.decodeNalUnit packet = .ok (nalDecoder, nalUnit) ∧
          ((packet.marker = false ∧ output = none ∧ decoder' = collected packet nalDecoder
              (decoder.internalBuffer ++ nalUnit.elim [] coded)) ∨
            (packet.marker = true ∧ nalUnit ≠ none ∧ decoder' = collected packet nalDecoder [] ∧
              output = some (decoder.internalBuffer ++ nalUnit.elim [] coded)))) := by
  by_cases hmarked : packet.marker = true ∧ decoder.timestamp = none
  · rw [processPacket_marked hmarked] at h
    cases h
    exact Or.inl ⟨hmarked.1, hmarked.2, rfl, rfl⟩
  by_cases hcollects : Collects decoder packet
  · rw [processPacket_collected hcollects, bind_eq_ok] at h
    rcases h with ⟨⟨nalDecoder, _ | nal⟩, hdecode, h⟩
    · by_cases hmarker : packet.marker = true
      · -- A marker that completes nothing throws everything away.
        simp only [hmarker, if_true] at h
        cases h
        exact Or.inr (Or.inl ⟨rfl, rfl⟩)
      · simp only [hmarker, Bool.false_eq_true, if_false] at h
        cases h
        refine Or.inr (Or.inr ⟨hcollects, not_interrupts hcollects hdecode fun hc => hmarker hc.1,
          nalDecoder, none, hdecode, Or.inl ⟨Bool.eq_false_iff.mpr hmarker, rfl, ?_⟩⟩)
        rw [Option.elim_none, List.append_nil]
    · simp only [bind_eq_ok, index_eq_ok] at h
      rcases h with ⟨nalHeader, hheader, h⟩
      have hcoded : AccessUnitDecoder.startCode nalHeader ++ nal = coded nal := by
        rcases nal with _ | ⟨b, rest⟩
        · cases hheader
        · cases hheader
          rfl
      rw [List.append_assoc, hcoded] at h
      have hgoes := not_interrupts hcollects hdecode fun hc => (by cases hc.2)
      refine Or.inr (Or.inr ⟨hcollects, hgoes, nalDecoder, some nal, hdecode, ?_⟩)
      by_cases hmarker : packet.marker = true
      · simp only [hmarker, if_true] at h
        cases h
        exact Or.inr ⟨hmarker, fun hc => (by cases hc), rfl, rfl⟩
      · simp only [hmarker, Bool.false_eq_true, if_false] at h
        cases h
        exact Or.inl ⟨Bool.eq_false_iff.mpr hmarker, rfl, rfl⟩
  · rw [processPacket_rejected hmarked hcollects] at h
    cases h
    exact Or.inr (Or.inl ⟨rfl, rfl⟩)

section Blocks

variable {packets : List RTPPacket} {decoder : AccessUnitDecoder} {outputs : List (Option Bytes)}
  {packet : RTPPacket} {i k : Nat}

theorem getElem?_snoc (packets : List RTPPacket) (packet : RTPPacket) :
    (packets ++ [packet])[packets.length]? = some packet := by
  rw [List.getElem?_append_right (Nat.le_refl _), Nat.sub_self]
  rfl

/-- A packet that does not interrupt is a block by itself. -/
theorem Block.start
    (hrun : feed AccessUnitDecoder.processPacket .new packets = .ok (decoder, outputs))
    (hgoes : ¬ Interrupts decoder packet) :
    Block (packets ++ [packet]) packets.length packets.length where
  timestamp j hle hge := by rw [Nat.le_antisymm hge hle]
  consecutive j hle hlt := absurd hlt (Nat.not_lt.mpr hle)
  uninterrupted j hle hge decoder' outputs' packet' hrun' hpacket := by
    rw [Nat.le_antisymm hge hle] at hrun' hpacket
    rw [List.take_left, hrun] at hrun'
    cases hrun'
    rw [getElem?_snoc] at hpacket
    cases hpacket
    exact hgoes

/-- A packet in sequence and with the timestamp of a block makes it longer. -/
theorem Block.extend (h : Block packets i k) (hlen : packets.length = k + 1)
    (hrun : feed AccessUnitDecoder.processPacket .new packets = .ok (decoder, outputs))
    (hgoes : ¬ Interrupts decoder packet)
    (htime : packets[k]?.map RTPPacket.timestamp = some packet.timestamp)
    (hseq : packets[k]?.map (fun last => last.sequenceNumber + 1)
      = some packet.sequenceNumber) :
    Block (packets ++ [packet]) i (k + 1) := by
  have hlast : (packets ++ [packet])[k + 1]? = some packet := hlen ▸ getElem?_snoc packets packet
  -- The packets so far stand where they stood.
  have hbefore : ∀ j, j ≤ k → (packets ++ [packet])[j]? = packets[j]? := by
    intro j hj
    exact List.getElem?_append_left (by omega)
  refine ⟨?_, ?_, ?_⟩
  · intro j hi hj
    rw [hlast, Option.map_some]
    rcases Nat.lt_or_ge k j with hlt | hle
    · rw [Nat.le_antisymm hj hlt, hlast, Option.map_some]
    · rw [hbefore j hle, h.timestamp j hi hle, htime]
  · intro j hi hj
    rcases Nat.lt_or_ge j k with hlt | hle
    · rw [hbefore (j + 1) hlt, hbefore j (Nat.le_of_lt hlt)]
      exact h.consecutive j hi hlt
    · have hjk : j = k := Nat.le_antisymm (Nat.le_of_lt_succ hj) hle
      rw [hjk, hlast, hbefore k (Nat.le_refl k), Option.map_some, hseq]
  · intro j hi hj decoder' outputs' packet' hrun' hpacket
    rw [List.take_append_of_le_length (by omega)] at hrun'
    rcases Nat.lt_or_ge k j with hlt | hle
    · -- The new packet is the one that does not interrupt.
      have hjk : j = packets.length := by omega
      rw [hjk, List.take_length, hrun] at hrun'
      cases hrun'
      rw [hjk, getElem?_snoc] at hpacket
      cases hpacket
      exact hgoes
    · rw [hbefore j hle] at hpacket
      exact h.uninterrupted j hi hle decoder' outputs' packet' hrun' hpacket

/-- A block is one in any longer run. -/
theorem Block.of_take (h : Block (packets.take (k + 1)) i k) : Block packets i k := by
  -- Up to its last packet the block is the same in the longer stream.
  have hsame : ∀ j, j ≤ k → (packets.take (k + 1))[j]? = packets[j]? := by
    intro j hj
    exact List.getElem?_take_of_lt (Nat.lt_succ_of_le hj)
  refine ⟨?_, ?_, ?_⟩
  · intro j hi hj
    rw [← hsame j hj, ← hsame k (Nat.le_refl k)]
    exact h.timestamp j hi hj
  · intro j hi hj
    rw [← hsame (j + 1) hj, ← hsame j (Nat.le_of_lt hj)]
    exact h.consecutive j hi hj
  · intro j hi hj decoder' outputs' packet' hrun hpacket
    refine h.uninterrupted j hi hj decoder' outputs' packet' ?_ ((hsame j hj).trans hpacket)
    rw [List.take_take, Nat.min_eq_left (Nat.le_succ_of_le hj)]
    exact hrun

end Blocks

/-- The picture of the given units, behind the zeros of the markers before
    it. -/
def picture (packets : List RTPPacket) (zeros : Nat) (units : List Assembly) : Bytes :=
  List.replicate zeros 0 ++ units.flatMap fun unit => coded (gather packets unit.positions)

/-- The collector waits for its bearings or for the first packet of a block,
    and holds nothing. -/
structure Idle (decoder : AccessUnitDecoder) (zeros : Nat) : Prop where
  timestamp : decoder.timestamp = none
  fragments : decoder.nalDecoder.fragmentationBuffer = []
  buffer : decoder.internalBuffer = List.replicate zeros 0

/-- Both buffers hold what was gathered from the listed packets. -/
structure Keeps (packets : List RTPPacket) (decoder : AccessUnitDecoder) (i zeros : Nat)
    (units : List Assembly) (unfinished : List Nat) : Prop where
  drawn : Drawn i packets.length units unfinished
  fragments : decoder.nalDecoder.fragmentationBuffer = gather packets unfinished
  buffer : decoder.internalBuffer = picture packets zeros units

/-- The collector is in the middle of a block that ends with the last packet,
    and what it holds comes from there. -/
structure Follows (packets : List RTPPacket) (decoder : AccessUnitDecoder) (i k zeros : Nat)
    (units : List Assembly) (unfinished : List Nat) : Prop where
  length : packets.length = k + 1
  start : i ≤ k
  block : Block packets i k
  settled : decoder.isLoopback = false
  timestamp : decoder.timestamp = packets[k]?.map RTPPacket.timestamp
  lastSeq : decoder.lastSeq = packets[k]?.map RTPPacket.sequenceNumber
  keeps : Keeps packets decoder i zeros units unfinished

/-- The collector holds nothing, or what comes from the block it is in. -/
def Traced (packets : List RTPPacket) (decoder : AccessUnitDecoder) : Prop :=
  (∃ zeros, Idle decoder zeros) ∨
    ∃ i k zeros units unfinished, Follows packets decoder i k zeros units unfinished

section Steps

variable {packets : List RTPPacket} {decoder decoder' : AccessUnitDecoder}
  {outputs : List (Option Bytes)} {packet : RTPPacket} {output : Option Bytes}

theorem picture_append {i zeros : Nat} {units : List Assembly} {unfinished : List Nat}
    (h : Drawn i packets.length units unfinished) (more : List RTPPacket) :
    picture (packets ++ more) zeros units = picture packets zeros units := by
  unfold picture
  congr 1
  apply List.flatMap_congr
  intro unit hunit
  rw [gather_append fun j hj => h.positions_lt hunit hj]

/-- A unit that is complete goes to the end of the picture. -/
theorem picture_snoc {i zeros : Nat} {units : List Assembly} {unfinished fragments : List Nat}
    (h : Drawn i packets.length units unfinished)
    (hfragments : ∀ j ∈ fragments, j < packets.length) :
    picture (packets ++ [packet]) zeros (units ++ [⟨fragments, packets.length⟩])
      = picture packets zeros units ++ coded (gather packets fragments ++ piece packet) := by
  rw [← picture_append h [packet], picture, picture, List.flatMap_append, List.flatMap_singleton,
    Assembly.positions, gather_last packets packet fragments hfragments, List.append_assoc]

/-- Reading a packet adds at most that packet to what is kept. -/
theorem Keeps.decode {i zeros : Nat} {units : List Assembly} {unfinished : List Nat}
    {nalDecoder : NALDecoder} {nalUnit : Option Bytes}
    (h : Keeps packets decoder i zeros units unfinished) (hi : i ≤ packets.length)
    (hdecode : decoder.nalDecoder.decodeNalUnit packet = .ok (nalDecoder, nalUnit)) :
    ∃ units' unfinished', Drawn i (packets.length + 1) units' unfinished' ∧
      nalDecoder.fragmentationBuffer = gather (packets ++ [packet]) unfinished' ∧
      decoder.internalBuffer ++ nalUnit.elim [] coded
        = picture (packets ++ [packet]) zeros units' := by
  have hlt : ∀ j ∈ unfinished, j < packets.length := fun j hj => h.drawn.unfinished_lt hj
  have hnone : ∀ j ∈ ([] : List Nat), j < packets.length := fun j hj => absurd hj List.not_mem_nil
  have hkept : decoder.internalBuffer ++ (none : Option Bytes).elim [] coded
      = picture (packets ++ [packet]) zeros units := by
    rw [Option.elim_none, List.append_nil, h.buffer, picture_append h.drawn]
  rcases decodeNalUnit_cases hdecode
    with ⟨rfl, rfl⟩ | ⟨rfl, rfl⟩ | ⟨rfl, rfl⟩ | ⟨rfl, rfl⟩ | ⟨rfl, rfl⟩
  · exact ⟨units, unfinished, h.drawn.skip, by rw [h.fragments, gather_append hlt], hkept⟩
  · -- A whole unit passes the unfinished one by.
    refine ⟨_, unfinished, h.drawn.insert hi, by rw [h.fragments, gather_append hlt], ?_⟩
    rw [picture_snoc h.drawn hnone, h.buffer]
    rfl
  · refine ⟨units, [packets.length], h.drawn.abandon.extend hi, ?_, hkept⟩
    exact (gather_last packets packet [] hnone).symm
  · refine ⟨units, unfinished ++ [packets.length], h.drawn.extend hi, ?_, hkept⟩
    rw [gather_last packets packet unfinished hlt, h.fragments]
  · refine ⟨_, [], h.drawn.complete hi, rfl, ?_⟩
    rw [picture_snoc h.drawn hlt, h.buffer, h.fragments]
    rfl

/-- The packet waited for belongs to the block that is collected, or starts
    one. -/
theorem Traced.block (h : Traced packets decoder)
    (hrun : feed AccessUnitDecoder.processPacket .new packets = .ok (decoder, outputs))
    (hcollects : Collects decoder packet) (hgoes : ¬ Interrupts decoder packet) :
    ∃ i zeros units unfinished, i ≤ packets.length ∧
      Keeps packets decoder i zeros units unfinished ∧
      Block (packets ++ [packet]) i packets.length := by
  rcases h with ⟨zeros, hidle⟩ | ⟨i, k, zeros, units, unfinished, hfollows⟩
  · -- A decoder that was idle starts a block with this packet.
    refine ⟨packets.length, zeros, [], [], Nat.le_refl _, ⟨.nil _ _, hidle.fragments, ?_⟩,
      Block.start hrun hgoes⟩
    rw [hidle.buffer, picture, List.flatMap_nil, List.append_nil]
  · -- One that was following goes on with its own: the packet is next in the
    -- sequence and has the same timestamp.
    rcases hcollects with ⟨_, hseq, htime⟩
    have hlast : ∃ last, packets[k]? = some last := by
      have hk : k < packets.length := by
        rw [hfollows.length]
        exact Nat.lt_succ_self k
      exact ⟨packets[k], List.getElem?_eq_getElem hk⟩
    rcases hlast with ⟨last, hlast⟩
    have hlastSeq := hfollows.lastSeq
    have htimestamp := hfollows.timestamp
    rw [hlast, Option.map_some] at hlastSeq htimestamp
    have hmatch := htime.resolve_left (by rw [hfollows.settled]; exact Bool.false_ne_true)
    simp only [AccessUnitDecoder.isMatchingTimestamp, htimestamp, decide_eq_true_eq] at hmatch
    have hblock : Block (packets ++ [packet]) i (k + 1) := by
      refine hfollows.block.extend hfollows.length hrun hgoes ?_ ?_
      · rw [hlast, Option.map_some, hmatch]
      · rw [hlast, Option.map_some, (isNextInSeq_iff hlastSeq).mp hseq]
    rw [← hfollows.length] at hblock
    have hstart := hfollows.start
    exact ⟨i, zeros, units, unfinished, by rw [hfollows.length]; omega, hfollows.keeps, hblock⟩

/-- A picture is handed out: the packets it comes from are a block that ends
    with this packet, which has the marker. -/
def HandsOut (packets : List RTPPacket) (packet : RTPPacket) (output : Option Bytes) : Prop :=
  ∀ accessUnit, output = some accessUnit → packet.marker = true ∧
    ∃ i zeros units unfinished, i ≤ packets.length ∧
      Block (packets ++ [packet]) i packets.length ∧
      Drawn i (packets.length + 1) units unfinished ∧
      accessUnit = picture (packets ++ [packet]) zeros units

/-- The collector right behind a packet of a block. -/
theorem follows_collected {i zeros : Nat} {units : List Assembly} {unfinished : List Nat}
    {nalDecoder : NALDecoder} {buffer : Bytes} (hi : i ≤ packets.length)
    (hblock : Block (packets ++ [packet]) i packets.length)
    (hdrawn : Drawn i (packets.length + 1) units unfinished)
    (hfragments : nalDecoder.fragmentationBuffer = gather (packets ++ [packet]) unfinished)
    (hbuffer : buffer = picture (packets ++ [packet]) zeros units) :
    Follows (packets ++ [packet]) (collected packet nalDecoder buffer) i packets.length zeros units
      unfinished := by
  have hlength : (packets ++ [packet]).length = packets.length + 1 := List.length_append
  refine ⟨hlength, hi, hblock, rfl, ?_, ?_, ?_, hfragments, hbuffer⟩
  · rw [getElem?_snoc]
    rfl
  · rw [getElem?_snoc]
    rfl
  · rw [hlength]
    exact hdrawn

/-- Every packet keeps what is known of the collector, and what it hands out
    comes from a block. -/
theorem traced_step (h : Traced packets decoder)
    (hrun : feed AccessUnitDecoder.processPacket .new packets = .ok (decoder, outputs))
    (hstep : decoder.processPacket packet = .ok (decoder', output)) :
    Traced (packets ++ [packet]) decoder' ∧ HandsOut packets packet output := by
  rcases processPacket_cases hstep with ⟨_, hnone, rfl, rfl⟩ | ⟨rfl, rfl⟩ |
    ⟨hcollects, hgoes, nalDecoder, nalUnit, hdecode, hend⟩
  · -- Bearings are only taken from a marker while nothing is held.
    refine ⟨Or.inl ?_, fun _ hc => (by cases hc)⟩
    rcases h with ⟨zeros, hidle⟩ | ⟨i, k, zeros, units, unfinished, hfollows⟩
    · refine ⟨zeros + 1, hnone, hidle.fragments, ?_⟩
      rw [hidle.buffer, List.replicate_succ']
    · have htimestamp := hfollows.timestamp
      have hk : k < packets.length := by
        rw [hfollows.length]
        exact Nat.lt_succ_self k
      rw [hnone, List.getElem?_eq_getElem hk] at htimestamp
      cases htimestamp
  · exact ⟨Or.inl ⟨0, rfl, rfl, rfl⟩, fun _ hc => (by cases hc)⟩
  · rcases h.block hrun hcollects hgoes with ⟨i, zeros, units, unfinished, hi, hkeeps, hblock⟩
    rcases hkeeps.decode hi hdecode with ⟨units', unfinished', hdrawn, hfragments, hbuffer⟩
    rcases hend with ⟨_, rfl, rfl⟩ | ⟨hmarker, _, rfl, rfl⟩
    · refine ⟨Or.inr ⟨i, packets.length, zeros, units', unfinished', ?_⟩, fun _ hc => (by cases hc)⟩
      exact follows_collected hi hblock hdrawn hfragments hbuffer
    · refine ⟨Or.inr ⟨i, packets.length, 0, [], unfinished', ?_⟩, ?_⟩
      · exact follows_collected hi hblock hdrawn.handOut hfragments rfl
      · intro accessUnit hout
        cases hout
        exact ⟨hmarker, i, zeros, units', unfinished', hi, hblock, hdrawn, hbuffer⟩

end Steps

/-- The packet behind position `j` is not the next one of the same block: its
    number does not follow, or its timestamp is another. -/
def Breaks (packets : List RTPPacket) (j : Nat) : Prop :=
  packets[j + 1]?.map RTPPacket.sequenceNumber
      ≠ packets[j]?.map (fun packet => packet.sequenceNumber + 1) ∨
    packets[j + 1]?.map RTPPacket.timestamp ≠ packets[j]?.map RTPPacket.timestamp

theorem Block.not_breaks {packets : List RTPPacket} {i j k : Nat} (h : Block packets i k)
    (hi : i ≤ j) (hj : j < k) : ¬ Breaks packets j := by
  intro hbreaks
  rcases hbreaks with hseq | htime
  · exact hseq (h.consecutive j hi hj)
  · exact htime ((h.timestamp (j + 1) (Nat.le_succ_of_le hi) hj).trans
      (h.timestamp j hi (Nat.le_of_lt hj)).symm)

/-- Every picture that comes out of a run comes from a block of packets that
    ends with the packet it came out at, and from nothing before a break. -/
theorem accessUnit_of_block {packets : List RTPPacket} {decoder : AccessUnitDecoder}
    {outputs : List (Option Bytes)}
    (h : feed AccessUnitDecoder.processPacket .new packets = .ok (decoder, outputs))
    {k : Nat} {accessUnit : Bytes} (hk : outputs[k]? = some (some accessUnit)) :
    ∃ i zeros units, i ≤ k ∧ Block packets i k ∧
      packets[k]?.map RTPPacket.marker = some true ∧
      Drawn i (k + 1) units [] ∧ accessUnit = picture packets zeros units ∧
      ∀ j, j < k → Breaks packets j → ∀ unit ∈ units, ∀ m ∈ unit.positions, j < m := by
  have hnew : Traced [] AccessUnitDecoder.new := Or.inl ⟨0, rfl, rfl, rfl⟩
  rcases feed_history Traced HandsOut hnew
    (fun _ _ _ _ _ _ hrun hinv hstep => traced_step hinv hrun hstep) h hk
    with ⟨packet, hpacket, hout⟩
  rcases hout accessUnit rfl with ⟨hmarker, i, zeros, units, unfinished, hi, hblock, hdrawn, hau⟩
  have hlen : (packets.take k).length = k := by
    have hlt := (List.getElem?_eq_some_iff.mp hpacket).1
    rw [List.length_take]
    omega
  have htake : packets.take k ++ [packet] = packets.take (k + 1) := by
    rw [List.take_add_one, hpacket, Option.toList_some]
  rw [hlen] at hi hblock hdrawn
  rw [htake] at hblock hau
  have hwhole := hblock.of_take
  have hfinal := hdrawn.abandon
  refine ⟨i, zeros, units, hi, hwhole, ?_, hfinal, ?_, ?_⟩
  · rw [hpacket, Option.map_some, hmarker]
  · -- The packets behind the marker add nothing.
    have hdrawnTake : Drawn i (packets.take (k + 1)).length units [] := by
      rw [← htake, List.length_append, hlen]
      exact hfinal
    rw [hau, ← picture_append hdrawnTake (packets.drop (k + 1)), List.take_append_drop]
  · intro j hj hbreaks unit hunit m hm
    have hwithin := hfinal.within m
      (List.mem_append_left _ (List.mem_flatMap.mpr ⟨unit, hunit, hm⟩))
    rcases Nat.lt_or_ge j m with hlt | hle
    · exact hlt
    · exact absurd hbreaks (hwhole.not_breaks (Nat.le_trans hwithin.1 hle) hj)

/-- A packet of the picture with timestamp nine. -/
def ofPicture (marker : Bool) (sequenceNumber : UInt16) (payload : Bytes) : RTPPacket :=
  { marker, version := 2, padding := false, ext := false, csrcCount := 0, payloadType := 96,
    sequenceNumber, timestamp := 9, ssrc := 7, csrc := [], payload }

/-- A unit in two fragments, behind the marker of the picture before. -/
def fragmentedRun : List RTPPacket :=
  [ofPicture true 1 [0x65], ofPicture false 2 [0x7c, 0x85, 0xaa],
    ofPicture true 3 [0x7c, 0x45, 0xcc]]

theorem accessUnit_of_block_fragments :
    ∃ decoder, feed AccessUnitDecoder.processPacket .new fragmentedRun
        = .ok (decoder, [none, none, some [0, 0, 0, 1, 0x65, 0xaa, 0xcc]]) ∧
      ∃ i zeros units, i ≤ 2 ∧ Block fragmentedRun i 2 ∧ Drawn i 3 units [] ∧
        [0, 0, 0, 1, 0x65, 0xaa, 0xcc] = picture fragmentedRun zeros units := by
  have hrun : passes (feed AccessUnitDecoder.processPacket .new fragmentedRun) (fun result =>
      decide (result.2 = [none, none, some [0, 0, 0, 1, 0x65, 0xaa, 0xcc]])) = true := by
    decide +kernel
  rcases of_passes hrun with ⟨⟨decoder, outputs⟩, hfeed, houts⟩
  have houtputs : outputs = [none, none, some [0, 0, 0, 1, 0x65, 0xaa, 0xcc]] :=
    of_decide_eq_true houts
  rw [houtputs] at hfeed
  rcases accessUnit_of_block hfeed (k := 2) rfl
    with ⟨i, zeros, units, hi, hblock, _, hdrawn, hau, _⟩
  exact ⟨decoder, hfeed, i, zeros, units, hi, hblock, hdrawn, hau⟩

/-- A whole unit between the two fragments of another one. -/
def interleavedRun : List RTPPacket :=
  [ofPicture true 1 [0x65], ofPicture false 2 [0x7c, 0x85, 0xaa], ofPicture false 3 [0x65, 0xbb],
    ofPicture true 4 [0x7c, 0x45, 0xcc]]

/-- The fragments come out behind the unit that arrived between them, so what
    comes out, even without all its zeros and ones, is not in the order of the
    packets. -/
theorem accessUnit_out_of_order :
    ∃ decoder accessUnit, feed AccessUnitDecoder.processPacket .new interleavedRun
        = .ok (decoder, [none, none, none, some accessUnit]) ∧
      accessUnit = [0, 0, 0, 1, 0x65, 0xbb, 0, 0, 1, 0x65, 0xaa, 0xcc] ∧
      ¬ (accessUnit.filter (2 ≤ ·)).Sublist (interleavedRun.flatMap piece) := by
  have hrun : passes (feed AccessUnitDecoder.processPacket .new interleavedRun) (fun result =>
      decide (result.2
        = [none, none, none, some [0, 0, 0, 1, 0x65, 0xbb, 0, 0, 1, 0x65, 0xaa, 0xcc]]))
      = true := by decide +kernel
  rcases of_passes hrun with ⟨⟨decoder, outputs⟩, hfeed, houts⟩
  have houtputs : outputs
      = [none, none, none, some [0, 0, 0, 1, 0x65, 0xbb, 0, 0, 1, 0x65, 0xaa, 0xcc]] :=
    of_decide_eq_true houts
  rw [houtputs] at hfeed
  refine ⟨decoder, _, hfeed, rfl, ?_⟩
  decide +kernel

end Thumbnail

end SigmaMedia
