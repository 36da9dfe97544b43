import SigmaMedia.Theory.Thumbnail.Blocks

/-!
# Taking Bearings

The collector takes its bearings from a marker: the packet behind it starts a
picture. It puts a zero into the buffer for that, so that the first start code
of the picture has four bytes.

Then it waits for a packet without the marker. Every further marker is a new
bearing, and brings a zero of its own, while nothing takes the old ones away:
only a packet that cannot be decoded clears the buffer. A stream whose pictures
take one packet each is made of markers, so the buffer grows with every one of
them, and all the zeros come out with the first picture of two packets.

`holdsNothing_throughout_iff` says that this is the only way it can grow.

## Main definitions

* `HoldsNothing`: What the collector should hold while it collects nothing.
* `SecondMarker`: A marker behind a marker that was a bearing.
* `LeadsWith`: What a picture should start with.

## Theorems

* `tidy_step`: What is in the buffers before a picture.
* `holdsNothing_step_iff`: When a packet lets the buffer grow.
* `begun_step`: What is in the buffers of a run without a second marker.
* `holdsNothing_throughout_iff`: Which runs keep the buffer from growing.
-/

namespace SigmaMedia

namespace Thumbnail

open Bytes Exec Trace

/-- While no picture is collected there are no fragments, and at most one
    zero. -/
def HoldsNothing (decoder : AccessUnitDecoder) : Prop :=
  decoder.timestamp = none → decoder.nalDecoder.fragmentationBuffer = [] ∧
    (decoder.internalBuffer = [] ∨ decoder.internalBuffer = [0])

/-- The packet has a marker, and so had the one the collector took its bearings
    from and still waits behind. -/
def SecondMarker (decoder : AccessUnitDecoder) (packet : RTPPacket) : Prop :=
  packet.marker = true ∧ decoder.timestamp = none ∧ decoder.isLoopback = true

/-- Units behind their start codes, with at most one zero in front. -/
def LeadsWith (accessUnit : Bytes) : Prop :=
  ∃ (leftover : Bytes) (nals : List Bytes), accessUnit = leftover ++ nals.flatMap coded ∧
    nals ≠ [] ∧ (leftover = [] ∨ leftover = [0])

/-- What is in the buffers while no picture is collected: nothing, and behind a
    marker the zeros of the bearings. -/
structure Tidy (decoder : AccessUnitDecoder) : Prop where
  fragments : decoder.timestamp = none → decoder.nalDecoder.fragmentationBuffer = []
  unsettled : decoder.timestamp = none → decoder.isLoopback = false → decoder.internalBuffer = []
  settled : decoder.timestamp = none → decoder.isLoopback = true →
    ∃ n, decoder.internalBuffer = List.replicate (n + 1) 0

theorem tidy_new : Tidy AccessUnitDecoder.new where
  fragments _ := rfl
  unsettled _ _ := rfl
  settled _ h := absurd h Bool.false_ne_true

theorem tidy_collected (packet : RTPPacket) (nalDecoder : NALDecoder) (buffer : Bytes) :
    Tidy (collected packet nalDecoder buffer) where
  fragments h := by cases h
  unsettled h := by cases h
  settled h := by cases h

section Step

variable {decoder decoder' : AccessUnitDecoder} {packet : RTPPacket} {output : Option Bytes}

theorem tidy_step (h : Tidy decoder)
    (hstep : decoder.processPacket packet = .ok (decoder', output)) : Tidy decoder' := by
  rcases processPacket_cases hstep with ⟨_, hnone, rfl, rfl⟩ | ⟨rfl, rfl⟩ |
    ⟨_, _, nalDecoder, nalUnit, _, hend⟩
  · refine ⟨fun _ => h.fragments hnone, fun _ hc => (by cases hc), fun _ _ => ?_⟩
    -- One zero more than before, whether or not there were any.
    by_cases hloop : decoder.isLoopback = true
    · rcases h.settled hnone hloop with ⟨n, hbuffer⟩
      refine ⟨n + 1, ?_⟩
      rw [hbuffer, ← List.replicate_succ']
    · refine ⟨0, ?_⟩
      rw [h.unsettled hnone (Bool.eq_false_iff.mpr hloop)]
      rfl
  · exact tidy_new
  · rcases hend with ⟨_, _, rfl⟩ | ⟨_, _, rfl, _⟩
    · exact tidy_collected _ _ _
    · exact tidy_collected _ _ _

/-- A packet lets the buffer grow exactly when it is a second marker. -/
theorem holdsNothing_step_iff (h : Tidy decoder)
    (hstep : decoder.processPacket packet = .ok (decoder', output)) :
    HoldsNothing decoder' ↔ ¬ SecondMarker decoder packet := by
  by_cases hmarked : packet.marker = true ∧ decoder.timestamp = none
  · rw [processPacket_marked hmarked] at hstep
    cases hstep
    have hfragments := h.fragments hmarked.2
    by_cases hloop : decoder.isLoopback = true
    · rcases h.settled hmarked.2 hloop with ⟨n, hbuffer⟩
      refine ⟨fun hholds => ?_, fun hsecond => absurd ⟨hmarked.1, hmarked.2, hloop⟩ hsecond⟩
      -- There was a zero, so now there are two.
      have hlength : (decoder.internalBuffer ++ [0]).length = n + 2 := by
        rw [hbuffer, List.length_append, List.length_replicate, List.length_singleton]
      rcases (hholds hmarked.2).2 with hnil | hone
      · rw [show decoder.internalBuffer ++ [0] = [] from hnil] at hlength
        cases hlength
      · rw [show decoder.internalBuffer ++ [0] = [0] from hone] at hlength
        cases hlength
    · have hbuffer := h.unsettled hmarked.2 (Bool.eq_false_iff.mpr hloop)
      refine ⟨fun _ hsecond => hloop hsecond.2.2, fun _ _ => ⟨hfragments, Or.inr ?_⟩⟩
      rw [hbuffer]
      rfl
  · have hother : ¬ SecondMarker decoder packet := fun hc => hmarked ⟨hc.1, hc.2.1⟩
    refine ⟨fun _ => hother, fun _ => ?_⟩
    rcases processPacket_cases hstep with ⟨hmarker, hnone, _, _⟩ | ⟨rfl, _⟩ |
      ⟨_, _, nalDecoder, nalUnit, _, hend⟩
    · exact absurd ⟨hmarker, hnone⟩ hmarked
    · exact fun _ => ⟨rfl, Or.inl rfl⟩
    · rcases hend with ⟨_, _, rfl⟩ | ⟨_, _, rfl, _⟩
      · intro hc
        cases hc
      · intro hc
        cases hc

/-- The buffer of a run without a second marker: at most one zero, then units,
    and none of them while no picture is collected. -/
structure Begun (decoder : AccessUnitDecoder) : Prop where
  unsettled : decoder.timestamp = none → decoder.isLoopback = false → decoder.internalBuffer = []
  buffer : ∃ (leftover : Bytes) (nals : List Bytes),
    decoder.internalBuffer = leftover ++ nals.flatMap coded ∧ (leftover = [] ∨ leftover = [0])

theorem begun_new : Begun AccessUnitDecoder.new where
  unsettled _ _ := rfl
  buffer := ⟨[], [], rfl, Or.inl rfl⟩

/-- A unit joins the others. -/
theorem Begun.snoc (h : Begun decoder) (nal : Bytes) :
    LeadsWith (decoder.internalBuffer ++ coded nal) := by
  rcases h.buffer with ⟨leftover, nals, hbuffer, hleftover⟩
  refine ⟨leftover, nals ++ [nal], ?_,
    List.append_ne_nil_of_right_ne_nil _ (List.cons_ne_nil nal []), hleftover⟩
  rw [hbuffer, List.flatMap_append, List.flatMap_singleton, List.append_assoc]

theorem begun_step (h : Begun decoder) (hfirst : ¬ SecondMarker decoder packet)
    (hstep : decoder.processPacket packet = .ok (decoder', output)) :
    Begun decoder' ∧ ∀ accessUnit, output = some accessUnit → LeadsWith accessUnit := by
  rcases processPacket_cases hstep with ⟨hmarker, hnone, rfl, rfl⟩ | ⟨rfl, rfl⟩ |
    ⟨_, _, nalDecoder, nalUnit, _, hend⟩
  · refine ⟨⟨fun _ hc => (by cases hc), [0], [], ?_, Or.inr rfl⟩, fun _ hc => (by cases hc)⟩
    -- It is the first marker, so there was no zero yet.
    have hloop : decoder.isLoopback = false :=
      Bool.eq_false_iff.mpr fun hc => hfirst ⟨hmarker, hnone, hc⟩
    rw [h.unsettled hnone hloop]
    rfl
  · exact ⟨begun_new, fun _ hc => (by cases hc)⟩
  · rcases hend with ⟨_, rfl, rfl⟩ | ⟨_, hunit, rfl, rfl⟩
    · refine ⟨⟨fun hc => (by cases hc), ?_⟩, fun _ hc => (by cases hc)⟩
      rcases nalUnit with _ | nal
      · rcases h.buffer with ⟨leftover, nals, hbuffer, hleftover⟩
        exact ⟨leftover, nals, by rw [← hbuffer]; exact List.append_nil _, hleftover⟩
      · rcases h.snoc nal with ⟨leftover, nals, hbuffer, _, hleftover⟩
        exact ⟨leftover, nals, hbuffer, hleftover⟩
    · refine ⟨⟨fun hc => (by cases hc), [], [], rfl, Or.inl rfl⟩, fun accessUnit hout => ?_⟩
      cases hout
      rcases nalUnit with _ | nal
      · exact absurd rfl hunit
      · exact h.snoc nal

end Step

/-- A run keeps the buffer from growing, and hands out no picture with more
    than one zero in front, exactly when it has no second marker. -/
theorem holdsNothing_throughout_iff {packets : List RTPPacket} {decoder : AccessUnitDecoder}
    {outputs : List (Option Bytes)}
    (h : feed AccessUnitDecoder.processPacket .new packets = .ok (decoder, outputs)) :
    (Throughout AccessUnitDecoder.processPacket HoldsNothing .new packets ∧
        ∀ accessUnit, some accessUnit ∈ outputs → LeadsWith accessUnit) ↔
      Along AccessUnitDecoder.processPacket
        (fun decoder packet => ¬ SecondMarker decoder packet) .new packets := by
  have hnew : HoldsNothing AccessUnitDecoder.new := fun _ => ⟨rfl, Or.inl rfl⟩
  -- The steps that keep it are exactly those that are no second marker.
  have hthroughout := throughout_iff_along (P := HoldsNothing) Tidy
    (fun _ _ _ _ hinv hstep => tidy_step hinv hstep)
    (fun _ _ _ _ hinv _ hstep => holdsNothing_step_iff hinv hstep) tidy_new hnew ⟨_, h⟩
  constructor
  · intro hholds
    exact hthroughout.mp hholds.1
  · intro halong
    -- Where it is kept, what comes out has one zero in front at most.
    refine ⟨hthroughout.mpr halong, fun accessUnit hout => ?_⟩
    exact outputs_of_along Begun (fun output => ∀ accessUnit, output = some accessUnit →
      LeadsWith accessUnit) (fun _ _ _ _ hinv hfirst hstep => begun_step hinv hfirst hstep)
      begun_new halong h _ hout accessUnit rfl

/-- A bearing, and the first packet of the picture behind it. -/
theorem holdsNothing_throughout_one_bearing :
    ∃ decoder outputs, feed AccessUnitDecoder.processPacket .new
        [ofPicture true 1 [0x65], ofPicture false 2 [0x65, 0xaa]] = .ok (decoder, outputs) ∧
      Throughout AccessUnitDecoder.processPacket HoldsNothing .new
        [ofPicture true 1 [0x65], ofPicture false 2 [0x65, 0xaa]] := by
  have hrun : passes (feed AccessUnitDecoder.processPacket .new
      [ofPicture true 1 [0x65], ofPicture false 2 [0x65, 0xaa]]) (fun _ => true) = true := by
    decide +kernel
  rcases of_passes hrun with ⟨⟨decoder, outputs⟩, hfeed, _⟩
  refine ⟨decoder, outputs, hfeed, ((holdsNothing_throughout_iff hfeed).mpr ?_).1⟩
  refine ⟨fun hc => absurd hc.2.2 Bool.false_ne_true, fun _ _ _ => ?_⟩
  exact ⟨fun hc => absurd hc.1 Bool.false_ne_true, fun _ _ _ => trivial⟩

/-- Two pictures of one packet each, and then one of two packets. -/
def singlePackets : List RTPPacket :=
  [ofPicture true 1 [0x65], ofPicture true 2 [0x65], ofPicture false 3 [0x65, 0xaa],
    ofPicture true 4 [0x65, 0xbb]]

/-- The two markers leave two zeros, and both come out with the picture. -/
theorem holdsNothing_fails_on_two_markers :
    ∃ decoder decoder', feed AccessUnitDecoder.processPacket .new (singlePackets.take 2)
        = .ok (decoder, [none, none]) ∧
      decoder.timestamp = none ∧ decoder.internalBuffer = [0, 0] ∧ ¬ HoldsNothing decoder ∧
      feed AccessUnitDecoder.processPacket .new singlePackets
        = .ok (decoder', [none, none, none,
            some ([0, 0] ++ coded [0x65, 0xaa] ++ coded [0x65, 0xbb])]) := by
  have hmarkers : passes (feed AccessUnitDecoder.processPacket .new (singlePackets.take 2))
      (fun result => decide (result.2 = [none, none] ∧ result.1.timestamp = none ∧
        result.1.internalBuffer = [0, 0])) = true := by decide +kernel
  have hall : passes (feed AccessUnitDecoder.processPacket .new singlePackets)
      (fun result => decide (result.2 = [none, none, none,
        some ([0, 0] ++ coded [0x65, 0xaa] ++ coded [0x65, 0xbb])])) = true := by decide +kernel
  rcases of_passes hmarkers with ⟨⟨decoder, outputs⟩, hfeed, hend⟩
  rcases of_passes hall with ⟨⟨decoder', outputs'⟩, hfeed', hend'⟩
  rcases of_decide_eq_true hend with ⟨rfl, hnone, hbuffer⟩
  have houtputs : outputs' = [none, none, none,
      some ([0, 0] ++ coded [0x65, 0xaa] ++ coded [0x65, 0xbb])] := of_decide_eq_true hend'
  rw [houtputs] at hfeed'
  refine ⟨decoder, decoder', hfeed, hnone, hbuffer, fun hholds => ?_, hfeed'⟩
  -- Two zeros are neither nothing nor one zero.
  rcases (hholds hnone).2 with hnil | hone
  · rw [hbuffer] at hnil
    cases hnil
  · rw [hbuffer] at hone
    cases hone

end Thumbnail

end SigmaMedia
