import Mathlib.Data.List.Chain
import SigmaMedia.Theory.Thumbnail.Fragments

/-!
# Pictures of a Clean Stream

A clean stream is one nothing happened to: every picture's units in order,
each whole or in fragments, numbered consecutively, one timestamp to a
picture, the marker on the last packet of each.

Even so the collector does not recover every picture. It needs the marker of
one picture to find the next, so the first is lost. A second picture of a
single packet carries a marker itself and is taken for the end of the picture
before. And once a picture is handed out, its timestamp is kept: the first
packet of the next picture does not match it, and that picture is thrown away.

So the picture after the first is recovered when it takes two packets, and the
one after that never is. `recoversAll_iff` states this with both directions.

## Main definitions

* `SentNal`: A unit and how it is sent.
* `SentUnit`: The units of a picture, and their timestamp.
* `CleanStream`: The packets of a clean stream.
* `AnnexB`: Units behind start codes.
* `RecoversAll`: Every picture after the first comes out at its marker.

## Theorems

* `feed_first`: A picture nobody collects ends with the collector waiting.
* `feed_unit`: A picture that is collected comes out.
* `feed_stale`: A picture with another timestamp is thrown away.
* `recoversAll_iff`: Which clean streams are recovered.
-/

namespace SigmaMedia

namespace Thumbnail

open Bytes Exec Trace

/-- A NAL unit and how it is sent: in one packet, or in a first, any number
    of middle and a last fragment of what is behind its header. -/
inductive SentNal where
  | single (header : UInt8) (valid : IsNalUnit header) (body : Bytes)
  | fragmented (header : UInt8) (valid : IsNalUnit header) (first : Bytes) (middle : List Bytes)
      (last : Bytes)

/-- The header of a unit. -/
def SentNal.header : SentNal → UInt8
  | .single header _ _ => header
  | .fragmented header _ _ _ _ => header

/-- The unit itself. -/
def SentNal.bytes : SentNal → Bytes
  | .single header _ body => header :: body
  | .fragmented header _ first middle last => header :: (first ++ middle.flatten ++ last)

/-- The payloads a unit is sent as. -/
def SentNal.payloads : SentNal → List Bytes
  | .single header _ body => [header :: body]
  | .fragmented header _ first middle last =>
      fuA 0b1000_0000 header first
        :: (middle.map (fuA 0 header) ++ [fuA 0b0100_0000 header last])

/-- The units of one picture. -/
structure SentUnit where
  timestamp : UInt32
  nals : List SentNal
  nonempty : nals ≠ []

/-- The payloads a picture is sent as. -/
def SentUnit.payloads (unit : SentUnit) : List Bytes := unit.nals.flatMap SentNal.payloads

/-- The fields of a packet the collector looks at. -/
structure Sent where
  marker : Bool
  sequenceNumber : UInt16
  timestamp : UInt32
  payload : Bytes

/-- What the collector looks at of a packet. -/
def RTPPacket.sent (packet : RTPPacket) : Sent :=
  { marker := packet.marker, sequenceNumber := packet.sequenceNumber,
    timestamp := packet.timestamp, payload := packet.payload }

/-- Payloads of one picture as packets, numbered from the given one. If they
    close the picture, the last of them has the marker. -/
def sentFrom (closes : Bool) (timestamp : UInt32) : UInt16 → List Bytes → List Sent
  | _, [] => []
  | seq, payload :: rest =>
      ⟨closes && rest.isEmpty, seq, timestamp, payload⟩
        :: sentFrom closes timestamp (seq + 1) rest

/-- The packets of pictures one after another. -/
def streamFrom : UInt16 → List SentUnit → List Sent
  | _, [] => []
  | seq, unit :: units =>
      sentFrom true unit.timestamp seq unit.payloads
        ++ streamFrom (seq + UInt16.ofNat unit.payloads.length) units

/-- The packets are those of the pictures, and neighbouring pictures have
    different timestamps. -/
def CleanStream (seq : UInt16) (units : List SentUnit) (packets : List RTPPacket) : Prop :=
  packets.map RTPPacket.sent = streamFrom seq units ∧
    units.IsChain fun unit next => next.timestamp ≠ unit.timestamp

/-- Units one after another, each behind a start code and any number of
    further zeros. -/
inductive AnnexB : List Bytes → Bytes → Prop
  | nil : AnnexB [] []
  | cons {nal : Bytes} {nals : List Bytes} {rest : Bytes} (zeros : Nat) : AnnexB nals rest →
      AnnexB (nal :: nals) (List.replicate zeros 0 ++ [0, 0, 1] ++ nal ++ rest)

/-- Each picture comes out exactly once, at its marker. -/
def Recovers : List SentUnit → List (Option Bytes) → Prop
  | [], outputs => outputs = []
  | unit :: units, outputs => ∃ accessUnit rest,
      outputs = List.replicate (unit.payloads.length - 1) none ++ some accessUnit :: rest ∧
        AnnexB (unit.nals.map SentNal.bytes) accessUnit ∧ Recovers units rest

/-- Nothing comes out for the first picture, and each further one does. -/
def RecoversAll : List SentUnit → List (Option Bytes) → Prop
  | [], outputs => outputs = []
  | unit :: units, outputs => ∃ rest,
      outputs = List.replicate unit.payloads.length none ++ rest ∧ Recovers units rest

/-- The collector after a marker: the next packet starts a picture. -/
def waiting (seq : UInt16) : AccessUnitDecoder :=
  { lastSeq := some seq, timestamp := none, nalDecoder := .new, internalBuffer := [0],
    isLoopback := true }

/-- The collector in the middle of a picture. -/
def following (seq : UInt16) (timestamp : UInt32) (fragments buffer : Bytes) :
    AccessUnitDecoder :=
  { lastSeq := some seq, timestamp := some timestamp, nalDecoder := ⟨fragments⟩,
    internalBuffer := buffer, isLoopback := false }

theorem SentNal.payloads_ne_nil (nal : SentNal) : nal.payloads ≠ [] := by
  cases nal with
  | single header valid body => exact List.cons_ne_nil _ _
  | fragmented header valid first middle last => exact List.cons_ne_nil _ _

theorem SentUnit.payloads_ne_nil (unit : SentUnit) : unit.payloads ≠ [] := by
  rcases unit with ⟨timestamp, _ | ⟨nal, nals⟩, hne⟩
  · exact absurd rfl hne
  · intro h
    rw [SentUnit.payloads, List.flatMap_cons, List.append_eq_nil_iff] at h
    exact nal.payloads_ne_nil h.1

/-- Counting a packet off a sequence of packets. -/
theorem seq_add_succ (seq : UInt16) (n : Nat) :
    seq + 1 + UInt16.ofNat n = seq + UInt16.ofNat (n + 1) := by
  rw [UInt16.ofNat_add, UInt16.add_assoc, UInt16.add_comm 1]
  rfl

theorem seq_add_comm (seq n : UInt16) : seq + 1 + n = seq + n + 1 := by
  rw [UInt16.add_assoc, UInt16.add_comm 1, ← UInt16.add_assoc]

theorem not_collects_new (packet : RTPPacket) : ¬ Collects AccessUnitDecoder.new packet := by
  intro h
  rcases h with ⟨_, hseq, _⟩
  cases hseq

/-- A picture nobody collects: nothing comes out, and its marker leaves the
    collector waiting for the next number. -/
theorem feed_first {timestamp : UInt32} {payloads : List Bytes} (hne : payloads ≠ [])
    {seq : UInt16} {packets : List RTPPacket}
    (h : packets.map RTPPacket.sent = sentFrom true timestamp seq payloads) :
    ∃ last, feed AccessUnitDecoder.processPacket AccessUnitDecoder.new packets
        = .ok (waiting last, List.replicate payloads.length none) ∧
      last + 1 = seq + UInt16.ofNat payloads.length := by
  induction payloads generalizing seq packets with
  | nil => exact absurd rfl hne
  | cons payload rest ih =>
      rw [sentFrom, List.map_eq_cons_iff] at h
      rcases h with ⟨packet, packets', rfl, hsent, hrest⟩
      simp only [RTPPacket.sent, Sent.mk.injEq] at hsent
      rcases hsent with ⟨hmarker, hseq, _, _⟩
      rcases rest with _ | ⟨next, rest⟩
      · -- The last packet has the marker.
        rw [sentFrom, List.map_eq_nil_iff] at hrest
        have hstep : AccessUnitDecoder.new.processPacket packet = .ok (waiting seq, none) := by
          rw [processPacket_marked ⟨hmarker, rfl⟩, hseq]
          rfl
        rw [hrest]
        exact ⟨seq, feed_cons hstep rfl, rfl⟩
      · have hplain : ¬ (packet.marker = true ∧ AccessUnitDecoder.new.timestamp = none) := by
          rw [hmarker]
          intro h
          rcases h with ⟨hc, _⟩
          cases hc
        have hstep := processPacket_rejected hplain (not_collects_new packet)
        rcases ih (List.cons_ne_nil _ _) hrest with ⟨last, hfeed, hlast⟩
        refine ⟨last, feed_cons hstep hfeed, ?_⟩
        exact hlast.trans (seq_add_succ seq _)

/-- Only the payloads at the end of a picture close it. -/
theorem sentFrom_append (closes : Bool) (timestamp : UInt32) (seq : UInt16) (xs : List Bytes)
    {ys : List Bytes} (hne : ys ≠ []) :
    sentFrom closes timestamp seq (xs ++ ys)
      = sentFrom false timestamp seq xs
        ++ sentFrom closes timestamp (seq + UInt16.ofNat xs.length) ys := by
  -- Over the payloads in front, none of which is the last.
  induction xs generalizing seq with
  | nil =>
      rw [List.nil_append, sentFrom, List.nil_append, List.length_nil]
      congr 1
      exact (UInt16.add_zero seq).symm
  | cons x xs ih =>
      have hmore : (xs ++ ys).isEmpty = false := by
        rw [List.isEmpty_eq_false_iff]
        exact List.append_ne_nil_of_right_ne_nil xs hne
      rw [List.cons_append, sentFrom, hmore, ih, sentFrom, List.length_cons, seq_add_succ,
        Bool.and_false, Bool.false_and]
      rfl

/-- The collector behind the last packet of a unit, and what comes out
    there. -/
def afterNal (closes : Bool) (seq : UInt16) (timestamp : UInt32) (fragments buffer : Bytes) :
    AccessUnitDecoder × Option Bytes :=
  if closes then (following seq timestamp fragments [], some buffer)
  else (following seq timestamp fragments buffer, none)

section Following

variable {seq : UInt16} {timestamp : UInt32} {fragments fragments' buffer : Bytes}
  {packet : RTPPacket} {payload : Bytes} {marker : Bool}

theorem collects_following (hsent : packet.sent = ⟨marker, seq + 1, timestamp, payload⟩) :
    Collects (following seq timestamp fragments buffer) packet := by
  simp only [RTPPacket.sent, Sent.mk.injEq] at hsent
  rcases hsent with ⟨_, hseq, htime, _⟩
  refine ⟨fun hc => (by cases hc.2), (isNextInSeq_iff rfl).mpr hseq, Or.inr ?_⟩
  simp only [AccessUnitDecoder.isMatchingTimestamp, following, htime, decide_true]

/-- A payload that completes nothing. -/
theorem processPacket_partial (hsent : packet.sent = ⟨false, seq + 1, timestamp, payload⟩)
    (hdecode : NALDecoder.decodeNalUnit ⟨fragments⟩ packet = .ok (⟨fragments'⟩, none)) :
    (following seq timestamp fragments buffer).processPacket packet
      = .ok (following (seq + 1) timestamp fragments' buffer, none) := by
  have hcollects : Collects (following seq timestamp fragments buffer) packet :=
    collects_following hsent
  simp only [RTPPacket.sent, Sent.mk.injEq] at hsent
  rcases hsent with ⟨hmarker, hseq, htime, _⟩
  rw [processPacket_collected hcollects]
  simp only [following, hdecode, ok_bind, hmarker, Bool.false_eq_true, if_false, collected, hseq,
    htime]

/-- A payload that completes a unit. -/
theorem processPacket_complete {b : UInt8} {rest : Bytes} (buffer : Bytes)
    (hsent : packet.sent = ⟨marker, seq + 1, timestamp, payload⟩)
    (hdecode : NALDecoder.decodeNalUnit ⟨fragments⟩ packet = .ok (⟨fragments'⟩, some (b :: rest))) :
    (following seq timestamp fragments buffer).processPacket packet
      = .ok (afterNal marker (seq + 1) timestamp fragments'
          (buffer ++ (AccessUnitDecoder.startCode b ++ (b :: rest)))) := by
  have hcollects : Collects (following seq timestamp fragments buffer) packet :=
    collects_following hsent
  simp only [RTPPacket.sent, Sent.mk.injEq] at hsent
  rcases hsent with ⟨hmarker, hseq, htime, _⟩
  rw [processPacket_collected hcollects]
  simp only [following, hdecode, ok_bind, hmarker, collected, hseq, htime, index,
    List.getElem?_cons_zero, afterNal, List.append_assoc]
  cases marker with
  | false => rfl
  | true => rfl

end Following

section Runs

variable {timestamp : UInt32} {packets : List RTPPacket}

/-- Middle fragments add up. -/
theorem feed_middle {seq : UInt16} {header : UInt8} (hheader : header &&& 0b1000_0000 = 0)
    {chunks : List Bytes} (fragments buffer : Bytes)
    (h : packets.map RTPPacket.sent
      = sentFrom false timestamp (seq + 1) (chunks.map (fuA 0 header))) :
    feed AccessUnitDecoder.processPacket (following seq timestamp fragments buffer) packets
      = .ok (following (seq + UInt16.ofNat chunks.length) timestamp
          (fragments ++ chunks.flatten) buffer, List.replicate chunks.length none) := by
  -- Over the pieces: each is appended, and the sequence number goes on.
  induction chunks generalizing seq packets fragments with
  | nil =>
      rw [List.map_nil, sentFrom, List.map_eq_nil_iff] at h
      rw [h, List.flatten_nil, List.append_nil, List.length_nil]
      rw [show seq + UInt16.ofNat 0 = seq from UInt16.add_zero seq]
      rfl
  | cons chunk chunks ih =>
      rw [List.map_cons, sentFrom, List.map_eq_cons_iff] at h
      rcases h with ⟨packet, packets', rfl, hsent, hrest⟩
      have hpayload : packet.payload = fuA 0 header chunk := congrArg Sent.payload hsent
      have hstep : (following seq timestamp fragments buffer).processPacket packet
          = .ok (following (seq + 1) timestamp (fragments ++ chunk) buffer, none) :=
        processPacket_partial hsent (decodeNalUnit_fuA_continue hheader hpayload ⟨fragments⟩)
      have hrec : feed AccessUnitDecoder.processPacket
          (following (seq + 1) timestamp (fragments ++ chunk) buffer) packets' = _ :=
        ih (fragments ++ chunk) hrest
      rw [seq_add_succ, List.append_assoc] at hrec
      exact feed_cons hstep hrec

/-- A unit on its way into a picture: its start code, and itself. -/
def SentNal.coded (nal : SentNal) : Bytes :=
  AccessUnitDecoder.startCode nal.header ++ nal.bytes

/-- However it is sent, a unit is added to the picture at its last packet, and
    the picture comes out there if it is closed. -/
theorem feed_nal (nal : SentNal) {closes : Bool} {seq : UInt16} (fragments buffer : Bytes)
    (h : packets.map RTPPacket.sent = sentFrom closes timestamp (seq + 1) nal.payloads) :
    ∃ fragments', feed AccessUnitDecoder.processPacket
        (following seq timestamp fragments buffer) packets
      = .ok ((afterNal closes (seq + UInt16.ofNat nal.payloads.length) timestamp fragments'
            (buffer ++ nal.coded)).1,
          List.replicate (nal.payloads.length - 1) none
            ++ [(afterNal closes (seq + UInt16.ofNat nal.payloads.length) timestamp fragments'
              (buffer ++ nal.coded)).2]) := by
  cases nal with
  | single header valid body =>
      rw [SentNal.payloads, sentFrom, List.map_eq_cons_iff] at h
      rcases h with ⟨packet, packets', rfl, hsent, hrest⟩
      rw [sentFrom, List.map_eq_nil_iff] at hrest
      rw [List.isEmpty_nil, Bool.and_true] at hsent
      have hpayload : packet.payload = header :: body := congrArg Sent.payload hsent
      have hstep := processPacket_complete buffer hsent
        (decodeNalUnit_single hpayload valid ⟨fragments⟩)
      rw [hrest]
      exact ⟨fragments, feed_cons hstep rfl⟩
  | fragmented header valid first middle last =>
      have hheader : header &&& 0b1000_0000 = 0 := forbidden_of_isNalUnit valid
      have hmore : (middle.map (fuA 0 header) ++ [fuA 0b0100_0000 header last]).isEmpty
          = false := by
        rw [List.isEmpty_eq_false_iff]
        exact List.append_ne_nil_of_right_ne_nil _ (List.cons_ne_nil _ _)
      rw [SentNal.payloads, sentFrom, hmore, Bool.and_false,
        sentFrom_append closes timestamp _ _ (List.cons_ne_nil _ _), List.map_eq_cons_iff] at h
      rcases h with ⟨packet, packets', rfl, hsent, hrest⟩
      rw [List.map_eq_append_iff] at hrest
      rcases hrest with ⟨middles, lasts, rfl, hmiddle, hlast⟩
      -- The first fragment starts the unit over, the middle ones add to it.
      have hstart : (following seq timestamp fragments buffer).processPacket packet
          = .ok (following (seq + 1) timestamp (header :: first) buffer, none) :=
        processPacket_partial hsent
          (decodeNalUnit_fuA_start hheader (congrArg Sent.payload hsent) ⟨fragments⟩)
      have hmiddles := feed_middle hheader (header :: first) buffer hmiddle
      -- The last one completes it.
      rw [sentFrom, List.map_eq_cons_iff] at hlast
      rcases hlast with ⟨lastPacket, none', rfl, hsentLast, hnone⟩
      rw [sentFrom, List.map_eq_nil_iff] at hnone
      rw [List.isEmpty_nil, Bool.and_true, List.length_map, seq_add_comm] at hsentLast
      have hdecode : NALDecoder.decodeNalUnit ⟨header :: first ++ middle.flatten⟩ lastPacket
          = .ok (⟨[]⟩, some (header :: (first ++ middle.flatten ++ last))) :=
        decodeNalUnit_fuA_finish hheader (congrArg Sent.payload hsentLast) _
      have hfinish := processPacket_complete buffer hsentLast hdecode
      have htotal : seq + 1 + UInt16.ofNat middle.length + 1
          = seq + UInt16.ofNat (middle.length + 1 + 1) := by
        rw [← seq_add_comm, seq_add_succ, seq_add_succ]
      have hlength : (SentNal.fragmented header valid first middle last).payloads.length
          = middle.length + 1 + 1 := by
        simp only [SentNal.payloads, List.length_cons, List.length_append, List.length_map,
          List.length_nil]
      rw [htotal, ← hlength] at hfinish
      rw [hnone]
      refine ⟨[], ?_⟩
      change AccessUnitDecoder.processPacket _ _ = .ok (afterNal closes
        (seq + UInt16.ofNat (SentNal.fragmented header valid first middle last).payloads.length)
        timestamp [] (buffer ++ (SentNal.fragmented header valid first middle last).coded))
        at hfinish
      generalize afterNal closes _ timestamp [] _ = after at hfinish ⊢
      rcases after with ⟨decoder, output⟩
      have hrun := feed_cons hstart
        (feed_append_of_ok hmiddles (feed_cons hfinish (feed_nil _ _)))
      rw [hlength]
      exact hrun

/-- A picture that is collected comes out at its last packet. -/
theorem feed_unit {nals : List SentNal} (hne : nals ≠ []) {seq : UInt16}
    (fragments buffer : Bytes)
    (h : packets.map RTPPacket.sent
      = sentFrom true timestamp (seq + 1) (nals.flatMap SentNal.payloads)) :
    ∃ fragments', feed AccessUnitDecoder.processPacket
        (following seq timestamp fragments buffer) packets
      = .ok (following (seq + UInt16.ofNat (nals.flatMap SentNal.payloads).length) timestamp
            fragments' [],
          List.replicate ((nals.flatMap SentNal.payloads).length - 1) none
            ++ [some (buffer ++ nals.flatMap SentNal.coded)]) := by
  induction nals generalizing seq packets fragments buffer with
  | nil => exact absurd rfl hne
  | cons nal nals ih =>
      rcases nals with _ | ⟨next, nals⟩
      · rw [List.flatMap_cons, List.flatMap_nil, List.append_nil] at h ⊢
        rw [List.flatMap_cons, List.flatMap_nil, List.append_nil]
        exact feed_nal nal fragments buffer h
      · -- The first unit does not close the picture; the others follow it.
        have hmore : (next :: nals).flatMap SentNal.payloads ≠ [] := by
          rw [List.flatMap_cons]
          exact List.append_ne_nil_of_left_ne_nil next.payloads_ne_nil _
        rw [List.flatMap_cons, sentFrom_append true timestamp _ _ hmore,
          List.map_eq_append_iff] at h
        rcases h with ⟨firsts, others, rfl, hfirst, hothers⟩
        rcases feed_nal nal fragments buffer hfirst with ⟨fragments₁, hrun₁⟩
        rw [seq_add_comm] at hothers
        rcases ih (List.cons_ne_nil _ _) fragments₁ (buffer ++ nal.coded) hothers with
          ⟨fragments₂, hrun₂⟩
        refine ⟨fragments₂, (feed_append_of_ok hrun₁ hrun₂).trans ?_⟩
        have hk := List.length_pos_iff.mpr nal.payloads_ne_nil
        have hm := List.length_pos_iff.mpr hmore
        have hpayloads : (nal :: next :: nals).flatMap SentNal.payloads
            = nal.payloads ++ (next :: nals).flatMap SentNal.payloads := List.flatMap_cons
        have hcoded : (nal :: next :: nals).flatMap SentNal.coded
            = nal.coded ++ (next :: nals).flatMap SentNal.coded := List.flatMap_cons
        rw [hpayloads, hcoded, List.length_append, UInt16.ofNat_add, ← UInt16.add_assoc,
          show nal.payloads.length + ((next :: nals).flatMap SentNal.payloads).length - 1
            = (nal.payloads.length - 1) + 1
              + (((next :: nals).flatMap SentNal.payloads).length - 1) by omega,
          ← List.replicate_append_replicate, ← List.replicate_append_replicate]
        simp only [List.append_assoc, afterNal]
        rfl

/-- A packet without the marker is taken by the waiting collector as by one in
    the middle of the picture. -/
theorem processPacket_waiting {seq : UInt16} {packet : RTPPacket} {payload : Bytes}
    (hsent : packet.sent = ⟨false, seq + 1, timestamp, payload⟩) :
    (waiting seq).processPacket packet
      = (following seq timestamp [] [0]).processPacket packet := by
  have hfollowing : Collects (following seq timestamp [] [0]) packet := collects_following hsent
  simp only [RTPPacket.sent, Sent.mk.injEq] at hsent
  rcases hsent with ⟨hmarker, hseq, _, _⟩
  have hwaiting : Collects (waiting seq) packet := by
    refine ⟨fun hc => ?_, (isNextInSeq_iff rfl).mpr hseq, Or.inl rfl⟩
    rw [hmarker] at hc
    cases hc.1
  rw [processPacket_collected hwaiting, processPacket_collected hfollowing]
  rfl

/-- The picture after a marker comes out if it takes two packets. -/
theorem feed_second {unit : SentUnit} (htwo : 2 ≤ unit.payloads.length) {seq : UInt16}
    (h : packets.map RTPPacket.sent = sentFrom true unit.timestamp (seq + 1) unit.payloads) :
    ∃ last fragments, feed AccessUnitDecoder.processPacket (waiting seq) packets
      = .ok (following last unit.timestamp fragments [],
          List.replicate (unit.payloads.length - 1) none
            ++ [some (0 :: unit.nals.flatMap SentNal.coded)]) := by
  rcases feed_unit unit.nonempty [] [0] h with ⟨fragments, hrun⟩
  refine ⟨_, fragments, Eq.trans ?_ hrun⟩
  -- The first packet has no marker, and from there both runs are the same.
  rcases hpayloads : unit.payloads with _ | ⟨first, _ | ⟨second, rest⟩⟩
  · rw [hpayloads] at htwo
    simp only [List.length_nil] at htwo
    omega
  · rw [hpayloads] at htwo
    simp only [List.length_cons, List.length_nil] at htwo
    omega
  · rw [hpayloads, sentFrom, List.map_eq_cons_iff] at h
    rcases h with ⟨packet, packets', rfl, hsent, _⟩
    rw [List.isEmpty_cons, Bool.and_false] at hsent
    simp only [feed, processPacket_waiting hsent]

/-- A picture of one packet after a marker is taken for another marker. -/
theorem feed_lone {unit : SentUnit} (hone : unit.payloads.length = 1) {seq : UInt16}
    (h : packets.map RTPPacket.sent = sentFrom true unit.timestamp (seq + 1) unit.payloads) :
    ∃ decoder, feed AccessUnitDecoder.processPacket (waiting seq) packets
      = .ok (decoder, List.replicate unit.payloads.length none) := by
  rcases List.length_eq_one_iff.mp hone with ⟨payload, hpayload⟩
  rw [hpayload, sentFrom, List.map_eq_cons_iff] at h
  rcases h with ⟨packet, packets', rfl, hsent, hrest⟩
  rw [sentFrom, List.map_eq_nil_iff] at hrest
  have hmarker : packet.marker = true := congrArg Sent.marker hsent
  have hmarked : packet.marker = true ∧ (waiting seq).timestamp = none := ⟨hmarker, rfl⟩
  rw [hrest, hpayload]
  exact ⟨_, feed_cons (processPacket_marked hmarked) (feed_nil _ _)⟩

/-- A picture with another timestamp than the one kept is thrown away. -/
theorem feed_stale {unit : SentUnit} {fragments buffer : Bytes} {seq first : UInt16}
    (hstale : unit.timestamp ≠ timestamp)
    (h : packets.map RTPPacket.sent = sentFrom true unit.timestamp first unit.payloads) :
    ∃ decoder, feed AccessUnitDecoder.processPacket
        (following seq timestamp fragments buffer) packets
      = .ok (decoder, List.replicate unit.payloads.length none) := by
  rcases hpayloads : unit.payloads with _ | ⟨payload, rest⟩
  · exact absurd hpayloads unit.payloads_ne_nil
  · rw [hpayloads, sentFrom, List.map_eq_cons_iff] at h
    rcases h with ⟨packet, packets', rfl, hsent, hrest⟩
    have htime : packet.timestamp = unit.timestamp := congrArg Sent.timestamp hsent
    have hreject : ¬ Collects (following seq timestamp fragments buffer) packet := by
      intro h
      rcases h with ⟨_, _, hloop | hmatch⟩
      · cases hloop
      · simp only [AccessUnitDecoder.isMatchingTimestamp, following, decide_eq_true_eq] at hmatch
        exact hstale (htime.symm.trans hmatch.symm)
    have hstep := processPacket_rejected (fun hc => (by cases hc.2)) hreject
    -- What is left of the picture finds the collector as it was made.
    rcases rest with _ | ⟨next, rest⟩
    · rw [sentFrom, List.map_eq_nil_iff] at hrest
      rw [hrest]
      exact ⟨_, feed_cons hstep (feed_nil _ _)⟩
    · rcases feed_first (List.cons_ne_nil _ _) hrest with ⟨last, hrun, _⟩
      exact ⟨_, feed_cons hstep hrun⟩

end Runs

theorem startCode_eq (b : UInt8) :
    ∃ zeros, AccessUnitDecoder.startCode b = List.replicate zeros 0 ++ [0, 0, 1] := by
  unfold AccessUnitDecoder.startCode
  simp only []
  split
  · exact ⟨1, rfl⟩
  · exact ⟨0, rfl⟩

/-- The units of a picture behind their start codes. -/
theorem annexB_coded (nals : List SentNal) :
    AnnexB (nals.map SentNal.bytes) (nals.flatMap SentNal.coded) := by
  induction nals with
  | nil => exact AnnexB.nil
  | cons nal nals ih =>
      rcases startCode_eq nal.header with ⟨zeros, hcode⟩
      rw [List.map_cons, List.flatMap_cons, SentNal.coded, hcode]
      exact AnnexB.cons zeros ih

/-- A zero in front of the first start code is one more of its zeros. -/
theorem AnnexB.zero_cons {nals : List Bytes} {bytes : Bytes} (hne : nals ≠ [])
    (h : AnnexB nals bytes) : AnnexB nals (0 :: bytes) := by
  cases h with
  | nil => exact absurd rfl hne
  | cons zeros hrest => exact AnnexB.cons (zeros + 1) hrest

/-- A picture nothing came out for is not recovered. -/
theorem not_recovers_of_none {unit : SentUnit} {units : List SentUnit}
    {rest : List (Option Bytes)} :
    ¬ Recovers (unit :: units) (List.replicate unit.payloads.length none ++ rest) := by
  intro h
  rcases h with ⟨accessUnit, rest', hout, _⟩
  have hpos := List.length_pos_iff.mpr unit.payloads_ne_nil
  have hat := congrArg (fun outputs => outputs[unit.payloads.length - 1]?) hout
  rw [List.getElem?_append_left (by rw [List.length_replicate]; omega),
    List.getElem?_replicate_of_lt (by omega),
    List.getElem?_append_right (by rw [List.length_replicate]), List.length_replicate,
    Nat.sub_self, List.getElem?_cons_zero] at hat
  cases hat

/-- At most two pictures, the second in two packets or more. -/
def Recoverable : List SentUnit → Prop
  | [] => True
  | [_] => True
  | [_, second] => 2 ≤ second.payloads.length
  | _ :: _ :: _ :: _ => False

/-- The packets of a stream, cut behind its first picture. -/
theorem streamFrom_split {seq : UInt16} {unit : SentUnit} {units : List SentUnit}
    {packets : List RTPPacket}
    (h : packets.map RTPPacket.sent = streamFrom seq (unit :: units)) :
    ∃ firsts others, packets = firsts ++ others ∧
      firsts.map RTPPacket.sent = sentFrom true unit.timestamp seq unit.payloads ∧
      others.map RTPPacket.sent
        = streamFrom (seq + UInt16.ofNat unit.payloads.length) units := by
  rw [streamFrom, List.map_eq_append_iff] at h
  exact h

/-- The second picture of a stream is recovered exactly when it takes two
    packets, and a third one never is. -/
theorem recovers_iff {last : UInt16} {unit : SentUnit} {units : List SentUnit}
    {packets : List RTPPacket}
    (h : packets.map RTPPacket.sent = streamFrom (last + 1) (unit :: units))
    (hchain : (unit :: units).IsChain fun unit next => next.timestamp ≠ unit.timestamp) :
    (∃ decoder outputs, feed AccessUnitDecoder.processPacket (waiting last) packets
        = .ok (decoder, outputs) ∧ Recovers (unit :: units) outputs) ↔
      2 ≤ unit.payloads.length ∧ units = [] := by
  rcases streamFrom_split h with ⟨seconds, others, rfl, hsecond, hothers⟩
  have hpos := List.length_pos_iff.mpr unit.payloads_ne_nil
  constructor
  · intro h
    rcases h with ⟨decoder, outputs, hrun, hrecovers⟩
    by_cases htwo : 2 ≤ unit.payloads.length
    · refine ⟨htwo, ?_⟩
      rcases units with _ | ⟨third, units⟩
      · rfl
      · exfalso
        rcases feed_second htwo hsecond with ⟨last', fragments, hsecondRun⟩
        rcases feed_append_eq_ok hsecondRun hrun with ⟨outs, hothersRun, rfl⟩
        rcases streamFrom_split hothers with ⟨thirds, others', rfl, hthird, _⟩
        have hstale : third.timestamp ≠ unit.timestamp := hchain.rel
        rcases feed_stale hstale hthird with ⟨decoder', hthirdRun⟩
        rcases feed_append_eq_ok hthirdRun hothersRun with ⟨outs', _, rfl⟩
        -- The second picture is where it should be, so the third is not.
        rcases hrecovers with ⟨accessUnit, rest, hout, _, hrest⟩
        rw [List.append_assoc, List.append_cancel_left_eq, List.singleton_append,
          List.cons.injEq] at hout
        rw [← hout.2] at hrest
        exact not_recovers_of_none hrest
    · exfalso
      rcases feed_lone (by omega) hsecond with ⟨decoder', hloneRun⟩
      rcases feed_append_eq_ok hloneRun hrun with ⟨outs, _, rfl⟩
      exact not_recovers_of_none hrecovers
  · intro h
    rcases h with ⟨htwo, rfl⟩
    rcases feed_second htwo hsecond with ⟨last', fragments, hrun⟩
    rw [streamFrom, List.map_eq_nil_iff] at hothers
    rw [hothers, List.append_nil]
    have hannexB := (annexB_coded unit.nals).zero_cons
      (fun hc => unit.nonempty (List.map_eq_nil_iff.mp hc))
    exact ⟨_, _, hrun, _, [], rfl, hannexB, rfl⟩

/-- A clean stream is recovered exactly when it has at most two pictures and
    the second takes at least two packets. -/
theorem recoversAll_iff (seq : UInt16) (units : List SentUnit) (packets : List RTPPacket)
    (h : CleanStream seq units packets) :
    (∃ decoder outputs, feed AccessUnitDecoder.processPacket AccessUnitDecoder.new packets
        = .ok (decoder, outputs) ∧ RecoversAll units outputs) ↔ Recoverable units := by
  rcases h with ⟨hpackets, hchain⟩
  rcases units with _ | ⟨first, units⟩
  · rw [streamFrom, List.map_eq_nil_iff] at hpackets
    rw [hpackets]
    exact ⟨fun _ => trivial, fun _ => ⟨_, _, rfl, rfl⟩⟩
  · rcases streamFrom_split hpackets with ⟨firsts, others, rfl, hfirst, hothers⟩
    rcases feed_first first.payloads_ne_nil hfirst with ⟨last, hfirstRun, hlast⟩
    rw [← hlast] at hothers
    -- The first picture always ends in the same place; the rest decides.
    have hrest : (∃ decoder outputs, feed AccessUnitDecoder.processPacket AccessUnitDecoder.new
        (firsts ++ others) = .ok (decoder, outputs) ∧ RecoversAll (first :: units) outputs) ↔
        ∃ decoder outputs, feed AccessUnitDecoder.processPacket (waiting last) others
          = .ok (decoder, outputs) ∧ Recovers units outputs := by
      constructor
      · intro h
        rcases h with ⟨decoder, outputs, hrun, rest, hout, hrecovers⟩
        rcases feed_append_eq_ok hfirstRun hrun with ⟨outs, hothersRun, rfl⟩
        rw [List.append_cancel_left_eq] at hout
        rw [← hout] at hrecovers
        exact ⟨decoder, outs, hothersRun, hrecovers⟩
      · intro h
        rcases h with ⟨decoder, outputs, hrun, hrecovers⟩
        exact ⟨decoder, _, feed_append_of_ok hfirstRun hrun, outputs, rfl, hrecovers⟩
    rw [hrest]
    rcases units with _ | ⟨second, units⟩
    · rw [streamFrom, List.map_eq_nil_iff] at hothers
      rw [hothers]
      exact ⟨fun _ => trivial, fun _ => ⟨_, _, rfl, rfl⟩⟩
    · rw [recovers_iff hothers hchain.tail]
      rcases units with _ | ⟨third, units⟩
      · exact ⟨fun hc => hc.1, fun hc => ⟨hc, rfl⟩⟩
      · exact ⟨fun hc => (by cases hc.2), fun hc => hc.elim⟩

/-- A packet with the given fields and nothing else of note. -/
def plainPacket (sent : Sent) : RTPPacket :=
  { marker := sent.marker, version := 2, padding := false, ext := false, csrcCount := 0,
    payloadType := 96, sequenceNumber := sent.sequenceNumber, timestamp := sent.timestamp,
    ssrc := 7, csrc := [], payload := sent.payload }

/-- A picture of a parameter set and a slice in three fragments. -/
def samplePicture (timestamp : UInt32) : SentUnit :=
  { timestamp := timestamp,
    nals := [.single 0x67 (by decide) [1, 2], .fragmented 0x65 (by decide) [3] [[4, 5]] [6]],
    nonempty := List.cons_ne_nil _ _ }

/-- Two pictures, with the sequence numbers wrapping between them. -/
theorem recoversAll_two_pictures :
    ∃ decoder outputs, feed AccessUnitDecoder.processPacket AccessUnitDecoder.new
        ((streamFrom 65533 [samplePicture 1000, samplePicture 4000]).map plainPacket)
        = .ok (decoder, outputs) ∧
      RecoversAll [samplePicture 1000, samplePicture 4000] outputs := by
  have hsent : ((streamFrom 65533 [samplePicture 1000, samplePicture 4000]).map plainPacket).map
      RTPPacket.sent = streamFrom 65533 [samplePicture 1000, samplePicture 4000] := by
    rw [List.map_map]
    exact List.map_id _
  have hlong : 2 ≤ (samplePicture 4000).payloads.length := by decide
  exact (recoversAll_iff 65533 _ _ ⟨hsent, List.isChain_pair.mpr (by decide)⟩).mpr hlong

/-- Three pictures: nothing comes out at the last marker. -/
theorem recoversAll_fails_on_three_pictures :
    CleanStream 0 [samplePicture 1000, samplePicture 4000, samplePicture 7000]
        ((streamFrom 0 [samplePicture 1000, samplePicture 4000, samplePicture 7000]).map
          plainPacket) ∧
      ¬ ∃ decoder outputs, feed AccessUnitDecoder.processPacket AccessUnitDecoder.new
          ((streamFrom 0 [samplePicture 1000, samplePicture 4000, samplePicture 7000]).map
            plainPacket) = .ok (decoder, outputs) ∧
        RecoversAll [samplePicture 1000, samplePicture 4000, samplePicture 7000] outputs := by
  refine ⟨⟨?_, ?_⟩, ?_⟩
  · rw [List.map_map]
    exact List.map_id _
  · exact List.isChain_cons_cons.mpr ⟨by decide, List.isChain_pair.mpr (by decide)⟩
  · intro h
    rcases h with ⟨decoder, outputs, hrun, _, rfl, _, _, rfl, _, accessUnit, _, rfl, _, rfl⟩
    -- Nothing comes out with the last packet, where the third picture should.
    have hlast : (feed AccessUnitDecoder.processPacket AccessUnitDecoder.new
        ((streamFrom 0 [samplePicture 1000, samplePicture 4000, samplePicture 7000]).map
          plainPacket)).map (fun run => run.2.getLast?) = .ok (some none) := by
      decide +kernel
    rw [hrun] at hlast
    simp only [Except.map, List.getLast?_append, List.getLast?_cons, List.getLast?_nil,
      Option.getD_none, Option.getD_some, Option.some_or, Except.ok.injEq, Option.some.injEq,
      reduceCtorEq] at hlast

end Thumbnail

end SigmaMedia
