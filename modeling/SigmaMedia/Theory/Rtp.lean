import SigmaMedia.Core.Rtp
import SigmaMedia.Theory.Negotiation

/-!
# What Remapping Does to a Packet

Remapping a packet needs twelve bytes of it and nothing more. It replaces the
second byte and the four bytes of the synchronisation source and leaves every
other byte where it was, whatever the two sessions are.

Whether the new second byte says what was negotiated is another matter. The
number put in has seven bits to fit, the streamer's two numbers have to be
told apart, and the server's own test for video looks at eight bits of a
number the mapping compares in full. `payloadMapped_iff` puts the three
together: it says exactly which packets come out right.

## Main definitions

* `payloadType`, `marker`, `ssrcBytes`: The fields of a packet.
* `rewritten`: A packet with its second byte and its source replaced.
* `PayloadMapped`: The packet is mapped as negotiated.
* `NumbersAgree`: The numbers that make it so.

## Theorems

* `getRtpHeaderData_eq`: Reading the fields.
* `remapRtpHeader_eq`: Remapping is a rewrite.
* `remapRtpHeader_returns_iff`: It needs twelve bytes.
* `getElem?_rewritten`: A rewrite leaves the other bytes alone.
* `payloadMapped_iff`: When a packet is mapped as negotiated.
-/

namespace SigmaMedia

namespace Rtp

open Bytes Exec Sdp Text

/-- The byte of the marker and the payload type. -/
def secondByte (packet : Bytes) : UInt8 := packet.getD 1 0

/-- The payload type of a packet: seven bits. -/
def payloadType (packet : Bytes) : Nat := (secondByte packet).toNat % 128

/-- The marker of a packet: the bit above them. -/
def marker (packet : Bytes) : Bool := 128 ≤ (secondByte packet).toNat

/-- The bytes of the synchronisation source. -/
def ssrcBytes (packet : Bytes) : Bytes := (packet.drop 8).take 4

theorem low_bits (b : UInt8) : (b &&& 0b0111_1111).toNat = b.toNat % 128 := by
  rcases b with ⟨v⟩
  revert v
  decide +kernel

theorem top_bit (b : UInt8) : b &&& 0b1000_0000 = 0b1000_0000 ↔ 128 ≤ b.toNat := by
  rcases b with ⟨v⟩
  revert v
  decide +kernel

/-- Joining the marker with a number by exclusive or leaves the low seven bits
    of the number. -/
theorem marker_xor_low (set : Bool) (b : UInt8) :
    ((if set then 0b1000_0000 else 0 : UInt8) ^^^ b).toNat % 128 = b.toNat % 128 := by
  rcases b with ⟨v⟩
  revert v set
  decide +kernel

/-- It leaves the marker exactly when the number has no bit of its own
    there. -/
theorem marker_xor_top (set : Bool) (b : UInt8) :
    decide (128 ≤ ((if set then 0b1000_0000 else 0 : UInt8) ^^^ b).toNat) = set
      ↔ b.toNat < 128 := by
  rcases b with ⟨v⟩
  revert v set
  decide +kernel

theorem ssrcBytes_eq {packet : Bytes} : (packet.take 12).drop 8 = ssrcBytes packet := by
  rw [ssrcBytes, List.drop_take]

theorem length_ssrcBytes {packet : Bytes} (h : 12 ≤ packet.length) :
    (ssrcBytes packet).length = 4 := by
  rw [ssrcBytes, List.length_take, List.length_drop]
  omega

/-- A packet of twelve bytes has a header, and it holds the packet's
    fields. -/
theorem getRtpHeaderData_eq {packet : Bytes} (h : 12 ≤ packet.length) :
    ∃ header, getRtpHeaderData packet = .ok header ∧
      header.payloadType.toNat = payloadType packet ∧ header.markerSet = marker packet ∧
      be32 header.ssrc = ssrcBytes packet := by
  have hsecond : index packet 1 = .ok (secondByte packet) := by
    rw [index_eq_ok, secondByte, List.getD_eq_getElem?_getD,
      List.getElem?_eq_getElem (by omega : 1 < packet.length), Option.getD_some]
  rcases exists_be32 (length_ssrcBytes h) with ⟨ssrc, hssrc⟩
  have hread : readU32 (ssrcBytes packet) = some (ssrc, []) := by
    rw [readU32_eq_some, hssrc, List.append_nil]
  refine ⟨⟨secondByte packet &&& 0b1000_0000 = 0b1000_0000, secondByte packet &&& 0b0111_1111,
    ssrc⟩, ?_, low_bits _, ?_, hssrc⟩
  · rw [getRtpHeaderData, hsecond, slice, if_pos ⟨by omega, h⟩, ssrcBytes_eq]
    simp only [ok_bind, hread, unwrap, pure_eq_ok]
  · simp only [marker, top_bit]

theorem getRtpHeaderData_returns_iff (packet : Bytes) :
    Returns (getRtpHeaderData packet) ↔ 12 ≤ packet.length := by
  constructor
  · intro h
    rcases h with ⟨header, h⟩
    simp only [getRtpHeaderData, bind_eq_ok] at h
    rcases h with ⟨_, _, block, hslice, _⟩
    -- The source is cut out of the bytes up to the twelfth.
    unfold slice at hslice
    split at hslice
    · rename_i hbound
      exact hbound.2
    · cases hslice
  · intro h
    rcases getRtpHeaderData_eq h with ⟨header, hheader, _⟩
    exact ⟨header, hheader⟩

/-- A packet with its second byte and its source replaced. -/
def rewritten (packet : Bytes) (second : UInt8) (ssrc : UInt32) : Bytes :=
  (packet.set 1 second).take 8 ++ be32 ssrc ++ packet.drop 12

theorem length_rewritten {packet : Bytes} (h : 12 ≤ packet.length) (second : UInt8)
    (ssrc : UInt32) : (rewritten packet second ssrc).length = packet.length := by
  simp only [rewritten, List.length_append, List.length_take, List.length_set, length_be32,
    List.length_drop]
  omega

/-- A rewrite leaves every byte alone but the second and those of the
    source. -/
theorem getElem?_rewritten {packet : Bytes} (h : 12 ≤ packet.length) (second : UInt8)
    (ssrc : UInt32) {i : Nat} (hsecond : i ≠ 1) (hssrc : i < 8 ∨ 12 ≤ i) :
    (rewritten packet second ssrc)[i]? = packet[i]? := by
  have hfront : ((packet.set 1 second).take 8).length = 8 := by
    rw [List.length_take, List.length_set]
    omega
  rcases hssrc with hlow | hhigh
  · rw [rewritten, List.append_assoc, List.getElem?_append_left (by omega),
      List.getElem?_take_of_lt hlow, List.getElem?_set_ne (Ne.symm hsecond)]
  · rw [rewritten, List.getElem?_append_right (by
      rw [List.length_append, hfront, length_be32]
      omega), List.length_append, hfront, length_be32, List.getElem?_drop]
    congr 1
    omega

theorem secondByte_rewritten {packet : Bytes} (h : 12 ≤ packet.length) (second : UInt8)
    (ssrc : UInt32) : secondByte (rewritten packet second ssrc) = second := by
  have hfront : 1 < ((packet.set 1 second).take 8).length := by
    rw [List.length_take, List.length_set]
    omega
  rw [secondByte, List.getD_eq_getElem?_getD, rewritten, List.append_assoc,
    List.getElem?_append_left hfront, List.getElem?_take_of_lt (by omega),
    List.getElem?_set_self (by omega), Option.getD_some]

theorem ssrcBytes_rewritten {packet : Bytes} (h : 12 ≤ packet.length) (second : UInt8)
    (ssrc : UInt32) : ssrcBytes (rewritten packet second ssrc) = be32 ssrc := by
  have hfront : ((packet.set 1 second).take 8).length = 8 := by
    rw [List.length_take, List.length_set]
    omega
  rw [ssrcBytes, rewritten, List.append_assoc, List.drop_left' hfront,
    List.take_left' (length_be32 ssrc)]

/-- The second byte a mapped header is written as. -/
def mappedSecondByte (header : RTPHeader) : UInt8 :=
  (if header.markerSet then 0b1000_0000 else 0) ^^^ header.payloadType

/-- Remapping is a rewrite with the mapped header. -/
theorem remapRtpHeader_eq {packet : Bytes} {header : RTPHeader}
    (hheader : getRtpHeaderData packet = .ok header)
    (streamerSession viewerSession : NegotiatedSession) :
    remapRtpHeader packet streamerSession viewerSession
      = .ok (rewritten packet
          (mappedSecondByte (getMappedHeader header streamerSession viewerSession))
          (getMappedHeader header streamerSession viewerSession).ssrc) := by
  have hlen : 12 ≤ packet.length := (getRtpHeaderData_returns_iff packet).mp ⟨_, hheader⟩
  simp only [remapRtpHeader, hheader, ok_bind]
  rw [store, if_pos (by omega), ok_bind, storeSlice,
    if_pos (by rw [List.length_set, length_be32]; omega), length_be32,
    List.drop_set_of_lt (by omega)]
  rfl

theorem remapRtpHeader_returns_iff (packet : Bytes)
    (streamerSession viewerSession : NegotiatedSession) :
    Returns (remapRtpHeader packet streamerSession viewerSession) ↔ 12 ≤ packet.length := by
  constructor
  · intro h
    rcases h with ⟨out, h⟩
    rw [remapRtpHeader, bind_eq_ok] at h
    rcases h with ⟨header, hheader, _⟩
    exact (getRtpHeaderData_returns_iff packet).mp ⟨header, hheader⟩
  · intro h
    rcases getRtpHeaderData_eq h with ⟨header, hheader, _⟩
    exact ⟨_, remapRtpHeader_eq hheader streamerSession viewerSession⟩

/-- Remapping gives the packet the number and the source, and leaves its
    marker. -/
def RemapsTo (streamerSession viewerSession : NegotiatedSession) (packet : Bytes) (number : Nat)
    (ssrc : UInt32) : Prop :=
  ∃ out, remapRtpHeader packet streamerSession viewerSession = .ok out ∧
    payloadType out = number ∧ ssrcBytes out = be32 ssrc ∧ marker out = marker packet

/-- Whoever the viewer is, a packet with this header goes to its video
    session. -/
def MapsToVideo (header : RTPHeader) (streamerSession : NegotiatedSession) : Prop :=
  ∀ viewerSession : NegotiatedSession, getMappedHeader header streamerSession viewerSession
    = { markerSet := header.markerSet,
        payloadType := UInt8.ofNat viewerSession.videoSession.payloadNumber,
        ssrc := viewerSession.videoSession.hostSsrc }

/-- The packet is mapped as negotiated: each of the streamer's two numbers to
    the viewer's, and the server's test for video agrees with the mapping. -/
def PayloadMapped (streamerSession viewerSession : NegotiatedSession) (packet : Bytes) : Prop :=
  (payloadType packet = streamerSession.videoSession.payloadNumber →
      RemapsTo streamerSession viewerSession packet viewerSession.videoSession.payloadNumber
        viewerSession.videoSession.hostSsrc) ∧
    (payloadType packet = streamerSession.audioSession.payloadNumber →
      RemapsTo streamerSession viewerSession packet viewerSession.audioSession.payloadNumber
        viewerSession.audioSession.hostSsrc) ∧
    (payloadType packet = streamerSession.videoSession.payloadNumber ∨
        payloadType packet = streamerSession.audioSession.payloadNumber →
      ∃ header, getRtpHeaderData packet = .ok header ∧
        (isVideoPacket header streamerSession = true ↔ MapsToVideo header streamerSession))

/-- The numbers agree on a payload type: the viewer's number for it has seven
    bits, and an audio type is not also video, not even to eight bits. -/
def NumbersAgree (streamerSession viewerSession : NegotiatedSession) (number : Nat) : Prop :=
  (number = streamerSession.audioSession.payloadNumber →
      viewerSession.audioSession.payloadNumber < 128 ∧
        streamerSession.videoSession.payloadNumber % 256 ≠ number) ∧
    (number = streamerSession.videoSession.payloadNumber →
      viewerSession.videoSession.payloadNumber < 128)

instance (streamerSession viewerSession : NegotiatedSession) (number : Nat) :
    Decidable (NumbersAgree streamerSession viewerSession number) :=
  inferInstanceAs (Decidable (_ ∧ _))

section Mapping

variable {streamerSession viewerSession : NegotiatedSession} {packet : Bytes} {header : RTPHeader}

theorem mapsToVideo_iff : MapsToVideo header streamerSession ↔
    streamerSession.audioSession.payloadNumber ≠ header.payloadType.toNat := by
  constructor
  · intro hvideo haudio
    -- A viewer with two sources tells the two branches apart.
    have h := hvideo { streamerSession with
      audioSession := { streamerSession.audioSession with hostSsrc := 1 },
      videoSession := { streamerSession.videoSession with hostSsrc := 0 } }
    rw [getMappedHeader, if_pos haudio] at h
    have hsource : (1 : UInt32) = 0 := congrArg RTPHeader.ssrc h
    exact absurd hsource (by decide)
  · intro hother viewerSession
    rw [getMappedHeader, if_neg hother]

theorem isVideoPacket_iff : isVideoPacket header streamerSession = true ↔
    header.payloadType.toNat = streamerSession.videoSession.payloadNumber % 256 := by
  rw [isVideoPacket, decide_eq_true_iff, ← UInt8.toNat_inj, UInt8.toNat_ofNat']

/-- What the mapped header has to be for the packet to come out with a number
    and a source: its number has to leave the top bit to the marker. -/
theorem remapsTo_iff (hlen : 12 ≤ packet.length) (hheader : getRtpHeaderData packet = .ok header)
    (hmarker : header.markerSet = marker packet) (number : Nat) (ssrc : UInt32) :
    RemapsTo streamerSession viewerSession packet number ssrc ↔
      (getMappedHeader header streamerSession viewerSession).payloadType.toNat = number ∧
        number < 128 ∧
        (getMappedHeader header streamerSession viewerSession).ssrc = ssrc := by
  have hset : (getMappedHeader header streamerSession viewerSession).markerSet
      = marker packet := by
    rw [← hmarker, getMappedHeader]
    split
    · rfl
    · rfl
  have hlow := marker_xor_low (marker packet)
    (getMappedHeader header streamerSession viewerSession).payloadType
  -- The marker is written over the payload type, so it is kept exactly when
  -- the type leaves its bit alone.
  have hkeep : marker (rewritten packet ((if marker packet then 0b1000_0000 else 0)
        ^^^ (getMappedHeader header streamerSession viewerSession).payloadType)
        (getMappedHeader header streamerSession viewerSession).ssrc) = marker packet
      ↔ (getMappedHeader header streamerSession viewerSession).payloadType.toNat < 128 := by
    rw [marker, secondByte_rewritten hlen]
    exact marker_xor_top (marker packet) _
  simp only [RemapsTo, remapRtpHeader_eq hheader, Except.ok.injEq, exists_eq_left', payloadType,
    secondByte_rewritten hlen, ssrcBytes_rewritten hlen, mappedSecondByte, hset, hlow, hkeep]
  constructor
  · intro h
    rcases h with ⟨hnumber, hssrc, hsmall⟩
    exact ⟨by omega, by omega, be32_injective hssrc⟩
  · intro h
    rcases h with ⟨hnumber, hsmall, hssrc⟩
    exact ⟨by omega, by rw [hssrc], by omega⟩

theorem toNat_ofNat_of_small {n : Nat} (h : n < 128) : (UInt8.ofNat n).toNat = n := by
  rw [UInt8.toNat_ofNat']
  omega

/-- A packet is mapped as negotiated exactly when the numbers agree on its
    payload type. -/
theorem payloadMapped_iff (streamerSession viewerSession : NegotiatedSession) (packet : Bytes)
    (hlen : 12 ≤ packet.length) :
    PayloadMapped streamerSession viewerSession packet ↔
      NumbersAgree streamerSession viewerSession (payloadType packet) := by
  rcases getRtpHeaderData_eq hlen with ⟨header, hheader, htype, hmarker, _⟩
  have htest : (∃ header', getRtpHeaderData packet = .ok header' ∧
      (isVideoPacket header' streamerSession = true ↔ MapsToVideo header' streamerSession)) ↔
      (payloadType packet = streamerSession.videoSession.payloadNumber % 256 ↔
        streamerSession.audioSession.payloadNumber ≠ payloadType packet) := by
    simp only [hheader, Except.ok.injEq, exists_eq_left', isVideoPacket_iff, mapsToVideo_iff, htype]
  have hseven : payloadType packet < 128 := Nat.mod_lt _ (by omega)
  unfold PayloadMapped NumbersAgree
  rw [htest, remapsTo_iff hlen hheader hmarker, remapsTo_iff hlen hheader hmarker]
  by_cases haudio : streamerSession.audioSession.payloadNumber = header.payloadType.toNat
  · rw [getMappedHeader, if_pos haudio]
    rw [htype] at haudio
    constructor
    · intro h
      rcases h with ⟨_, hmapped, htested⟩
      have hagree := htested (Or.inr haudio.symm)
      -- An audio packet is mapped to audio, so it must not test as video.
      have hother : streamerSession.videoSession.payloadNumber % 256 ≠ payloadType packet :=
        fun hc => hagree.mp hc.symm haudio
      exact ⟨fun _ => ⟨(hmapped haudio.symm).2.1, hother⟩, fun hc => by omega⟩
    · intro h
      rcases h with ⟨hnumbers, _⟩
      rcases hnumbers haudio.symm with ⟨hsmall, hother⟩
      exact ⟨fun hc => by omega, fun _ => ⟨toNat_ofNat_of_small hsmall, hsmall, rfl⟩,
        fun _ => ⟨fun hc => absurd hc.symm hother, fun hc => absurd haudio hc⟩⟩
  · rw [getMappedHeader, if_neg haudio]
    rw [htype] at haudio
    constructor
    · intro h
      rcases h with ⟨hmapped, _, _⟩
      exact ⟨fun hc => absurd hc.symm haudio, fun hc => (hmapped hc).2.1⟩
    · intro h
      rcases h with ⟨_, hnumber⟩
      refine ⟨fun hc => ⟨toNat_ofNat_of_small (hnumber hc), hnumber hc, rfl⟩,
        fun hc => absurd hc.symm haudio, fun hc => ⟨fun _ => haudio, fun _ => ?_⟩⟩
      omega

end Mapping

/-- A streamer and a viewer with usual numbers, and an audio packet between
    them. -/
theorem payloadMapped_usual :
    ∃ streamerSession viewerSession,
      loopbackResolver.acceptStreamOffer
          (offerText "user".toList "sendonly".toList "111".toList "96".toList) fixedDraws
        = .ok streamerSession ∧
      loopbackResolver.acceptViewerOffer
          (offerText "user".toList "recvonly".toList "109".toList "126".toList) streamerSession
          fixedDraws = .ok viewerSession ∧
      PayloadMapped streamerSession viewerSession
        [0x80, 111, 0, 1, 0, 0, 0, 0, 0, 0, 0, 7, 0xaa] := by
  have hrun : passes (loopbackResolver.acceptStreamOffer
      (offerText "user".toList "sendonly".toList "111".toList "96".toList) fixedDraws)
      (fun streamerSession => passes (loopbackResolver.acceptViewerOffer
        (offerText "user".toList "recvonly".toList "109".toList "126".toList) streamerSession
        fixedDraws) fun viewerSession =>
          decide (NumbersAgree streamerSession viewerSession 111)) = true := by
    decide +kernel
  -- Both numbers have room in seven bits, so they agree.
  rcases of_passes hrun with ⟨streamerSession, hstreamer, hrest⟩
  rcases of_passes hrest with ⟨viewerSession, hviewer, hagree⟩
  exact ⟨streamerSession, viewerSession, hstreamer, hviewer,
    (payloadMapped_iff streamerSession viewerSession _ (by decide)).mpr
      (of_decide_eq_true hagree)⟩

/-- A viewer may offer a number of more than seven bits, and no packet can
    carry it. -/
theorem payloadMapped_fails_on_wide_number :
    ∃ streamerSession viewerSession,
      loopbackResolver.acceptStreamOffer
          (offerText "user".toList "sendonly".toList "111".toList "96".toList) fixedDraws
        = .ok streamerSession ∧
      loopbackResolver.acceptViewerOffer
          (offerText "user".toList "recvonly".toList "300".toList "126".toList) streamerSession
          fixedDraws = .ok viewerSession ∧
      ¬ PayloadMapped streamerSession viewerSession
        [0x80, 111, 0, 1, 0, 0, 0, 0, 0, 0, 0, 7, 0xaa] := by
  have hrun : passes (loopbackResolver.acceptStreamOffer
      (offerText "user".toList "sendonly".toList "111".toList "96".toList) fixedDraws)
      (fun streamerSession => passes (loopbackResolver.acceptViewerOffer
        (offerText "user".toList "recvonly".toList "300".toList "126".toList) streamerSession
        fixedDraws) fun viewerSession =>
          decide (streamerSession.audioSession.payloadNumber = 111 ∧
            viewerSession.audioSession.payloadNumber = 300)) = true := by
    decide +kernel
  rcases of_passes hrun with ⟨streamerSession, hstreamer, hrest⟩
  rcases of_passes hrest with ⟨viewerSession, hviewer, hnumbers⟩
  rcases of_decide_eq_true hnumbers with ⟨haudio, hwide⟩
  refine ⟨streamerSession, viewerSession, hstreamer, hviewer, ?_⟩
  intro hall
  -- What is written has seven bits, and 300 does not.
  rcases hall.2.1 (by rw [haudio]; decide) with ⟨out, _, hnumber, _⟩
  have hseven : payloadType out < 128 := Nat.mod_lt _ (by omega)
  omega

end Rtp

end SigmaMedia
