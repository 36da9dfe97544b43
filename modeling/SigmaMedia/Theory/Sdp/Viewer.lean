import SigmaMedia.Theory.Sdp.Roles
import SigmaMedia.Theory.Sdp.Search
import SigmaMedia.Theory.Sdp.Unknown

/-!
# What a Viewer Is Given

A viewer is held to the codec and the parameters its streamer negotiated. Its
video section may offer the codec under many payload numbers, with an rtpmap
line for the codec of each and an fmtp line for its parameters, in any order.
The number it is given is that of the first fmtp line with the streamer's
parameters and an rtpmap line for its own number.

Parameters are compared as sets, so what the text of an fmtp line spells out
twice or in another order is the same line once it is read, and an offer with
such lines rewritten is the same offer.

## Main definitions

* `rtpMapLine`, `fmtpLine`, `setupLine`: Lines of a kind.
* `Supports`: A section has the codec and the parameters under one number.
* `SameParameters`: One fmtp line, with its parameters spelled differently.
* `Respelled`: An offer with fmtp lines spelled differently.

## Theorems

* `matchingFmtp_eq_some`: The number that is found.
* `getViewerVideoSession_of_checks`: A session, once the other checks pass.
* `getSdp_respelled`: Spelling does not change an offer.
* `viewer_video_negotiation`: When there is a session, and which.
-/

namespace SigmaMedia

namespace Sdp

open Exec Net Text

/-- An rtpmap line. -/
def rtpMapLine (codec : MediaCodec) (payloadNumber : Nat) : SDPLine :=
  .attr (.rtpMap { codec, payloadNumber })

/-- An fmtp line with given parameters. -/
def fmtpLine (formatCapability : Finset Text) (payloadNumber : Nat) : SDPLine :=
  .attr (.fmtp { payloadNumber, formatCapability })

/-- A setup line. -/
def setupLine (role : Setup) : SDPLine := .attr (.setup role)

/-- A section has an H264 rtpmap line and an fmtp line with the parameters,
    for one number. -/
def Supports (videoMedia : List SDPLine) (capabilities : Finset Text) (number : Nat) : Prop :=
  rtpMapLine (.video .h264) number ∈ videoMedia ∧ fmtpLine capabilities number ∈ videoMedia

/-- One line twice, or one fmtp line with the same set of parameters. -/
def SameParameters (line line' : Text) : Prop :=
  line' = line ∨ ∃ number capabilities capabilities', ' ' ∉ number ∧
    line = "a=fmtp:".toList ++ number ++ ' ' :: capabilities ∧
    line' = "a=fmtp:".toList ++ number ++ ' ' :: capabilities' ∧
    ∀ parameter, parameter ∈ capabilities'.splitOn ';' ↔ parameter ∈ capabilities.splitOn ';'

/-- An offer with the parameters of fmtp lines reordered or repeated. -/
def Respelled (rawData rawData' : Text) : Prop :=
  List.Forall₂ SameParameters (nonEmptyLines rawData) (nonEmptyLines rawData')

section Searches

variable {lines : List SDPLine}

theorem isRtcpDemuxed_iff : isRtcpDemuxed lines = true ↔ SDPLine.attr .rtcpMux ∈ lines := by
  rw [isRtcpDemuxed, findAttribute_isSome]
  constructor
  · intro h
    rcases h with ⟨attr, hattr, hask⟩
    cases attr with
    | rtcpMux => exact hattr
    | _ => cases hask
  · intro h
    exact ⟨_, h, rfl⟩

theorem isRecvonlyDirection_iff :
    isRecvonlyDirection lines = true ↔ SDPLine.attr .receiveOnly ∈ lines := by
  rw [isRecvonlyDirection, findAttribute_isSome]
  constructor
  · intro h
    rcases h with ⟨attr, hattr, hask⟩
    cases attr with
    | receiveOnly => exact hattr
    | _ => cases hask
  · intro h
    exact ⟨_, h, rfl⟩

theorem setupRole_eq_some {role : Setup} :
    setupRole lines = some role ↔ First setupLine lines role := by
  refine findSome?_eq_some_iff_first fun line value => ?_
  cases line with
  | attr attr =>
      cases attr with
      | setup setup =>
          simp only [Option.some.injEq, setupLine, SDPLine.attr.injEq, Attribute.setup.injEq]
      | _ => simp only [setupLine, reduceCtorEq, SDPLine.attr.injEq]
  | _ => simp only [setupLine, reduceCtorEq]

theorem mem_availablePayloadNumbers {codec : MediaCodec} {number : Nat} :
    number ∈ availablePayloadNumbers codec lines ↔ rtpMapLine codec number ∈ lines := by
  unfold availablePayloadNumbers
  rw [List.mem_filterMap]
  constructor
  · intro h
    -- The line that answers is a map, of this codec and to this number.
    rcases h with ⟨line, hline, hask⟩
    split at hask
    · rename_i map
      split at hask
      · rename_i hcodec
        cases hask
        cases hcodec
        exact hline
      · cases hask
    · cases hask
  · intro h
    exact ⟨_, h, if_pos rfl⟩

/-- The number that is found: that of the first fmtp line with the parameters
    and one of the numbers. -/
theorem matchingFmtp_eq_some {available : List Nat} {capabilities : Finset Text} {number : Nat} :
    matchingFmtp available capabilities lines = some number ↔
      ∃ before after, lines = before ++ fmtpLine capabilities number :: after ∧
        number ∈ available ∧ ∀ other, other ∈ available → fmtpLine capabilities other ∉ before := by
  -- The two passes of the code are one search.
  unfold matchingFmtp
  rw [← List.head?_filterMap, List.filterMap_filterMap, List.head?_filterMap]
  refine findSome?_eq_some_iff_allowed fun line value => ?_
  cases line with
  | attr attr =>
      cases attr with
      | fmtp fmtp =>
          rcases fmtp with ⟨payloadNumber, formatCapability⟩
          by_cases hnumber : payloadNumber ∈ available
          · by_cases hcapability : formatCapability = capabilities
            · simp only [hnumber, if_true, Option.bind_some, hcapability, Option.some.injEq,
                fmtpLine, SDPLine.attr.injEq, Attribute.fmtp.injEq, FMTP.mk.injEq, and_true]
              exact ⟨fun h => ⟨h ▸ hnumber, h⟩, And.right⟩
            · simp only [hnumber, if_true, Option.bind_some, hcapability, if_false, reduceCtorEq,
                fmtpLine, SDPLine.attr.injEq, Attribute.fmtp.injEq, FMTP.mk.injEq, and_false]
          · simp only [hnumber, if_false, Option.bind_none, reduceCtorEq, fmtpLine,
              SDPLine.attr.injEq, Attribute.fmtp.injEq, FMTP.mk.injEq, false_iff, not_and]
            intro hvalue hsame
            rw [hsame] at hnumber
            exact absurd hvalue hnumber
      | _ => simp only [Option.bind_none, fmtpLine, reduceCtorEq, SDPLine.attr.injEq, and_false]
  | _ => simp only [Option.bind_none, fmtpLine, reduceCtorEq, and_false]

/-- A number is found exactly when some line supports it. -/
theorem exists_matchingFmtp {available : List Nat} {capabilities : Finset Text} :
    (∃ number, matchingFmtp available capabilities lines = some number) ↔
      ∃ number, number ∈ available ∧ fmtpLine capabilities number ∈ lines := by
  simp only [matchingFmtp_eq_some]
  exact exists_first_allowed

theorem exists_matchingFmtp_supports {streamerSession : VideoSession} :
    (∃ number, matchingFmtp (availablePayloadNumbers (.video streamerSession.codec) lines)
        streamerSession.capabilities lines = some number) ↔
      ∃ number, Supports lines streamerSession.capabilities number := by
  simp only [exists_matchingFmtp, mem_availablePayloadNumbers]
  rfl

end Searches

/-- Once the other checks pass, there is a session exactly when a number is
    found, and it has that number and what the streamer negotiated. -/
theorem getViewerVideoSession_of_checks {videoMedia : List SDPLine} {role : Setup}
    (hmux : SDPLine.attr .rtcpMux ∈ videoMedia) (hrecvonly : SDPLine.attr .receiveOnly ∈ videoMedia)
    (hsetup : First setupLine videoMedia role) (hrole : role ≠ .passive)
    (streamerSession session : VideoSession) (draws : Draws) :
    getViewerVideoSession videoMedia streamerSession draws = .ok session ↔
      ∃ number, matchingFmtp (availablePayloadNumbers (.video streamerSession.codec) videoMedia)
          streamerSession.capabilities videoMedia = some number ∧
        session = { capabilities := streamerSession.capabilities, hostSsrc := draws.videoSsrc,
                    remoteSsrc := remoteSsrc videoMedia, payloadNumber := number,
                    codec := streamerSession.codec } := by
  have hpassive : isPassiveDtlsRole videoMedia = some false := by
    rw [isPassiveDtlsRole_eq, setupRole_eq_some.mpr hsetup, Option.map_some, decide_eq_false hrole]
  rw [getViewerVideoSession_eq_ok]
  exact ⟨fun h => h.2.2.2, fun h =>
    ⟨isRtcpDemuxed_iff.mpr hmux, hpassive, isRecvonlyDirection_iff.mpr hrecvonly, h⟩⟩

/-- How an fmtp line is read: its number, and the set of its parameters. -/
theorem tryFrom_fmtp {number : Text} (hnumber : ' ' ∉ number) (capabilities : Text) :
    SDPLine.tryFrom ("a=fmtp:".toList ++ number ++ ' ' :: capabilities)
      = (okOr .malformedAttribute (parseUsize number)).map fun payloadNumber =>
          fmtpLine (capabilities.splitOn ';').toFinset payloadNumber := by
  have htext : "a=fmtp:".toList ++ number ++ ' ' :: capabilities
      = "a=".toList ++ ("fmtp:".toList ++ (number ++ ' ' :: capabilities)) := by
    rw [List.append_assoc]
    rfl
  have hkey : (("fmtp:".toList ++ (number ++ ' ' :: capabilities)).splitOn ':').head?
      = some "fmtp".toList := by
    rw [head?_splitOn]
    rfl
  have hsplit : splitOnce " ".toList (number ++ ' ' :: capabilities)
      = some (number, capabilities) := splitOnce_singleton hnumber capabilities
  rw [htext, tryFrom_attribute, Attribute.tryFrom, splitOnce_append (by decide)]
  simp only [okOr, ok_bind, hkey, FMTP.tryFrom, splitOnce_append (by decide : "fmtp:".toList ≠ []),
    hsplit]
  -- What is left to fail is the payload number.
  rcases parseUsize number with _ | payloadNumber
  · rfl
  · rfl

theorem tryFrom_sameParameters {line line' : Text} (h : SameParameters line line') :
    SDPLine.tryFrom line' = SDPLine.tryFrom line := by
  rcases h with rfl | ⟨number, capabilities, capabilities', hnumber, rfl, rfl, hsame⟩
  · rfl
  · have hset : (capabilities'.splitOn ';').toFinset = (capabilities.splitOn ';').toFinset := by
      ext parameter
      rw [List.mem_toFinset, List.mem_toFinset]
      exact hsame parameter
    rw [tryFrom_fmtp hnumber, tryFrom_fmtp hnumber, hset]

theorem mapM_sameParameters {ls ls' : List Text} (h : List.Forall₂ SameParameters ls ls') :
    ls'.mapM SDPLine.tryFrom = ls.mapM SDPLine.tryFrom := by
  induction h with
  | nil => rfl
  | cons hline _ ih => rw [List.mapM_cons, List.mapM_cons, tryFrom_sameParameters hline, ih]

/-- An offer is read alike however its parameters are spelled. -/
theorem getSdp_respelled {rawData rawData' : Text} (h : Respelled rawData rawData') :
    getSdp rawData' = getSdp rawData := by
  rw [getSdp_eq_cutAt, getSdp_eq_cutAt, mapM_sameParameters h]

/-- A viewer with a section that passes the other checks is given a session
    exactly when the section supports the streamer's parameters, under the
    number of the first fmtp line that does, with the streamer's codec and
    parameters. How the parameters are spelled, in the viewer's offer or the
    streamer's, makes no difference. -/
theorem viewer_video_negotiation (videoMedia : List SDPLine) (streamerSession : VideoSession)
    (draws : Draws) (role : Setup) (hmux : SDPLine.attr .rtcpMux ∈ videoMedia)
    (hrecvonly : SDPLine.attr .receiveOnly ∈ videoMedia)
    (hsetup : First setupLine videoMedia role) (hrole : role ≠ .passive) :
    ((∃ session, getViewerVideoSession videoMedia streamerSession draws = .ok session) ↔
        ∃ number, Supports videoMedia streamerSession.capabilities number) ∧
      (∀ session, getViewerVideoSession videoMedia streamerSession draws = .ok session →
        session.codec = streamerSession.codec ∧
        session.capabilities = streamerSession.capabilities ∧
        ∃ before after,
          videoMedia = before ++ fmtpLine streamerSession.capabilities session.payloadNumber
            :: after ∧
          Supports videoMedia streamerSession.capabilities session.payloadNumber ∧
          ∀ number, fmtpLine streamerSession.capabilities number ∈ before →
            ¬ Supports videoMedia streamerSession.capabilities number) ∧
      ∀ (resolver : SDPResolver) (streamer streamer' viewer viewer' : Text)
        (streamerDraws viewerDraws : Draws), Respelled streamer streamer' →
        Respelled viewer viewer' →
        resolver.acceptStreamOffer streamer' streamerDraws
            = resolver.acceptStreamOffer streamer streamerDraws ∧
          ∀ session, resolver.acceptViewerOffer viewer' session viewerDraws
            = resolver.acceptViewerOffer viewer session viewerDraws := by
  have hsession := fun session => getViewerVideoSession_of_checks hmux hrecvonly hsetup hrole
    streamerSession session draws
  have havailable : ∀ number, number ∈ availablePayloadNumbers (.video streamerSession.codec)
      videoMedia ↔ rtpMapLine (.video .h264) number ∈ videoMedia :=
    fun number => mem_availablePayloadNumbers
  refine ⟨?_, ?_, ?_⟩
  · rw [← exists_matchingFmtp_supports]
    constructor
    · intro h
      rcases h with ⟨session, h⟩
      rcases (hsession session).mp h with ⟨number, hnumber, _⟩
      exact ⟨number, hnumber⟩
    · intro h
      rcases h with ⟨number, hnumber⟩
      exact ⟨_, (hsession _).mpr ⟨number, hnumber, rfl⟩⟩
  · intro session h
    rcases (hsession session).mp h with ⟨number, hnumber, rfl⟩
    -- The line that was found is the first that matches.
    rcases matchingFmtp_eq_some.mp hnumber with ⟨before, after, hmedia, hmem, hbefore⟩
    refine ⟨rfl, rfl, before, after, hmedia, ⟨(havailable number).mp hmem, ?_⟩, ?_⟩
    · rw [hmedia]
      exact List.mem_append_right before List.mem_cons_self
    · intro other hother hsupports
      exact hbefore other ((havailable other).mpr hsupports.1) hother
  · intro resolver streamer streamer' viewer viewer' streamerDraws viewerDraws hstreamer hviewer
    -- The parameters are read as a set, so the offers are read the same, and
    -- all that follows is.
    refine ⟨?_, fun session => ?_⟩
    · rw [SDPResolver.acceptStreamOffer, getSdp_respelled hstreamer]
      rfl
    · rw [SDPResolver.acceptViewerOffer, getSdp_respelled hviewer]
      rfl

/-- A viewer's video section that offers H264 under two numbers. -/
def twoProfiles : List SDPLine :=
  [.attr .rtcpMux, setupLine .activePassive, .attr .receiveOnly,
    fmtpLine ["packetization-mode=0".toList].toFinset 102,
    fmtpLine ["packetization-mode=1".toList].toFinset 96,
    rtpMapLine (.video .h264) 102, rtpMapLine (.video .h264) 96]

/-- A streamer's session with the parameters of the second of them. -/
def streamerVideo : VideoSession :=
  { codec := .h264, payloadNumber := 125, hostSsrc := 1, remoteSsrc := none,
    capabilities := ["packetization-mode=1".toList].toFinset }

theorem viewer_video_negotiation_two_profiles :
    ∃ session, getViewerVideoSession twoProfiles streamerVideo fixedDraws = .ok session ∧
      session.capabilities = streamerVideo.capabilities := by
  have hspec := viewer_video_negotiation twoProfiles streamerVideo fixedDraws .activePassive
    List.mem_cons_self
    (List.mem_cons_of_mem _ (List.mem_cons_of_mem _ List.mem_cons_self))
    ⟨[.attr .rtcpMux], _, rfl, fun role hmem => by cases List.mem_singleton.mp hmem⟩
    (by decide)
  have hsupports : Supports twoProfiles streamerVideo.capabilities 96 :=
    ⟨by decide +kernel, by decide +kernel⟩
  rcases hspec.1.mpr ⟨96, hsupports⟩ with ⟨session, hsession⟩
  exact ⟨session, hsession, (hspec.2.1 session hsession).2.1⟩

end Sdp

end SigmaMedia
