import SigmaMedia.Theory.Negotiation
import SigmaMedia.Theory.Sdp.Sections

/-!
# Lines Nobody Asks About

A line of an unknown type and an attribute with an unknown key are read and
forgotten. Neither is an answer to any question asked of a section, neither
stops a pass that looks for a media description, and neither can make reading
fail. So an offer with such lines in it is treated like the offer without
them, down to the error it is refused with.

The comparison goes through `visible`, which takes the forgotten lines out.
Every question is answered alike with and without them, so a negotiation sees
only the visible part of an offer (`parseStreamOffer_visible`,
`parseViewerOffer_visible`), and cutting lines into sections commutes with
taking them out (`cutAt_visible`).

## Main definitions

* `nonEmptyLines`: The lines of a text that are read.
* `Ignorable`: A line that is read and forgotten.
* `Inserted`: Some lines, with ignorable ones put in.
* `visible`: Lines without the forgotten ones.
* `mediaOf`, `cutAt`: Where lines that have been read are cut, and into what.

## Theorems

* `tryFrom_of_ignorable`: What an ignorable line is read as.
* `mapM_inserted`: Reading with the ignorable lines put in.
* `getSdp_eq_cutAt`: Cutting a text, step by step.
* `accept_inserted`: They do not change what becomes of an offer.
-/

namespace SigmaMedia

namespace Sdp

open Exec Net Text

/-- The lines of a text that are read: the empty ones are passed over. -/
def nonEmptyLines (rawData : Text) : List Text := (lines rawData).filter (· ≠ [])

/-- The attribute keys with a meaning. -/
def knownKeys : List Text :=
  ["ice-ufrag".toList, "ice-pwd".toList, "fingerprint".toList, "candidate".toList, "ssrc".toList,
    "sendonly".toList, "recvonly".toList, "mid".toList, "group".toList, "rtpmap".toList,
    "fmtp".toList, "rtcp-mux".toList, "ice-options".toList, "end-of-candidates".toList,
    "setup".toList]

/-- The line types with a meaning. -/
def knownTypes : List Text :=
  ["v".toList, "c".toList, "o".toList, "s".toList, "t".toList, "m".toList, "a".toList]

/-- An attribute whose key, up to the first colon, is not known, or a line
    whose type, up to the first equals sign, is not. -/
def Ignorable (line : Text) : Prop :=
  (∃ value, line = "a=".toList ++ value ∧ value.takeWhile (· ≠ ':') ∉ knownKeys) ∨
    ∃ sdpType value, line = sdpType ++ '=' :: value ∧ '=' ∉ sdpType ∧ sdpType ∉ knownTypes

/-- The second lines are the first, with ignorable ones put in anywhere. -/
inductive Inserted : List Text → List Text → Prop where
  | nil : Inserted [] []
  | keep (line : Text) {ls ls' : List Text} (h : Inserted ls ls') :
      Inserted (line :: ls) (line :: ls')
  | put {line : Text} {ls ls' : List Text} (hline : Ignorable line) (h : Inserted ls ls') :
      Inserted ls (line :: ls')

/-- A line that was read and forgotten. -/
def isForgotten : SDPLine → Bool
  | .unrecognized => true
  | .attr .unrecognized => true
  | _ => false

/-- Lines without the forgotten ones. -/
def visible (lines : List SDPLine) : List SDPLine := lines.filter fun line => !isForgotten line

/-- An offer without the forgotten lines. -/
def SDP.visible (sdp : SDP) : SDP :=
  { sessionSection := Sdp.visible sdp.sessionSection,
    videoSection := Sdp.visible sdp.videoSection,
    audioSection := Sdp.visible sdp.audioSection }

/-- The two media descriptions of lines that are in order. -/
def mediaOf (sdpLines : List SDPLine) :
    Except SDPParseError (MediaDescription × MediaDescription) := do
  if sdpLines[0]? ≠ some (.protocolVersion "0".toList) then .error .sequenceError
  else
    match sdpLines[1]?, sdpLines[2]?, sdpLines[3]? with
    | some (.originator _), some (.sessionName _), some (.sessionTime _) =>
        match mediaDescriptions sdpLines with
        | [firstMedia, secondMedia] =>
            if firstMedia.mediaType ≠ .audio then .error .sequenceError
            else if secondMedia.mediaType ≠ .video then .error .sequenceError
            else return (firstMedia, secondMedia)
        | _ => .error .unsupportedMediaCount
    | _, _, _ => .error .sequenceError

/-- The sections between two media descriptions. -/
def cutAt (sdpLines : List SDPLine) (media : MediaDescription × MediaDescription) : SDP :=
  { sessionSection := sdpLines.takeWhile (isNotMedia media.1),
    audioSection := (sdpLines.dropWhile (isNotMedia media.1)).takeWhile (isNotMedia media.2),
    videoSection := sdpLines.dropWhile (isNotMedia media.2) }

/-- Cutting a text is reading its lines, finding the descriptions and cutting
    there. -/
theorem getSdp_eq_cutAt (rawData : Text) :
    getSdp rawData = (do
      let sdpLines ← (nonEmptyLines rawData).mapM SDPLine.tryFrom
      let media ← mediaOf sdpLines
      return cutAt sdpLines media) := by
  unfold getSdp
  congr 1
  funext sdpLines
  unfold mediaOf mediaDescriptions
  -- Both sides ask the same of the same lines.
  generalize sdpLines[0]? = version, sdpLines[1]? = originator, sdpLines[2]? = name,
    sdpLines[3]? = time, sdpLines.filterMap _ = media
  by_cases hversion : version ≠ some (.protocolVersion "0".toList)
  · rw [if_pos hversion, if_pos hversion]
    rfl
  rw [if_neg hversion, if_neg hversion]
  rcases originator with _ | originator
  · rfl
  rcases name with _ | name
  · cases originator <;> rfl
  rcases time with _ | time
  · cases originator <;> cases name <;> rfl
  cases originator <;> try rfl
  cases name <;> try rfl
  cases time <;> try rfl
  -- The opening is in order, and there have to be two descriptions.
  rcases media with _ | ⟨first, _ | ⟨second, _ | ⟨third, media⟩⟩⟩
  · rfl
  · rfl
  · dsimp only
    by_cases haudio : first.mediaType ≠ .audio
    · rw [if_pos haudio, if_pos haudio]
      rfl
    by_cases hvideo : second.mediaType ≠ .video
    · rw [if_neg haudio, if_neg haudio, if_pos hvideo, if_pos hvideo]
      rfl
    · rw [if_neg haudio, if_neg haudio, if_neg hvideo, if_neg hvideo]
      rfl
  · rfl

/-- An attribute line is handed to the reader of attributes. -/
theorem tryFrom_attribute (value : Text) :
    SDPLine.tryFrom ("a=".toList ++ value)
      = (do return .attr (← Attribute.tryFrom ("a=".toList ++ value))) := by
  have htype : splitOnce "=".toList ("a=".toList ++ value) = some ("a".toList, value) :=
    splitOnce_singleton (s := "a".toList) (by decide) value
  rw [SDPLine.tryFrom, htype]
  rfl

/-- An ignorable line is read, and forgotten. -/
theorem tryFrom_of_ignorable {line : Text} (h : Ignorable line) :
    ∃ parsed, SDPLine.tryFrom line = .ok parsed ∧ isForgotten parsed = true := by
  rcases h with ⟨value, rfl, hkey⟩ | ⟨sdpType, value, rfl, hno, htype⟩
  · refine ⟨.attr .unrecognized, ?_, rfl⟩
    -- Every branch of the reader asks for one of the known keys.
    simp only [knownKeys, List.mem_cons, List.not_mem_nil, or_false, not_or] at hkey
    have hattr : Attribute.tryFrom ("a=".toList ++ value) = .ok .unrecognized := by
      rw [Attribute.tryFrom, splitOnce_append (by decide)]
      simp only [okOr, ok_bind, head?_splitOn, hkey, if_false]
      rfl
    rw [tryFrom_attribute, hattr]
    rfl
  · refine ⟨.unrecognized, ?_, rfl⟩
    simp only [knownTypes, List.mem_cons, List.not_mem_nil, or_false, not_or] at htype
    have hsplit : splitOnce "=".toList (sdpType ++ '=' :: value) = some (sdpType, value) :=
      splitOnce_singleton hno value
    rw [SDPLine.tryFrom, hsplit]
    simp only [okOr, ok_bind, htype, if_false]
    rfl

/-- Reading with the ignorable lines put in fails alike, or gives the same
    lines up to the forgotten ones. -/
theorem mapM_inserted {ls ls' : List Text} (h : Inserted ls ls') :
    (∃ e, ls.mapM SDPLine.tryFrom = .error e ∧ ls'.mapM SDPLine.tryFrom = .error e) ∨
      ∃ parsed parsed', ls.mapM SDPLine.tryFrom = .ok parsed ∧
        ls'.mapM SDPLine.tryFrom = .ok parsed' ∧ visible parsed' = visible parsed := by
  -- Over the insertion: a line that is kept is read the same on both sides.
  induction h with
  | nil => exact Or.inr ⟨[], [], rfl, rfl, rfl⟩
  | keep line h ih =>
      rw [List.mapM_cons, List.mapM_cons]
      rcases hline : SDPLine.tryFrom line with e | first
      · exact Or.inl ⟨e, rfl, rfl⟩
      rcases ih with ⟨e, hls, hls'⟩ | ⟨parsed, parsed', hls, hls', hvisible⟩
      · rw [hls, hls']
        exact Or.inl ⟨e, rfl, rfl⟩
      · rw [hls, hls']
        refine Or.inr ⟨first :: parsed, first :: parsed', rfl, rfl, ?_⟩
        simp only [visible, List.filter_cons] at hvisible ⊢
        rw [hvisible]
  | put hline h ih =>
      -- A line that is put in is read without an error, and not seen again.
      rcases tryFrom_of_ignorable hline with ⟨first, hfirst, hforgotten⟩
      rw [List.mapM_cons, hfirst]
      rcases ih with ⟨e, hls, hls'⟩ | ⟨parsed, parsed', hls, hls', hvisible⟩
      · rw [hls']
        exact Or.inl ⟨e, hls, rfl⟩
      · rw [hls']
        refine Or.inr ⟨parsed, first :: parsed', hls, rfl, ?_⟩
        rw [visible, List.filter_cons_of_neg (by rw [hforgotten]; exact Bool.false_ne_true)]
        exact hvisible

/-- A pass that runs over everything a filter takes out commutes with it. -/
theorem filter_takeWhile {α : Type} {p q : α → Bool} (h : ∀ a, q a = false → p a = true)
    (l : List α) : (l.takeWhile p).filter q = (l.filter q).takeWhile p := by
  -- What is filtered out never ends the front, so both can be done in either
  -- order.
  induction l with
  | nil => rfl
  | cons a l ih =>
      by_cases hq : q a = true
      · by_cases hp : p a = true
        · rw [List.takeWhile_cons_of_pos hp, List.filter_cons_of_pos hq,
            List.filter_cons_of_pos hq, List.takeWhile_cons_of_pos hp, ih]
        · rw [List.takeWhile_cons_of_neg hp, List.filter_cons_of_pos hq,
            List.takeWhile_cons_of_neg hp, List.filter_nil]
      · have hp := h a (Bool.not_eq_true _ ▸ hq)
        rw [List.takeWhile_cons_of_pos hp, List.filter_cons_of_neg hq,
          List.filter_cons_of_neg hq, ih]

theorem filter_dropWhile {α : Type} {p q : α → Bool} (h : ∀ a, q a = false → p a = true)
    (l : List α) : (l.dropWhile p).filter q = (l.filter q).dropWhile p := by
  induction l with
  | nil => rfl
  | cons a l ih =>
      by_cases hp : p a = true
      · by_cases hq : q a = true
        · rw [List.dropWhile_cons_of_pos hp, List.filter_cons_of_pos hq,
            List.dropWhile_cons_of_pos hp, ih]
        · rw [List.dropWhile_cons_of_pos hp, List.filter_cons_of_neg hq, ih]
      · -- The pass stops here, so the filter keeps this one.
        have hq : q a = true := by
          by_contra hq
          exact hp (h a (Bool.not_eq_true _ ▸ hq))
        rw [List.dropWhile_cons_of_neg hp, List.filter_cons_of_pos hq,
          List.dropWhile_cons_of_neg hp]

/-- A forgotten line is no media description. -/
theorem isNotMedia_of_forgotten (media : MediaDescription) (line : SDPLine)
    (h : (!isForgotten line) = false) : isNotMedia media line = true := by
  cases line with
  | mediaDescription other => cases h
  | _ => rfl

theorem cutAt_visible (sdpLines : List SDPLine) (media : MediaDescription × MediaDescription) :
    (cutAt sdpLines media).visible = cutAt (visible sdpLines) media := by
  have htake := fun m l => filter_takeWhile (isNotMedia_of_forgotten m) l
  have hdrop := fun m l => filter_dropWhile (isNotMedia_of_forgotten m) l
  simp only [SDP.visible, cutAt, visible, htake, hdrop]

/-- Passing over what has no answer does not change the first answer. -/
theorem findAttribute_visible {α : Type} {ask : Attribute → Option α}
    (h : ask .unrecognized = none) (lines : List SDPLine) :
    findAttribute ask (visible lines) = findAttribute ask lines := by
  unfold findAttribute visible
  induction lines with
  | nil => rfl
  | cons line lines ih =>
      by_cases hline : isForgotten line = true
      · rw [List.filter_cons_of_neg (by rw [hline]; exact Bool.false_ne_true),
          List.findSome?_cons, ih]
        -- Of the two forgotten lines, one is an attribute.
        cases line with
        | attr attr =>
            cases attr with
            | unrecognized => simp only [h]
            | _ => cases hline
        | unrecognized => rfl
        | _ => cases hline
      · have hkeep : isForgotten line = false := Bool.eq_false_of_not_eq_true hline
        rw [List.filter_cons_of_pos (by rw [hkeep]; rfl), List.findSome?_cons,
          List.findSome?_cons, ih]

section Questions

variable (lines : List SDPLine)

@[simp] theorem getIceUsername_visible : getIceUsername (visible lines) = getIceUsername lines :=
  findAttribute_visible rfl lines

@[simp] theorem getIcePassword_visible : getIcePassword (visible lines) = getIcePassword lines :=
  findAttribute_visible rfl lines

@[simp] theorem isRtcpDemuxed_visible : isRtcpDemuxed (visible lines) = isRtcpDemuxed lines :=
  congrArg Option.isSome (findAttribute_visible rfl lines)

@[simp] theorem isSendonlyDirection_visible :
    isSendonlyDirection (visible lines) = isSendonlyDirection lines :=
  congrArg Option.isSome (findAttribute_visible rfl lines)

@[simp] theorem isRecvonlyDirection_visible :
    isRecvonlyDirection (visible lines) = isRecvonlyDirection lines :=
  congrArg Option.isSome (findAttribute_visible rfl lines)

@[simp] theorem remoteSsrc_visible : remoteSsrc (visible lines) = remoteSsrc lines :=
  findAttribute_visible rfl lines

@[simp] theorem isPassiveDtlsRole_visible :
    isPassiveDtlsRole (visible lines) = isPassiveDtlsRole lines :=
  findAttribute_visible rfl lines

@[simp] theorem codecPayloadNumber_visible (codec : MediaCodec) :
    codecPayloadNumber codec (visible lines) = codecPayloadNumber codec lines :=
  findAttribute_visible rfl lines

@[simp] theorem getMediaId_visible : getMediaId (visible lines) = getMediaId lines :=
  findAttribute_visible rfl lines

/-- The same for a search that collects. -/
theorem filterMap_visible {α : Type} {ask : SDPLine → Option α}
    (h : ∀ line, isForgotten line = true → ask line = none) :
    (visible lines).filterMap ask = lines.filterMap ask := by
  rw [visible, List.filterMap_filter]
  refine List.filterMap_congr fun line _ => ?_
  by_cases hline : isForgotten line = true
  · rw [h line hline, hline]
    rfl
  · rw [Bool.eq_false_of_not_eq_true hline]
    rfl

@[simp] theorem availablePayloadNumbers_visible (codec : MediaCodec) :
    availablePayloadNumbers codec (visible lines) = availablePayloadNumbers codec lines := by
  refine filterMap_visible lines fun line hline => ?_
  cases line with
  | attr attr =>
      cases attr with
      | unrecognized => rfl
      | _ => cases hline
  | unrecognized => rfl
  | _ => cases hline

@[simp] theorem matchingFmtp_visible (available : List Nat) (capabilities : Finset Text) :
    matchingFmtp available capabilities (visible lines)
      = matchingFmtp available capabilities lines := by
  unfold matchingFmtp
  rw [filterMap_visible lines fun line hline => ?_]
  cases line with
  | attr attr =>
      cases attr with
      | unrecognized => rfl
      | _ => cases hline
  | unrecognized => rfl
  | _ => cases hline

end Questions

section Negotiations

variable (sdp : SDP) (draws : Draws)

theorem getIceCredentials_visible :
    getIceCredentials sdp.visible draws = getIceCredentials sdp draws := by
  simp only [getIceCredentials, SDP.visible, getIceUsername_visible, getIcePassword_visible]

theorem getMediaIds_visible : getMediaIds sdp.visible = getMediaIds sdp := by
  unfold getMediaIds
  rw [show sdp.visible.sessionSection = visible sdp.sessionSection from rfl,
    findAttribute_visible rfl]
  simp only [SDP.visible, getMediaId_visible]

theorem getStreamerVideoSession_visible (videoMedia : List SDPLine) :
    getStreamerVideoSession (visible videoMedia) draws
      = getStreamerVideoSession videoMedia draws := by
  simp only [getStreamerVideoSession, isRtcpDemuxed_visible, isSendonlyDirection_visible,
    codecPayloadNumber_visible, remoteSsrc_visible]
  -- The search for the parameters depends on the number that was found.
  rcases codecPayloadNumber (.video acceptedVideoCodec) videoMedia with _ | number
  · rfl
  · simp only [okOr, ok_bind]
    rw [findAttribute_visible rfl]

/-- A streamer's negotiation sees the visible part of an offer. -/
theorem parseStreamOffer_visible (resolver : SDPResolver) :
    resolver.parseStreamOffer sdp.visible draws = resolver.parseStreamOffer sdp draws := by
  have haudio : getStreamerAudioSession sdp.visible.audioSection draws
      = getStreamerAudioSession sdp.audioSection draws := by
    simp only [getStreamerAudioSession, SDP.visible, isRtcpDemuxed_visible,
      isSendonlyDirection_visible, codecPayloadNumber_visible, remoteSsrc_visible]
  have hvideo : getStreamerVideoSession sdp.visible.videoSection draws
      = getStreamerVideoSession sdp.videoSection draws := getStreamerVideoSession_visible draws _
  have hrole : isPassiveDtlsRole sdp.visible.sessionSection
      = isPassiveDtlsRole sdp.sessionSection := isPassiveDtlsRole_visible _
  simp only [SDPResolver.parseStreamOffer, getMediaIds_visible, getIceCredentials_visible, haudio,
    hvideo, hrole]

/-- So does a viewer's. -/
theorem parseViewerOffer_visible (resolver : SDPResolver) (streamerSession : NegotiatedSession) :
    resolver.parseViewerOffer sdp.visible streamerSession draws
      = resolver.parseViewerOffer sdp streamerSession draws := by
  -- Each question a section is asked has the same answer from its visible
  -- lines.
  have haudio : getViewerAudioSession sdp.visible.audioSection streamerSession.audioSession draws
      = getViewerAudioSession sdp.audioSection streamerSession.audioSession draws := by
    simp only [getViewerAudioSession, SDP.visible, isRtcpDemuxed_visible,
      isPassiveDtlsRole_visible, isRecvonlyDirection_visible, codecPayloadNumber_visible,
      remoteSsrc_visible]
  have hvideo : getViewerVideoSession sdp.visible.videoSection streamerSession.videoSession draws
      = getViewerVideoSession sdp.videoSection streamerSession.videoSession draws := by
    simp only [getViewerVideoSession, SDP.visible, isRtcpDemuxed_visible,
      isPassiveDtlsRole_visible, isRecvonlyDirection_visible, availablePayloadNumbers_visible,
      matchingFmtp_visible, remoteSsrc_visible]
  simp only [SDPResolver.parseViewerOffer, getMediaIds_visible, getIceCredentials_visible, haudio,
    hvideo]

end Negotiations

/-- Finding the media descriptions takes the first four lines and the
    descriptions. -/
theorem mediaOf_congr {opening rest rest' : List SDPLine} (hlen : opening.length = 4)
    (h : mediaDescriptions rest' = mediaDescriptions rest) :
    mediaOf (opening ++ rest') = mediaOf (opening ++ rest) := by
  have hfour : ∀ (i : Nat) (tail : List SDPLine), i < 4 → (opening ++ tail)[i]? = opening[i]? :=
    fun i tail hi => List.getElem?_append_left (by omega)
  simp only [mediaOf, hfour 0 _ (by omega), hfour 1 _ (by omega), hfour 2 _ (by omega),
    hfour 3 _ (by omega), mediaDescriptions_append, h]

theorem mediaDescriptions_visible (lines : List SDPLine) :
    mediaDescriptions (visible lines) = mediaDescriptions lines := by
  refine filterMap_visible lines fun line hline => ?_
  cases line with
  | mediaDescription media => cases hline
  | _ => rfl

/-- Ignorable lines behind the first four do not change what becomes of a
    text, as long as the visible part of the offer decides that. -/
theorem getSdp_bind_inserted {α : Type} {negotiate : SDP → Except SDPParseError α}
    (hvisible : ∀ sdp, negotiate sdp.visible = negotiate sdp) {rawData rawData' : Text}
    {opening rest rest' : List Text} (hraw : nonEmptyLines rawData = opening ++ rest)
    (hraw' : nonEmptyLines rawData' = opening ++ rest') (hlen : opening.length = 4)
    (hinserted : Inserted rest rest') :
    getSdp rawData' >>= negotiate = getSdp rawData >>= negotiate := by
  rw [getSdp_eq_cutAt, getSdp_eq_cutAt, hraw, hraw', List.mapM_append, List.mapM_append]
  rcases hopening : opening.mapM SDPLine.tryFrom with e | first
  · rfl
  have hfour : first.length = 4 := by
    rw [← hlen]
    exact (mapM_eq_ok_iff.mp hopening).length_eq.symm
  rcases mapM_inserted hinserted with ⟨e, hrest, hrest'⟩ | ⟨parsed, parsed', hrest, hrest', hsame⟩
  · rw [hrest, hrest']
  · have hmedia : mediaOf (first ++ parsed') = mediaOf (first ++ parsed) := by
      refine mediaOf_congr hfour ?_
      rw [← mediaDescriptions_visible, hsame, mediaDescriptions_visible]
    have hall : visible (first ++ parsed') = visible (first ++ parsed) := by
      simp only [visible, List.filter_append] at hsame ⊢
      rw [hsame]
    rw [hrest, hrest']
    simp only [ok_bind, pure_bind, hmedia]
    rcases mediaOf (first ++ parsed) with e | media
    · rfl
    · -- The cuts differ in forgotten lines only.
      simp only [ok_bind, pure_bind]
      rw [← hvisible, ← hvisible (cutAt (first ++ parsed) media), cutAt_visible, cutAt_visible,
        hall]

/-- Lines nobody asks about can stand anywhere behind the first four: the
    offer is refused with the same error, or accepted with the same outcome,
    for a streamer and for a viewer. -/
theorem accept_inserted (resolver : SDPResolver) (draws : Draws) (rawData rawData' : Text)
    (version originator name time : Text) (rest rest' : List Text)
    (hraw : nonEmptyLines rawData = ("v=".toList ++ version) :: ("o=".toList ++ originator)
      :: ("s=".toList ++ name) :: ("t=".toList ++ time) :: rest)
    (hraw' : nonEmptyLines rawData' = ("v=".toList ++ version) :: ("o=".toList ++ originator)
      :: ("s=".toList ++ name) :: ("t=".toList ++ time) :: rest')
    (hinserted : Inserted rest rest') :
    resolver.acceptStreamOffer rawData' draws = resolver.acceptStreamOffer rawData draws ∧
      ∀ streamerSession, resolver.acceptViewerOffer rawData' streamerSession draws
        = resolver.acceptViewerOffer rawData streamerSession draws := by
  have hopening : nonEmptyLines rawData = ["v=".toList ++ version, "o=".toList ++ originator,
      "s=".toList ++ name, "t=".toList ++ time] ++ rest := hraw
  refine ⟨?_, fun streamerSession => ?_⟩
  · exact getSdp_bind_inserted (fun sdp => parseStreamOffer_visible sdp draws resolver) hopening
      hraw' rfl hinserted
  · exact getSdp_bind_inserted
      (fun sdp => parseViewerOffer_visible sdp draws resolver streamerSession) hopening hraw' rfl
      hinserted

/-- Lines that are kept on both sides. -/
theorem Inserted.append_left (before : List Text) {ls ls' : List Text} (h : Inserted ls ls') :
    Inserted (before ++ ls) (before ++ ls') := by
  induction before with
  | nil => exact h
  | cons line before ih => exact .keep line ih

theorem Inserted.refl (ls : List Text) : Inserted ls ls := by
  have h := Inserted.append_left ls .nil
  rwa [List.append_nil] at h

/-- A streamer's offer up to its audio description. -/
def offerHead : List Text :=
  ["a=group:BUNDLE 0 1".toList, "a=setup:actpass".toList, "a=ice-ufrag:user".toList,
    "a=ice-pwd:secret".toList, "m=audio 9 UDP/TLS/RTP/SAVPF 0".toList]

/-- The rest of it. -/
def offerTail : List Text :=
  ["a=mid:0".toList, "a=rtcp-mux".toList, "a=sendonly".toList,
    "a=rtpmap:111 opus/48000/2".toList, "m=video 9 UDP/TLS/RTP/SAVPF 0".toList,
    "a=mid:1".toList, "a=rtcp-mux".toList, "a=sendonly".toList,
    "a=rtpmap:96 H264/90000".toList, "a=fmtp:96 packetization-mode=1".toList]

/-- The offer, with lines right behind its audio description. -/
def offerWith (extra : List Text) : Text :=
  (["v=0".toList, "o=- 1 0 IN IP4 127.0.0.1".toList, "s=-".toList, "t=0 0".toList] ++ offerHead
    ++ extra ++ offerTail).flatMap (· ++ crlf)

/-- An extension map and a bandwidth, neither of which is known. -/
theorem accept_inserted_extmap :
    (∃ session, loopbackResolver.acceptStreamOffer (offerWith []) fixedDraws = .ok session) ∧
      loopbackResolver.acceptStreamOffer
          (offerWith ["a=extmap:1 urn:ietf:params:rtp-hdrext:sdes:mid".toList, "b=AS:64".toList])
          fixedDraws
        = loopbackResolver.acceptStreamOffer (offerWith []) fixedDraws := by
  have haccepted : passes (loopbackResolver.acceptStreamOffer (offerWith []) fixedDraws)
      (fun _ => true) = true := by decide +kernel
  rcases of_passes haccepted with ⟨session, hsession, _⟩
  -- An attribute of an unknown name, and a line of an unknown kind.
  have hextmap : Ignorable "a=extmap:1 urn:ietf:params:rtp-hdrext:sdes:mid".toList :=
    Or.inl ⟨"extmap:1 urn:ietf:params:rtp-hdrext:sdes:mid".toList, by decide +kernel,
      by decide +kernel⟩
  have hbandwidth : Ignorable "b=AS:64".toList :=
    Or.inr ⟨"b".toList, "AS:64".toList, by decide +kernel, by decide +kernel, by decide +kernel⟩
  refine ⟨⟨session, hsession⟩, ?_⟩
  exact (accept_inserted loopbackResolver fixedDraws (offerWith [])
    (offerWith ["a=extmap:1 urn:ietf:params:rtp-hdrext:sdes:mid".toList, "b=AS:64".toList])
    "0".toList "- 1 0 IN IP4 127.0.0.1".toList "-".toList "0 0".toList (offerHead ++ offerTail)
    (offerHead ++ ("a=extmap:1 urn:ietf:params:rtp-hdrext:sdes:mid".toList :: "b=AS:64".toList
      :: offerTail)) (by decide +kernel) (by decide +kernel)
    (.append_left offerHead (.put hextmap (.put hbandwidth (.refl offerTail))))).1

end Sdp

end SigmaMedia
