import Mathlib.Data.List.Perm.Basic
import SigmaMedia.Theory.Sdp.Credentials
import SigmaMedia.Theory.Sdp.Viewer

/-!
# Attributes in Another Order

The order of the attributes of a media section carries no meaning, and where a
section has at most one line of each kind that is taken for its value, no
search depends on it either. What is left are the searches that only ask
whether there is an answer, and the payload numbers.

The two negotiations look for a payload number differently. A viewer's number
is looked for among all pairs of an rtpmap and an fmtp line, so reordering
leaves a pair to be found. A streamer's number is that of the first rtpmap line
for the codec, and the fmtp line is looked for afterwards. So a streamer's
offer with several numbers for the codec, one of them without parameters, is
accepted in one order and refused in another.

## Main definitions

* `AttributesPermuted`: A section with its attributes in another order.
* `InSections`: The lines of a text, cut at its two media descriptions.
* `Permuted`: An offer with the attributes of its media sections in another
  order.
* `AtMostOneEach`: A section does not repeat the lines taken for their value.
* `EveryMapHasFmtp`: Every H264 number of a section has parameters.

## Theorems

* `getSdp_permuted`: What a permuted offer is read as.
* `parseViewerOffer_permuted`: A viewer is accepted in any order.
* `parseStreamOffer_permuted`: So is a streamer with parameters throughout.
* `exists_refused_order`: And no other.
* `acceptance_permuted`: When acceptance does not depend on the order.
-/

namespace SigmaMedia

namespace Sdp

open Exec Net Text

/-- The text of an attribute line. -/
def isAttributeText (line : Text) : Bool := "a=".toList.isPrefixOf line

/-- The text of a media description. -/
def isMediaText (line : Text) : Bool := "m=".toList.isPrefixOf line

/-- A media description. -/
def SDPLine.isMedia : SDPLine → Bool
  | .mediaDescription _ => true
  | _ => false

/-- An attribute line. -/
def SDPLine.isAttribute : SDPLine → Bool
  | .attr _ => true
  | _ => false

/-- The lines that stay where they are, and a place for each of the others. -/
def fixedLines (ls : List Text) : List (Option Text) :=
  ls.map fun line => if isAttributeText line then none else some line

/-- The same lines, with the attributes in another order among themselves. -/
def AttributesPermuted (ls ls' : List Text) : Prop :=
  fixedLines ls' = fixedLines ls ∧ (ls'.filter isAttributeText).Perm (ls.filter isAttributeText)

/-- A media description, and no other behind it. -/
def MediaSection (ls : List Text) : Prop :=
  ∃ media rest, ls = media :: rest ∧ isMediaText media = true ∧
    ∀ line ∈ rest, isMediaText line = false

/-- The lines of a text, cut at its two media descriptions. -/
def InSections (rawData : Text) (session audio video : List Text) : Prop :=
  nonEmptyLines rawData = session ++ audio ++ video ∧ (∀ line ∈ session, isMediaText line = false) ∧
    MediaSection audio ∧ MediaSection video

/-- The same offer, with the attributes of its media sections in another
    order. -/
def Permuted (rawData rawData' : Text) : Prop :=
  ∃ session audio video audio' video', InSections rawData session audio video ∧
    nonEmptyLines rawData' = session ++ audio' ++ video' ∧ AttributesPermuted audio audio' ∧
    AttributesPermuted video video'

/-- A section has at most one line of each kind that is taken for its
    value. -/
structure AtMostOneEach (lines : List SDPLine) : Prop where
  setup : (answers (fun | .setup setup => some setup | _ => none) lines).length ≤ 1
  mid : (answers (fun | .mediaID id => some id | _ => none) lines).length ≤ 1
  ufrag : (answers (fun | .iceUsername username => some username | _ => none) lines).length ≤ 1
  pwd : (answers (fun | .icePassword password => some password | _ => none) lines).length ≤ 1

/-- Every H264 number of a section has an fmtp line. -/
def EveryMapHasFmtp (videoMedia : List SDPLine) : Prop :=
  ∀ number, rtpMapLine (.video .h264) number ∈ videoMedia →
    ∃ capabilities, fmtpLine capabilities number ∈ videoMedia

section Text

/-- The type of a line, by its first two characters. -/
theorem isPrefixOf_type {c : Char} (hc : c ≠ '=') {sdpType : Text} (h : '=' ∉ sdpType)
    (value : Text) : [c, '='].isPrefixOf (sdpType ++ '=' :: value) = true ↔ sdpType = [c] := by
  rw [List.isPrefixOf_iff_prefix]
  rcases sdpType with _ | ⟨d, _ | ⟨e, rest⟩⟩
  · simp only [List.nil_append, List.cons_prefix_cons, hc, false_and, List.nil_eq, List.cons_ne_nil]
  · simp only [List.cons_append, List.nil_append, List.cons_prefix_cons, List.nil_prefix, and_true,
      List.cons.injEq]
    exact eq_comm
  · -- A second character of the type is not the equals sign.
    have he : '=' ≠ e := fun heq => h (List.mem_cons_of_mem d (heq ▸ List.mem_cons_self))
    simp only [List.cons_append, List.cons_prefix_cons, he, false_and, and_false, List.cons.injEq,
      reduceCtorEq]

/-- A line is read as a media description, or as an attribute, exactly by its
    type. -/
theorem tryFrom_kind {line : Text} {parsed : SDPLine} (h : SDPLine.tryFrom line = .ok parsed) :
    isMediaText line = parsed.isMedia ∧ isAttributeText line = parsed.isAttribute := by
  simp only [SDPLine.tryFrom, bind_eq_ok, okOr_eq_ok] at h
  rcases h with ⟨⟨sdpType, value⟩, hsplit, h⟩
  have hfirst : splitOnce ['='] line = some (sdpType, value) := hsplit
  rcases splitOnce_singleton_eq_some.mp hfirst with ⟨hline, hno⟩
  have hmedia : isMediaText line = decide (sdpType = "m".toList) := by
    rw [Bool.eq_iff_iff, decide_eq_true_eq, hline]
    exact isPrefixOf_type (by decide) hno value
  have hattribute : isAttributeText line = decide (sdpType = "a".toList) := by
    rw [Bool.eq_iff_iff, decide_eq_true_eq, hline]
    exact isPrefixOf_type (by decide) hno value
  rw [hmedia, hattribute]
  dsimp only at h
  -- One reader for each type; the type settles both sides.
  split at h
  · rename_i htype
    cases h
    rw [htype]
    exact ⟨rfl, rfl⟩
  split at h
  · rename_i htype
    rcases bind_eq_ok.mp h with ⟨data, _, h⟩
    cases h
    rw [htype]
    exact ⟨rfl, rfl⟩
  split at h
  · rename_i htype
    rcases bind_eq_ok.mp h with ⟨originator, _, h⟩
    cases h
    rw [htype]
    exact ⟨rfl, rfl⟩
  split at h
  · rename_i htype
    cases h
    rw [htype]
    exact ⟨rfl, rfl⟩
  split at h
  · rename_i htype
    rcases bind_eq_ok.mp h with ⟨time, _, h⟩
    cases h
    rw [htype]
    exact ⟨rfl, rfl⟩
  split at h
  · rename_i htype
    rcases bind_eq_ok.mp h with ⟨media, _, h⟩
    cases h
    rw [htype]
    exact ⟨rfl, rfl⟩
  rename_i hm
  split at h
  · rename_i htype
    rcases bind_eq_ok.mp h with ⟨attr, _, h⟩
    cases h
    rw [htype]
    exact ⟨rfl, rfl⟩
  rename_i ha
  cases h
  exact ⟨decide_eq_false hm, decide_eq_false ha⟩

/-- Lines, each read. -/
abbrev ReadAs (ls : List Text) (parsed : List SDPLine) : Prop :=
  List.Forall₂ (fun line parsed => SDPLine.tryFrom line = .ok parsed) ls parsed

/-- Lines without the text of a media description are read as none. -/
theorem mediaDescriptions_of_text {ls : List Text} {parsed : List SDPLine} (h : ReadAs ls parsed)
    (hno : ∀ line ∈ ls, isMediaText line = false) : mediaDescriptions parsed = [] := by
  refine List.filterMap_eq_nil_iff.mpr fun line hline => ?_
  rcases exists_of_mem_forall₂ h hline with ⟨text, htext, hread⟩
  have hkind := (tryFrom_kind hread).1
  rw [hno text htext] at hkind
  cases line with
  | mediaDescription media => cases hkind
  | _ => rfl

/-- A media section is read as a description with none behind it. -/
theorem MediaSection.reads {ls : List Text} {parsed : List SDPLine} (hls : MediaSection ls)
    (h : ReadAs ls parsed) :
    ∃ media rest, parsed = .mediaDescription media :: rest ∧ mediaDescriptions rest = [] := by
  rcases hls with ⟨first, rest, rfl, hfirst, hrest⟩
  rcases List.forall₂_cons_left_iff.mp h with ⟨line, parsedRest, hline, hparsed, rfl⟩
  have hkind := (tryFrom_kind hline).1
  rw [hfirst] at hkind
  cases line with
  | mediaDescription media =>
      exact ⟨media, parsedRest, rfl, mediaDescriptions_of_text hparsed hrest⟩
  | _ => cases hkind

/-- The sections of an accepted offer are read from the sections of its
    text. -/
theorem InSections.reads {rawData : Text} {sdp : SDP} {session audio video : List Text}
    (hcut : InSections rawData session audio video) (hsdp : getSdp rawData = .ok sdp) :
    Opens sdp.sessionSection ∧ ReadAs session sdp.sessionSection ∧
      ReadAs audio sdp.audioSection ∧ ReadAs video sdp.videoSection := by
  rcases hcut with ⟨hlines, hsession, haudio, hvideo⟩
  rcases inOrder_of_getSdp hsdp with ⟨parsed, hparses, hopens, audioMedia, videoMedia, hmedia,
    haudioType, hvideoType⟩
  have hall : ReadAs (session ++ audio ++ video) parsed := by
    rw [← hlines]
    exact hparses
  rcases forall₂_append_left hall with ⟨front, parsedVideo, rfl, hfront, hreadVideo⟩
  rcases forall₂_append_left hfront with ⟨parsedSession, parsedAudio, rfl, hreadSession, hreadAudio⟩
  rcases haudio.reads hreadAudio with ⟨firstAudio, restAudio, rfl, hrestAudio⟩
  rcases hvideo.reads hreadVideo with ⟨firstVideo, restVideo, rfl, hrestVideo⟩
  have hnone := mediaDescriptions_of_text hreadSession hsession
  -- The two descriptions are the two at the heads of the sections.
  simp only [mediaDescriptions_append, mediaDescriptions_media, hnone, hrestAudio, hrestVideo,
    List.nil_append, List.cons_append, List.cons.injEq, and_true] at hmedia
  rcases hmedia with ⟨rfl, rfl⟩
  rw [List.append_assoc, List.cons_append] at hopens
  have hopensSession := hopens.of_append
  rw [getSdp_of_parts hparses hopensSession hnone hrestAudio hrestVideo haudioType hvideoType]
    at hsdp
  cases hsdp
  exact ⟨hopensSession, hreadSession, hreadAudio, hreadVideo⟩

/-- Lines with the same fixed lines and a permutation of the attributes are a
    permutation. -/
theorem AttributesPermuted.perm {ls ls' : List Text} (h : AttributesPermuted ls ls') :
    ls'.Perm ls := by
  have hfixed : ∀ l : List Text,
      l.filter (fun line => !isAttributeText line) = (fixedLines l).filterMap id := by
    intro l
    rw [fixedLines, List.filterMap_map]
    induction l with
    | nil => rfl
    | cons line l ih =>
        by_cases hline : isAttributeText line = true
        · rw [List.filter_cons_of_neg (by rw [hline]; exact Bool.false_ne_true), ih,
            List.filterMap_cons_none (by rw [Function.comp_apply, if_pos hline]; rfl)]
        · rw [List.filter_cons_of_pos (by rw [Bool.eq_false_of_not_eq_true hline]; rfl), ih,
            List.filterMap_cons_some (by rw [Function.comp_apply, if_neg hline]; rfl)]
  -- Each side is its attributes and its fixed lines.
  have hsplit := fun l : List Text => (List.filter_append_perm isAttributeText l).symm
  refine (hsplit ls').trans (List.Perm.trans ?_ (hsplit ls).symm)
  rw [hfixed, hfixed, h.1]
  exact h.2.append_right _

/-- A media section with its attributes in another order is read as the same
    lines in another order, the description first. -/
theorem AttributesPermuted.reads {ls ls' : List Text} {media : MediaDescription}
    {parsed : List SDPLine} (h : AttributesPermuted ls ls')
    (hread : ReadAs ls (.mediaDescription media :: parsed)) :
    ∃ parsed', ReadAs ls' (.mediaDescription media :: parsed') ∧ parsed'.Perm parsed := by
  rcases List.forall₂_cons_right_iff.mp hread with ⟨first, rest, hfirst, hrest, rfl⟩
  have hno : isAttributeText first = false := (tryFrom_kind hfirst).2
  rcases ls' with _ | ⟨first', rest'⟩
  · cases h.1
  have hfixed := h.1
  simp only [fixedLines, List.map_cons, hno, Bool.false_eq_true, if_false, List.cons.injEq]
    at hfixed
  -- The description is not an attribute, so it has kept its place.
  have hsame : first' = first := by
    by_cases hattr : isAttributeText first' = true
    · rw [if_pos hattr] at hfixed
      cases hfixed.1
    · rw [if_neg hattr, Option.some.injEq] at hfixed
      exact hfixed.1
  have hperm := h.perm
  rw [hsame] at hperm ⊢
  rcases List.perm_comp_forall₂ hperm.cons_inv hrest with ⟨parsed', hread', hparsed⟩
  exact ⟨parsed', .cons hfirst hread', hparsed⟩

/-- A permuted offer is read as the same sections, up to the order of the
    lines behind their descriptions. -/
theorem getSdp_permuted {rawData rawData' : Text} {sdp : SDP}
    {session audio video audio' video' : List Text} (hsdp : getSdp rawData = .ok sdp)
    (hcut : InSections rawData session audio video)
    (hlines : nonEmptyLines rawData' = session ++ audio' ++ video')
    (haudio : AttributesPermuted audio audio') (hvideo : AttributesPermuted video video') :
    ∃ sdp', getSdp rawData' = .ok sdp' ∧ sdp'.sessionSection = sdp.sessionSection ∧
      sdp.audioSection.Perm sdp'.audioSection ∧ sdp.videoSection.Perm sdp'.videoSection ∧
      ReadAs video' sdp'.videoSection := by
  rcases hcut.reads hsdp with ⟨hopens, hreadSession, hreadAudio, hreadVideo⟩
  rcases getSdp_eq_ok hsdp with ⟨_, hnone, ⟨audioMedia, restAudio, haudioEq, haudioType, hnoAudio⟩,
    videoMedia, restVideo, hvideoEq, hvideoType, hnoVideo⟩
  rw [haudioEq] at hreadAudio ⊢
  rw [hvideoEq] at hreadVideo ⊢
  -- The media line stays in front, and what is read of the others is permuted
  -- with them.
  rcases haudio.reads hreadAudio with ⟨restAudio', hreadAudio', hpermAudio⟩
  rcases hvideo.reads hreadVideo with ⟨restVideo', hreadVideo', hpermVideo⟩
  have hnoneOf : ∀ {l l' : List SDPLine}, l'.Perm l → mediaDescriptions l = [] →
      mediaDescriptions l' = [] := by
    intro l l' hperm hno
    have hdescriptions : (mediaDescriptions l').Perm (mediaDescriptions l) := hperm.filterMap _
    rw [hno] at hdescriptions
    exact hdescriptions.eq_nil
  -- The three sections together are all lines of the permuted offer.
  have hparses : Parses rawData' (sdp.sessionSection ++ .mediaDescription audioMedia :: restAudio'
      ++ .mediaDescription videoMedia :: restVideo') := by
    have hall : ReadAs (session ++ audio' ++ video') _ :=
      List.rel_append (List.rel_append hreadSession hreadAudio') hreadVideo'
    rw [← hlines] at hall
    exact hall
  refine ⟨_, getSdp_of_parts hparses hopens hnone (hnoneOf hpermAudio hnoAudio)
    (hnoneOf hpermVideo hnoVideo) haudioType hvideoType, rfl, ?_, ?_, hreadVideo'⟩
  · exact (hpermAudio.symm).cons _
  · exact (hpermVideo.symm).cons _

end Text

/-- The same offer, up to the order of the lines of its media sections, of
    which none is repeated that is taken for its value. -/
structure SameLines (sdp sdp' : SDP) : Prop where
  session : sdp'.sessionSection = sdp.sessionSection
  audio : sdp.audioSection.Perm sdp'.audioSection
  video : sdp.videoSection.Perm sdp'.videoSection
  audioOnce : AtMostOneEach sdp.audioSection
  videoOnce : AtMostOneEach sdp.videoSection

section Order

variable {lines lines' : List SDPLine} (hperm : lines.Perm lines')

include hperm

theorem isRtcpDemuxed_perm : isRtcpDemuxed lines' = isRtcpDemuxed lines :=
  findAttribute_isSome_perm hperm

theorem isSendonlyDirection_perm : isSendonlyDirection lines' = isSendonlyDirection lines :=
  findAttribute_isSome_perm hperm

theorem isRecvonlyDirection_perm : isRecvonlyDirection lines' = isRecvonlyDirection lines :=
  findAttribute_isSome_perm hperm

theorem codecPayloadNumber_isSome_perm (codec : MediaCodec) :
    (codecPayloadNumber codec lines').isSome = (codecPayloadNumber codec lines).isSome :=
  findAttribute_isSome_perm hperm

theorem getIceUsername_perm (hone : AtMostOneEach lines) :
    getIceUsername lines' = getIceUsername lines :=
  findAttribute_perm hperm hone.ufrag

theorem getIcePassword_perm (hone : AtMostOneEach lines) :
    getIcePassword lines' = getIcePassword lines :=
  findAttribute_perm hperm hone.pwd

theorem getMediaId_perm (hone : AtMostOneEach lines) : getMediaId lines' = getMediaId lines :=
  findAttribute_perm hperm hone.mid

theorem isPassiveDtlsRole_perm (hone : AtMostOneEach lines) :
    isPassiveDtlsRole lines' = isPassiveDtlsRole lines := by
  have hrole : setupRole lines' = setupRole lines := findAttribute_perm hperm hone.setup
  rw [isPassiveDtlsRole_eq, isPassiveDtlsRole_eq, hrole]

end Order

section Accepted

variable {draws : Draws} {sdp sdp' : SDP}

theorem getMediaIds_perm (h : SameLines sdp sdp') : getMediaIds sdp' = getMediaIds sdp := by
  simp only [getMediaIds, h.session, getMediaId_perm h.audio h.audioOnce,
    getMediaId_perm h.video h.videoOnce]

theorem getIceCredentials_perm (h : SameLines sdp sdp') :
    getIceCredentials sdp' draws = getIceCredentials sdp draws := by
  simp only [getIceCredentials, h.session, getIceUsername_perm h.audio h.audioOnce,
    getIcePassword_perm h.audio h.audioOnce, getIceUsername_perm h.video h.videoOnce,
    getIcePassword_perm h.video h.videoOnce]

theorem getStreamerAudioSession_ok_iff {audioMedia : List SDPLine} :
    (∃ session, getStreamerAudioSession audioMedia draws = .ok session) ↔
      isRtcpDemuxed audioMedia = true ∧ isSendonlyDirection audioMedia = true ∧
        (codecPayloadNumber (.audio acceptedAudioCodec) audioMedia).isSome = true := by
  simp only [getStreamerAudioSession_eq_ok, Option.isSome_iff_exists]
  constructor
  · intro h
    rcases h with ⟨session, hmux, hsendonly, number, hnumber, _⟩
    exact ⟨hmux, hsendonly, number, hnumber⟩
  · intro h
    rcases h with ⟨hmux, hsendonly, number, hnumber⟩
    exact ⟨_, hmux, hsendonly, number, hnumber, rfl⟩

/-- Parameters are found for a number exactly when it has an fmtp line. -/
theorem exists_parametersFor {videoMedia : List SDPLine} {number : Nat} :
    (∃ capabilities, findAttribute (parametersFor number) videoMedia = some capabilities) ↔
      ∃ capabilities, fmtpLine capabilities number ∈ videoMedia := by
  rw [← Option.isSome_iff_exists, findAttribute_isSome]
  constructor
  · intro h
    -- Only a parameter line of this number answers.
    rcases h with ⟨attr, hattr, hask⟩
    cases attr with
    | fmtp fmtp =>
        rcases fmtp with ⟨payloadNumber, capabilities⟩
        by_cases hnumber : payloadNumber = number
        · rw [hnumber] at hattr
          exact ⟨capabilities, hattr⟩
        · rw [parametersFor, if_neg hnumber] at hask
          cases hask
    | _ => cases hask
  · intro h
    rcases h with ⟨capabilities, hfmtp⟩
    exact ⟨_, hfmtp, by rw [parametersFor, if_pos rfl]; rfl⟩

/-- The first number for the codec has to have parameters. -/
theorem getStreamerVideoSession_ok_iff {videoMedia : List SDPLine} :
    (∃ session, getStreamerVideoSession videoMedia draws = .ok session) ↔
      isRtcpDemuxed videoMedia = true ∧ isSendonlyDirection videoMedia = true ∧
        ∃ number, codecPayloadNumber (.video acceptedVideoCodec) videoMedia = some number ∧
          ∃ capabilities, fmtpLine capabilities number ∈ videoMedia := by
  simp only [getStreamerVideoSession_eq_ok]
  constructor
  · intro h
    rcases h with ⟨session, hmux, hsendonly, number, hnumber, capabilities, hcapabilities, _⟩
    exact ⟨hmux, hsendonly, number, hnumber, exists_parametersFor.mp ⟨capabilities, hcapabilities⟩⟩
  · intro h
    rcases h with ⟨hmux, hsendonly, number, hnumber, hcapabilities⟩
    rcases exists_parametersFor.mpr hcapabilities with ⟨capabilities, hfound⟩
    exact ⟨_, hmux, hsendonly, number, hnumber, capabilities, hfound, rfl⟩

theorem getViewerAudioSession_ok_iff {audioMedia : List SDPLine} {streamerSession : AudioSession} :
    (∃ session, getViewerAudioSession audioMedia streamerSession draws = .ok session) ↔
      isRtcpDemuxed audioMedia = true ∧ isPassiveDtlsRole audioMedia = some false ∧
        isRecvonlyDirection audioMedia = true ∧
        (codecPayloadNumber (.audio streamerSession.codec) audioMedia).isSome = true := by
  simp only [getViewerAudioSession_eq_ok, Option.isSome_iff_exists]
  constructor
  · intro h
    rcases h with ⟨session, hmux, hpassive, hrecvonly, number, hnumber, _⟩
    exact ⟨hmux, hpassive, hrecvonly, number, hnumber⟩
  · intro h
    rcases h with ⟨hmux, hpassive, hrecvonly, number, hnumber⟩
    exact ⟨_, hmux, hpassive, hrecvonly, number, hnumber, rfl⟩

theorem getViewerVideoSession_ok_iff {videoMedia : List SDPLine} {streamerSession : VideoSession} :
    (∃ session, getViewerVideoSession videoMedia streamerSession draws = .ok session) ↔
      isRtcpDemuxed videoMedia = true ∧ isPassiveDtlsRole videoMedia = some false ∧
        isRecvonlyDirection videoMedia = true ∧
        ∃ number, Supports videoMedia streamerSession.capabilities number := by
  rw [← exists_matchingFmtp_supports]
  simp only [getViewerVideoSession_eq_ok]
  constructor
  · intro h
    rcases h with ⟨session, hmux, hpassive, hrecvonly, number, hnumber, _⟩
    exact ⟨hmux, hpassive, hrecvonly, number, hnumber⟩
  · intro h
    rcases h with ⟨hmux, hpassive, hrecvonly, number, hnumber⟩
    exact ⟨_, hmux, hpassive, hrecvonly, number, hnumber, rfl⟩

theorem parseViewerOffer_ok_iff {resolver : SDPResolver} {streamerSession : NegotiatedSession} :
    (∃ session, resolver.parseViewerOffer sdp streamerSession draws = .ok session) ↔
      (∃ credentials, getIceCredentials sdp draws = some credentials) ∧
        (∃ ids, getMediaIds sdp = .ok ids) ∧
        (∃ audio, getViewerAudioSession sdp.audioSection streamerSession.audioSession draws
          = .ok audio) ∧
        ∃ video, getViewerVideoSession sdp.videoSection streamerSession.videoSession draws
          = .ok video := by
  simp only [parseViewerOffer_eq_ok]
  constructor
  · intro h
    rcases h with ⟨session, audioMid, videoMid, credentials, audio, video, hids, hcredentials,
      haudio, hvideo, _⟩
    exact ⟨⟨credentials, hcredentials⟩, ⟨_, hids⟩, ⟨audio, haudio⟩, video, hvideo⟩
  · intro h
    rcases h with ⟨⟨credentials, hcredentials⟩, ⟨⟨audioMid, videoMid⟩, hids⟩, ⟨audio, haudio⟩,
      video, hvideo⟩
    exact ⟨_, audioMid, videoMid, credentials, audio, video, hids, hcredentials, haudio, hvideo,
      rfl⟩

theorem parseStreamOffer_ok_iff {resolver : SDPResolver} :
    (∃ session, resolver.parseStreamOffer sdp draws = .ok session) ↔
      (∃ credentials, getIceCredentials sdp draws = some credentials) ∧
        (∃ ids, getMediaIds sdp = .ok ids) ∧
        (∃ audio, getStreamerAudioSession sdp.audioSection draws = .ok audio) ∧
        (∃ video, getStreamerVideoSession sdp.videoSection draws = .ok video) ∧
        isPassiveDtlsRole sdp.sessionSection = some false := by
  simp only [parseStreamOffer_eq_ok]
  constructor
  · intro h
    rcases h with ⟨session, audioMid, videoMid, credentials, audio, video, hids, hcredentials,
      haudio, hvideo, hpassive, _⟩
    exact ⟨⟨credentials, hcredentials⟩, ⟨_, hids⟩, ⟨audio, haudio⟩, ⟨video, hvideo⟩, hpassive⟩
  · intro h
    rcases h with ⟨⟨credentials, hcredentials⟩, ⟨⟨audioMid, videoMid⟩, hids⟩, ⟨audio, haudio⟩,
      ⟨video, hvideo⟩, hpassive⟩
    exact ⟨_, audioMid, videoMid, credentials, audio, video, hids, hcredentials, haudio, hvideo,
      hpassive, rfl⟩

/-- A viewer that is accepted is accepted in any order. -/
theorem parseViewerOffer_permuted {resolver : SDPResolver} {streamerSession : NegotiatedSession}
    (hsame : SameLines sdp sdp')
    (h : ∃ session, resolver.parseViewerOffer sdp streamerSession draws = .ok session) :
    ∃ session, resolver.parseViewerOffer sdp' streamerSession draws = .ok session := by
  rw [parseViewerOffer_ok_iff, getViewerAudioSession_ok_iff, getViewerVideoSession_ok_iff] at h ⊢
  rw [getIceCredentials_perm hsame, getMediaIds_perm hsame, isRtcpDemuxed_perm hsame.audio,
    isRtcpDemuxed_perm hsame.video, isPassiveDtlsRole_perm hsame.audio hsame.audioOnce,
    isPassiveDtlsRole_perm hsame.video hsame.videoOnce, isRecvonlyDirection_perm hsame.audio,
    isRecvonlyDirection_perm hsame.video, codecPayloadNumber_isSome_perm hsame.audio]
  -- The lines that support a number are still there.
  simp only [Supports, ← hsame.video.mem_iff]
  exact h

/-- The number of a codec is that of its first rtpmap line. -/
theorem codecPayloadNumber_eq_some {codec : MediaCodec} {lines : List SDPLine} {number : Nat} :
    codecPayloadNumber codec lines = some number ↔ First (rtpMapLine codec) lines number := by
  refine findSome?_eq_some_iff_first fun line value => ?_
  -- Only a map answers, and only of this codec.
  cases line with
  | attr attr =>
      cases attr with
      | rtpMap map =>
          rcases map with ⟨mapCodec, payloadNumber⟩
          by_cases hcodec : mapCodec = codec
          · simp only [hcodec, if_true, Option.some.injEq, rtpMapLine, SDPLine.attr.injEq,
              Attribute.rtpMap.injEq, RTPMap.mk.injEq, true_and]
          · simp only [hcodec, if_false, reduceCtorEq, rtpMapLine, SDPLine.attr.injEq,
              Attribute.rtpMap.injEq, RTPMap.mk.injEq, false_and]
      | _ => simp only [rtpMapLine, reduceCtorEq, SDPLine.attr.injEq]
  | _ => simp only [rtpMapLine, reduceCtorEq]

/-- A streamer that is accepted, and has parameters for every number it gives
    the codec, is accepted in any order. -/
theorem parseStreamOffer_permuted {resolver : SDPResolver} (hsame : SameLines sdp sdp')
    (hevery : EveryMapHasFmtp sdp.videoSection)
    (h : ∃ session, resolver.parseStreamOffer sdp draws = .ok session) :
    ∃ session, resolver.parseStreamOffer sdp' draws = .ok session := by
  rw [parseStreamOffer_ok_iff, getStreamerAudioSession_ok_iff, getStreamerVideoSession_ok_iff]
    at h ⊢
  rw [getIceCredentials_perm hsame, getMediaIds_perm hsame, isRtcpDemuxed_perm hsame.audio,
    isRtcpDemuxed_perm hsame.video, isSendonlyDirection_perm hsame.audio,
    isSendonlyDirection_perm hsame.video, codecPayloadNumber_isSome_perm hsame.audio,
    hsame.session]
  rcases h with ⟨hcredentials, hids, haudio, ⟨hmux, hsendonly, number, hnumber, _⟩, hpassive⟩
  refine ⟨hcredentials, hids, haudio, ⟨hmux, hsendonly, ?_⟩, hpassive⟩
  -- Whichever number comes first now, it has parameters.
  have hfound : (codecPayloadNumber (.video acceptedVideoCodec) sdp'.videoSection).isSome := by
    rw [codecPayloadNumber_isSome_perm hsame.video, hnumber]
    rfl
  rcases Option.isSome_iff_exists.mp hfound with ⟨first, hfirst⟩
  rcases codecPayloadNumber_eq_some.mp hfirst with ⟨before, after, hvideo, _⟩
  have hmem : rtpMapLine (.video .h264) first ∈ sdp.videoSection := by
    rw [hsame.video.mem_iff, hvideo]
    exact List.mem_append_right before List.mem_cons_self
  rcases hevery first hmem with ⟨capabilities, hcapabilities⟩
  exact ⟨first, hfirst, capabilities, hsame.video.mem_iff.mp hcapabilities⟩

end Accepted

section Refused

/-- The text of an accepted offer has two media sections. -/
theorem exists_inSections {rawData : Text} {sdp : SDP} (hsdp : getSdp rawData = .ok sdp) :
    ∃ session audio video, InSections rawData session audio video := by
  rcases getSdp_eq_ok hsdp with ⟨hparses, hnone, ⟨audioMedia, restAudio, haudio, _, hnoAudio⟩,
    videoMedia, restVideo, hvideo, _, hnoVideo⟩
  -- The lines of the text are cut where what is read of them is cut.
  rcases forall₂_append_right hparses with ⟨front, video, hlines, hfront, hreadVideo⟩
  rcases forall₂_append_right hfront with ⟨session, audio, rfl, hreadSession, hreadAudio⟩
  have hplain : ∀ {ls : List Text} {parsed : List SDPLine}, ReadAs ls parsed →
      mediaDescriptions parsed = [] → ∀ line ∈ ls, isMediaText line = false := by
    intro ls parsed hread hno line hline
    rcases exists_of_mem_forall₂ hread.flip hline with ⟨parsedLine, hmem, hparsed⟩
    have hkind := (tryFrom_kind hparsed).1
    have hask := List.filterMap_eq_nil_iff.mp hno parsedLine hmem
    cases parsedLine with
    | mediaDescription media => cases hask
    | _ => exact hkind
  have hsection : ∀ {ls : List Text} {media : MediaDescription} {rest : List SDPLine},
      ReadAs ls (.mediaDescription media :: rest) → mediaDescriptions rest = [] →
      MediaSection ls := by
    intro ls media rest hread hno
    rcases List.forall₂_cons_right_iff.mp hread with ⟨first, more, hfirst, hmore, rfl⟩
    exact ⟨first, more, rfl, (tryFrom_kind hfirst).1, hplain hmore hno⟩
  rw [haudio] at hreadAudio
  rw [hvideo] at hreadVideo
  exact ⟨session, audio, video, hlines, hplain hreadSession hnone, hsection hreadAudio hnoAudio,
    hsection hreadVideo hnoVideo⟩

/-- Two attributes of a section can trade places. -/
theorem attributesPermuted_swap {line line' : Text} (hline : isAttributeText line = true)
    (hline' : isAttributeText line' = true) (before between after : List Text) :
    AttributesPermuted (before ++ line :: (between ++ line' :: after))
      (before ++ line' :: (between ++ line :: after)) := by
  refine ⟨?_, List.Perm.filter _ (List.Perm.append_left before ?_)⟩
  · simp only [fixedLines, List.map_append, List.map_cons, hline, hline', if_true]
  · have hfront : (line' :: (between ++ line :: after)).Perm
        (line' :: line :: (between ++ after)) := List.perm_middle.cons line'
    have hswap : (line' :: line :: (between ++ after)).Perm (line :: line' :: (between ++ after)) :=
      List.Perm.swap line line' _
    have hback : (line :: line' :: (between ++ after)).Perm
        (line :: (between ++ line' :: after)) := List.perm_middle.symm.cons line
    exact hfront.trans (hswap.trans hback)

/-- A text is made of lines that were read before. -/
theorem nonEmptyLines_flatMap (rawData : Text) {ls : List Text}
    (h : ∀ line ∈ ls, line ∈ nonEmptyLines rawData) :
    nonEmptyLines (ls.flatMap (· ++ crlf)) = ls := by
  have hline : ∀ line ∈ ls, line ∈ lines rawData ∧ line ≠ [] := by
    intro line hmem
    rcases List.mem_filter.mp (h line hmem) with ⟨hlines, hne⟩
    exact ⟨hlines, of_decide_eq_true hne⟩
  rw [nonEmptyLines, lines_flatMap fun line hmem => notMem_of_mem_lines (hline line hmem).1]
  exact List.filter_eq_self.mpr fun line hmem => decide_eq_true (hline line hmem).2

/-- A streamer's offer with a number for the codec and no parameters for it is
    refused in some order: with that number in the place of the first. -/
theorem exists_refused_order (resolver : SDPResolver) {rawData : Text} (draws : Draws) {sdp : SDP}
    (hsdp : getSdp rawData = .ok sdp) {first : Nat} {capabilities : Finset Text}
    (hfirst : codecPayloadNumber (.video acceptedVideoCodec) sdp.videoSection = some first)
    (hcapabilities : fmtpLine capabilities first ∈ sdp.videoSection) {bad : Nat}
    (hbad : rtpMapLine (.video .h264) bad ∈ sdp.videoSection)
    (hnone : ∀ other, fmtpLine other bad ∉ sdp.videoSection) :
    ∃ rawData', Permuted rawData rawData' ∧
      ¬ ∃ session, resolver.acceptStreamOffer rawData' draws = .ok session := by
  rcases exists_inSections hsdp with ⟨session, audio, video, hcut⟩
  rcases hcut.reads hsdp with ⟨_, _, _, hreadVideo⟩
  rcases codecPayloadNumber_eq_some.mp hfirst with ⟨before, after, hvideo, hbefore⟩
  -- The number without parameters comes after the first.
  have hafter : rtpMapLine (.video .h264) bad ∈ after := by
    rw [hvideo, List.mem_append, List.mem_cons] at hbad
    rcases hbad with hbad | hbad | hbad
    · exact absurd hbad (hbefore bad)
    · have hsame : bad = first := by
        rw [rtpMapLine, rtpMapLine, SDPLine.attr.injEq, Attribute.rtpMap.injEq, RTPMap.mk.injEq]
          at hbad
        exact hbad.2
      rw [← hsame] at hcapabilities
      exact absurd hcapabilities (hnone capabilities)
    · exact hbad
  rcases List.append_of_mem hafter with ⟨between, rest, rfl⟩
  -- The texts of the two lines trade places.
  rw [hvideo] at hreadVideo
  rcases forall₂_append_right hreadVideo with ⟨textBefore, _, rfl, hreadBefore, hreadFirst⟩
  rcases List.forall₂_cons_right_iff.mp hreadFirst with ⟨line, _, hline, hreadMiddle, rfl⟩
  rcases forall₂_append_right hreadMiddle with ⟨textBetween, _, rfl, hreadBetween, hreadBad⟩
  rcases List.forall₂_cons_right_iff.mp hreadBad with ⟨line', textAfter, hline', hreadAfter, rfl⟩
  have hswap := attributesPermuted_swap (tryFrom_kind hline).2 (tryFrom_kind hline').2 textBefore
    textBetween textAfter
  have hlines : nonEmptyLines ((session ++ audio
      ++ (textBefore ++ line' :: (textBetween ++ line :: textAfter))).flatMap (· ++ crlf))
      = session ++ audio ++ (textBefore ++ line' :: (textBetween ++ line :: textAfter)) := by
    refine nonEmptyLines_flatMap rawData fun text htext => ?_
    rw [hcut.1]
    rw [List.mem_append] at htext ⊢
    exact htext.imp id hswap.perm.mem_iff.mp
  have hsame : AttributesPermuted audio audio := ⟨rfl, List.Perm.refl _⟩
  refine ⟨_, ⟨session, audio, _, audio, _, hcut, hlines, hsame, hswap⟩, ?_⟩
  intro haccepted
  rcases getSdp_permuted hsdp hcut hlines hsame hswap with ⟨sdp', hsdp', _, _, hperm, hreadVideo'⟩
  have hvideo' : sdp'.videoSection = before ++ rtpMapLine (.video .h264) bad
      :: (between ++ rtpMapLine (.video .h264) first :: rest) := by
    have hread : ReadAs _ (before ++ rtpMapLine (.video .h264) bad
        :: (between ++ rtpMapLine (.video .h264) first :: rest)) := List.rel_append hreadBefore
      (.cons hline' (List.rel_append hreadBetween (.cons hline hreadAfter)))
    have hunique := mapM_eq_ok_iff.mpr hreadVideo'
    rw [mapM_eq_ok_iff.mpr hread, Except.ok.injEq] at hunique
    exact hunique.symm
  -- Now it is the first, and the fmtp line that is looked for is not there.
  have hnumber : codecPayloadNumber (.video acceptedVideoCodec) sdp'.videoSection = some bad :=
    codecPayloadNumber_eq_some.mpr ⟨before, _, hvideo', hbefore⟩
  simp only [SDPResolver.acceptStreamOffer, hsdp', ok_bind] at haccepted
  rw [parseStreamOffer_ok_iff, getStreamerVideoSession_ok_iff] at haccepted
  rcases haccepted with ⟨_, _, _, ⟨_, _, number, hfound, other, hfmtp⟩, _⟩
  rw [hnumber, Option.some.injEq] at hfound
  rw [← hfound, ← hperm.mem_iff] at hfmtp
  exact hnone other hfmtp

end Refused

/-- The same lines, from a permuted text. -/
theorem sameLines_of_permuted {rawData rawData' : Text} {sdp : SDP}
    (hsdp : getSdp rawData = .ok sdp) (haudio : AtMostOneEach sdp.audioSection)
    (hvideo : AtMostOneEach sdp.videoSection) (h : Permuted rawData rawData') :
    ∃ sdp', getSdp rawData' = .ok sdp' ∧ SameLines sdp sdp' := by
  rcases h with ⟨session, audio, video, audio', video', hcut, hlines, hpermAudio, hpermVideo⟩
  rcases getSdp_permuted hsdp hcut hlines hpermAudio hpermVideo with ⟨sdp', hsdp', hsession,
    haudio', hvideo', _⟩
  exact ⟨sdp', hsdp', hsession, haudio', hvideo', haudio, hvideo⟩

/-- A viewer's offer that is accepted is accepted in any order of the
    attributes of its media sections. A streamer's is exactly when every number
    it gives the codec has parameters. -/
theorem acceptance_permuted (resolver : SDPResolver) (rawData : Text) (draws : Draws) (sdp : SDP)
    (hsdp : getSdp rawData = .ok sdp)
    (hone : ∀ lines ∈ [sdp.sessionSection, sdp.audioSection, sdp.videoSection],
      AtMostOneEach lines) :
    (∀ session, resolver.acceptStreamOffer rawData draws = .ok session →
      ((∀ rawData', Permuted rawData rawData' →
          ∃ session', resolver.acceptStreamOffer rawData' draws = .ok session') ↔
        EveryMapHasFmtp sdp.videoSection)) ∧
      ∀ streamerSession session,
        resolver.acceptViewerOffer rawData streamerSession draws = .ok session →
        ∀ rawData', Permuted rawData rawData' →
          ∃ session', resolver.acceptViewerOffer rawData' streamerSession draws = .ok session' := by
  have haudio : AtMostOneEach sdp.audioSection :=
    hone _ (List.mem_cons_of_mem _ List.mem_cons_self)
  have hvideo : AtMostOneEach sdp.videoSection :=
    hone _ (List.mem_cons_of_mem _ (List.mem_cons_of_mem _ List.mem_cons_self))
  refine ⟨fun session haccept => ⟨?_, ?_⟩, ?_⟩
  · intro hall number hnumber
    -- A mapped number without parameters, put first, has the offer refused.
    by_contra hmissing
    have hok : ∃ session, resolver.parseStreamOffer sdp draws = .ok session := by
      simp only [SDPResolver.acceptStreamOffer, hsdp, ok_bind] at haccept
      exact ⟨session, haccept⟩
    rw [parseStreamOffer_ok_iff, getStreamerVideoSession_ok_iff] at hok
    rcases hok with ⟨_, _, _, ⟨_, _, first, hfirst, capabilities, hcapabilities⟩, _⟩
    rcases exists_refused_order resolver draws hsdp hfirst hcapabilities hnumber
      (fun other hother => hmissing ⟨other, hother⟩) with ⟨rawData', hpermuted, hrefused⟩
    exact hrefused (hall rawData' hpermuted)
  · intro hevery rawData' hpermuted
    rcases sameLines_of_permuted hsdp haudio hvideo hpermuted with ⟨sdp', hsdp', hsame⟩
    simp only [SDPResolver.acceptStreamOffer, hsdp, hsdp', ok_bind] at haccept ⊢
    exact parseStreamOffer_permuted hsame hevery ⟨session, haccept⟩
  · intro streamerSession session haccept rawData' hpermuted
    rcases sameLines_of_permuted hsdp haudio hvideo hpermuted with ⟨sdp', hsdp', hsame⟩
    simp only [SDPResolver.acceptViewerOffer, hsdp, hsdp', ok_bind] at haccept ⊢
    exact parseViewerOffer_permuted hsame ⟨session, haccept⟩

instance (lines : List SDPLine) : Decidable (AtMostOneEach lines) :=
  decidable_of_iff (_ ∧ _ ∧ _ ∧ _)
    ⟨fun h => ⟨h.1, h.2.1, h.2.2.1, h.2.2.2⟩, fun h => ⟨h.setup, h.mid, h.ufrag, h.pwd⟩⟩

/-- A streamer's session section. -/
def plainSession : List Text :=
  ["v=0".toList, "o=- 1 0 IN IP4 127.0.0.1".toList, "s=-".toList, "t=0 0".toList,
    "a=group:BUNDLE 0 1".toList, "a=setup:actpass".toList, "a=ice-ufrag:user".toList,
    "a=ice-pwd:secret".toList]

/-- Its audio section. -/
def plainAudio : List Text :=
  ["m=audio 9 UDP/TLS/RTP/SAVPF 0".toList, "a=mid:0".toList, "a=rtcp-mux".toList,
    "a=sendonly".toList, "a=rtpmap:111 opus/48000/2".toList]

/-- Its video section up to the payload numbers. -/
def plainVideo : List Text :=
  ["m=video 9 UDP/TLS/RTP/SAVPF 0".toList, "a=mid:1".toList, "a=rtcp-mux".toList,
    "a=sendonly".toList]

/-- A streamer's offer, by what its video section says about payload
    numbers. -/
def numberedOffer (numbers : List Text) : Text :=
  (plainSession ++ plainAudio ++ (plainVideo ++ numbers)).flatMap (· ++ crlf)

/-- One number for the codec, with parameters. -/
def oneNumber : List Text :=
  ["a=rtpmap:96 H264/90000".toList, "a=fmtp:96 packetization-mode=1".toList]

/-- Two numbers for the codec, with parameters for the first only. -/
def firstWithFmtp : List Text :=
  ["a=rtpmap:96 H264/90000".toList, "a=rtpmap:97 H264/90000".toList,
    "a=fmtp:96 packetization-mode=1".toList]

/-- The same lines, with the numbers in the other order. -/
def secondWithFmtp : List Text :=
  ["a=rtpmap:97 H264/90000".toList, "a=rtpmap:96 H264/90000".toList,
    "a=fmtp:96 packetization-mode=1".toList]

/-- With one number and its parameters, every order is accepted. -/
theorem acceptance_permuted_one_number :
    (∃ session, loopbackResolver.acceptStreamOffer (numberedOffer oneNumber) fixedDraws
        = .ok session) ∧
      ∀ rawData', Permuted (numberedOffer oneNumber) rawData' →
        ∃ session', loopbackResolver.acceptStreamOffer rawData' fixedDraws = .ok session' := by
  have hstream : passes (getSdp (numberedOffer oneNumber)) (fun sdp =>
        decide (∀ lines ∈ [sdp.sessionSection, sdp.audioSection, sdp.videoSection],
          AtMostOneEach lines) &&
        decide (availablePayloadNumbers (.video .h264) sdp.videoSection = [96]) &&
        decide (fmtpLine ["packetization-mode=1".toList].toFinset 96 ∈ sdp.videoSection) &&
        passes (loopbackResolver.parseStreamOffer sdp fixedDraws) fun _ => true)
      = true := by decide +kernel
  rcases of_passes_bind hstream with ⟨sdp, session, hok, haccept, htest, _⟩
  simp only [Bool.and_eq_true, decide_eq_true_eq] at htest
  rcases htest with ⟨⟨hone, hnumbers⟩, hfmtp⟩
  -- Its only map is that of 96, which has its parameters.
  have hevery : EveryMapHasFmtp sdp.videoSection := by
    intro number hnumber
    rw [← mem_availablePayloadNumbers, hnumbers, List.mem_singleton] at hnumber
    rw [hnumber]
    exact ⟨_, hfmtp⟩
  exact ⟨⟨session, haccept⟩,
    ((acceptance_permuted loopbackResolver _ fixedDraws sdp hok hone).1 session haccept).mpr hevery⟩

/-- With a second number and no parameters for it, the offer is accepted, and
    refused once the two rtpmap lines have traded places. -/
theorem acceptance_depends_on_order :
    (∃ sdp session, getSdp (numberedOffer firstWithFmtp) = .ok sdp ∧
        (∀ lines ∈ [sdp.sessionSection, sdp.audioSection, sdp.videoSection],
          AtMostOneEach lines) ∧
        loopbackResolver.acceptStreamOffer (numberedOffer firstWithFmtp) fixedDraws
          = .ok session) ∧
      Permuted (numberedOffer firstWithFmtp) (numberedOffer secondWithFmtp) ∧
      loopbackResolver.acceptStreamOffer (numberedOffer secondWithFmtp) fixedDraws
        = .error .missingVideoCapabilities := by
  have hstream : passes (getSdp (numberedOffer firstWithFmtp)) (fun sdp =>
        decide (∀ lines ∈ [sdp.sessionSection, sdp.audioSection, sdp.videoSection],
          AtMostOneEach lines) &&
        passes (loopbackResolver.parseStreamOffer sdp fixedDraws) fun _ => true)
      = true := by decide +kernel
  rcases of_passes_bind hstream with ⟨sdp, session, hok, haccept, hone, _⟩
  refine ⟨⟨sdp, session, hok, of_decide_eq_true hone, haccept⟩, ?_, by decide +kernel⟩
  -- The two maps change places, and the first one now has no parameters.
  have hswap := attributesPermuted_swap
    (by decide +kernel : isAttributeText "a=rtpmap:96 H264/90000".toList = true)
    (by decide +kernel : isAttributeText "a=rtpmap:97 H264/90000".toList = true) plainVideo []
    ["a=fmtp:96 packetization-mode=1".toList]
  exact ⟨plainSession, plainAudio, plainVideo ++ firstWithFmtp, plainAudio,
    plainVideo ++ secondWithFmtp,
    ⟨by decide +kernel, by decide +kernel, ⟨_, _, rfl, by decide +kernel, by decide +kernel⟩,
      ⟨_, _, rfl, by decide +kernel, by decide +kernel⟩⟩, by decide +kernel,
    ⟨rfl, List.Perm.refl _⟩, hswap⟩

end Sdp

end SigmaMedia
