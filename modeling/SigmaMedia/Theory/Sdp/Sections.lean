import SigmaMedia.Core.Sdp.Resolver

/-!
# Cutting an Offer into Sections

Which texts are accepted, and what the three sections of an accepted one are.
The cuts are made by comparing media descriptions, in passes that know nothing
of each other, so that no line is lost, doubled or misfiled needs an argument:
an audio and a video description differ in their type, so each pass stops at
the one line it was meant to stop at.

`getSdp_of_parts` is that argument. Lines that are known to be a head without
media and two parts behind their own descriptions are cut at exactly these
places; everything else takes a text apart until the lemma applies.

## Main definitions

* `mediaDescriptions`: The media descriptions among some lines.
* `Parses`: The non-empty lines of a text, each read.
* `Opens`: The four lines a description starts with.
* `InOrder`: Those, and one audio and one video description after them.

## Theorems

* `mediaDescriptions_eq_cons`: The place of the first description.
* `getSdp_of_parts`: Lines in three parts are cut into them.
* `getSdp_eq_ok`: What an accepted text looks like.
* `getSdp_splits`: Which texts are accepted, and how they are cut.
-/

namespace SigmaMedia

namespace Sdp

open Exec Net Text

/-- The media descriptions among some lines. -/
def mediaDescriptions (parsed : List SDPLine) : List MediaDescription :=
  parsed.filterMap fun
    | .mediaDescription media => some media
    | _ => none

/-- The non-empty lines of a text, each read. -/
def Parses (rawData : Text) (parsed : List SDPLine) : Prop :=
  List.Forall₂ (fun line parsed => SDPLine.tryFrom line = .ok parsed)
    ((lines rawData).filter (· ≠ [])) parsed

/-- Version, originator, name and time, in this order. -/
def Opens (parsed : List SDPLine) : Prop :=
  ∃ originator name time rest, parsed = .protocolVersion "0".toList :: .originator originator ::
    .sessionName name :: .sessionTime time :: rest

/-- The grammar of a description. -/
def InOrder (parsed : List SDPLine) : Prop :=
  Opens parsed ∧ ∃ audio video, mediaDescriptions parsed = [audio, video] ∧
    audio.mediaType = .audio ∧ video.mediaType = .video

@[simp] theorem mediaDescriptions_append (as bs : List SDPLine) :
    mediaDescriptions (as ++ bs) = mediaDescriptions as ++ mediaDescriptions bs :=
  List.filterMap_append

@[simp] theorem mediaDescriptions_media (media : MediaDescription) (rest : List SDPLine) :
    mediaDescriptions (.mediaDescription media :: rest) = media :: mediaDescriptions rest := rfl

/-- No line is read from an empty text. -/
theorem ne_nil_of_tryFrom {t : Text} {line : SDPLine} (h : SDPLine.tryFrom t = .ok line) :
    t ≠ [] := by
  rintro rfl
  cases h

/-- Texts that are read are kept by the filter for empty lines. -/
theorem filter_of_forall₂ {ts : List Text} {ls : List SDPLine}
    (h : List.Forall₂ (fun t line => SDPLine.tryFrom t = .ok line) ts ls) :
    ts.filter (· ≠ []) = ts := by
  refine List.filter_eq_self.mpr ?_
  intro t ht
  rcases exists_of_mem_forall₂ h.flip ht with ⟨line, _, hread⟩
  exact decide_eq_true (ne_nil_of_tryFrom hread)

/-- Lines with their terminators are read back. -/
theorem parses_flatMap {ts : List Text} {ls : List SDPLine} (hfree : ∀ t ∈ ts, '\n' ∉ t)
    (hread : List.Forall₂ (fun t line => SDPLine.tryFrom t = .ok line) ts ls) :
    Parses (ts.flatMap (· ++ crlf)) ls := by
  unfold Parses
  rw [lines_flatMap hfree, filter_of_forall₂ hread]
  exact hread

/-- Up to the first description there is none, and the others are behind
    it. -/
theorem mediaDescriptions_eq_cons {parsed : List SDPLine} {media : MediaDescription}
    {others : List MediaDescription} (h : mediaDescriptions parsed = media :: others) :
    ∃ before after, parsed = before ++ .mediaDescription media :: after ∧
      mediaDescriptions before = [] ∧ mediaDescriptions after = others := by
  rcases List.filterMap_eq_cons_iff.mp h with ⟨before, line, after, hparsed, hbefore, hline, hafter⟩
  refine ⟨before, after, ?_, List.filterMap_eq_nil_iff.mpr hbefore, hafter⟩
  cases line with
  | mediaDescription other =>
      cases hline
      exact hparsed
  | _ => cases hline

/-- A pass over lines without media does not stop. -/
theorem isNotMedia_of_none {parsed : List SDPLine} (h : mediaDescriptions parsed = [])
    (media : MediaDescription) : ∀ line ∈ parsed, isNotMedia media line = true := by
  intro line hline
  have hnone := List.filterMap_eq_nil_iff.mp h line hline
  cases line with
  | mediaDescription other => cases hnone
  | _ => rfl

theorem isNotMedia_self (media : MediaDescription) :
    isNotMedia media (.mediaDescription media) = false := by
  simp only [isNotMedia, ne_eq, not_true_eq_false, decide_false]

theorem isNotMedia_of_ne {media other : MediaDescription} (h : other ≠ media) :
    isNotMedia media (.mediaDescription other) = true := by
  simp only [isNotMedia, ne_eq, h, not_false_eq_true, decide_true]

/-- A pass runs up to its own description, and what it leaves starts there. -/
theorem span_isNotMedia {before : List SDPLine} {media : MediaDescription} (after : List SDPLine)
    (h : ∀ line ∈ before, isNotMedia media line = true) :
    (before ++ .mediaDescription media :: after).takeWhile (isNotMedia media) = before ∧
      (before ++ .mediaDescription media :: after).dropWhile (isNotMedia media)
        = .mediaDescription media :: after := by
  have hstop : ¬ isNotMedia media (.mediaDescription media) = true := by
    rw [isNotMedia_self]
    exact Bool.false_ne_true
  rw [List.takeWhile_append_of_pos h, List.takeWhile_cons_of_neg hstop, List.append_nil,
    List.dropWhile_append_of_pos h, List.dropWhile_cons_of_neg hstop]
  exact ⟨rfl, rfl⟩

/-- Lines in three parts are cut into them. -/
theorem getSdp_of_parts {rawData : Text} {session audio video : List SDPLine}
    {audioMedia videoMedia : MediaDescription}
    (hparses : Parses rawData (session ++ .mediaDescription audioMedia :: audio
      ++ .mediaDescription videoMedia :: video))
    (hopens : Opens session) (hsession : mediaDescriptions session = [])
    (haudio : mediaDescriptions audio = []) (hvideo : mediaDescriptions video = [])
    (haudioType : audioMedia.mediaType = .audio) (hvideoType : videoMedia.mediaType = .video) :
    getSdp rawData = .ok { sessionSection := session,
                           audioSection := .mediaDescription audioMedia :: audio,
                           videoSection := .mediaDescription videoMedia :: video } := by
  have hne : audioMedia ≠ videoMedia := by
    intro heq
    rw [heq, hvideoType] at haudioType
    cases haudioType
  -- The pass for audio stops at the first description, the one for video
  -- runs over it to the second.
  have haudioPass := span_isNotMedia (audio ++ .mediaDescription videoMedia :: video)
    (isNotMedia_of_none hsession audioMedia)
  have hinner : ∀ line ∈ SDPLine.mediaDescription audioMedia :: audio,
      isNotMedia videoMedia line = true := by
    intro line hline
    rcases List.mem_cons.mp hline with rfl | hline
    · exact isNotMedia_of_ne hne
    · exact isNotMedia_of_none haudio videoMedia line hline
  have hinnerPass := span_isNotMedia video hinner
  have houter : ∀ line ∈ session ++ SDPLine.mediaDescription audioMedia :: audio,
      isNotMedia videoMedia line = true := by
    intro line hline
    rcases List.mem_append.mp hline with hline | hline
    · exact isNotMedia_of_none hsession videoMedia line hline
    · exact hinner line hline
  have hvideoPass := span_isNotMedia video houter
  have hdescriptions : mediaDescriptions (session ++ .mediaDescription audioMedia :: audio
      ++ .mediaDescription videoMedia :: video) = [audioMedia, videoMedia] := by
    simp only [mediaDescriptions_append, mediaDescriptions_media, hsession, haudio, hvideo,
      List.nil_append, List.cons_append]
  have hmapM := mapM_eq_ok_iff.mpr hparses
  rcases hopens with ⟨originator, name, time, rest, rfl⟩
  rw [getSdp, hmapM]
  simp only [List.cons_append, List.append_assoc]
    at haudioPass hinnerPass hvideoPass hdescriptions ⊢
  simp only [ok_bind, List.getElem?_cons_zero, List.getElem?_cons_succ, ne_eq, not_true_eq_false,
    if_false]
  split
  · rename_i first second hmedia
    have hpair : [audioMedia, videoMedia] = [first, second] := hdescriptions.symm.trans hmedia
    cases hpair
    simp only [haudioType, hvideoType, not_true_eq_false, if_false, haudioPass, hinnerPass,
      hvideoPass]
    rfl
  · rename_i hother
    exact absurd hdescriptions (hother audioMedia videoMedia)

/-- An accepted text is in order. -/
theorem inOrder_of_getSdp {rawData : Text} {sdp : SDP} (h : getSdp rawData = .ok sdp) :
    ∃ parsed, Parses rawData parsed ∧ InOrder parsed := by
  simp only [getSdp, bind_eq_ok] at h
  rcases h with ⟨parsed, hmapM, h⟩
  refine ⟨parsed, mapM_eq_ok_iff.mp hmapM, ?_⟩
  -- Every check of the code has passed; each says one part of the order.
  split at h
  · cases h
  rename_i hversion
  split at h
  · rename_i originator name time h1 h2 h3
    split at h
    · rename_i audio video hmedia
      split at h
      · cases h
      rename_i haudio
      split at h
      · cases h
      rename_i hvideo
      refine ⟨?_, audio, video, hmedia, not_not.mp haudio, not_not.mp hvideo⟩
      match parsed, not_not.mp hversion, h1, h2, h3 with
      | _ :: _ :: _ :: _ :: rest, hversion, h1, h2, h3 =>
          simp only [List.getElem?_cons_zero, List.getElem?_cons_succ, Option.some.injEq]
            at hversion h1 h2 h3
          exact ⟨originator, name, time, rest, by rw [hversion, h1, h2, h3]⟩
    · cases h
  · cases h

/-- The four opening lines are no media, so they stand before the first
    description. -/
theorem Opens.of_append {session rest : List SDPLine} {media : MediaDescription}
    (h : Opens (session ++ .mediaDescription media :: rest)) : Opens session := by
  rcases h with ⟨originator, name, time, tail, hopens⟩
  match session, hopens with
  | _ :: _ :: _ :: _ :: session', hopens =>
      simp only [List.cons_append, List.cons.injEq] at hopens
      rcases hopens with ⟨rfl, rfl, rfl, rfl, _⟩
      exact ⟨originator, name, time, session', rfl⟩

/-- Lines in order are in three parts. -/
theorem InOrder.parts {parsed : List SDPLine} (h : InOrder parsed) :
    ∃ session audio video audioMedia videoMedia,
      parsed = session ++ .mediaDescription audioMedia :: audio
        ++ .mediaDescription videoMedia :: video ∧ Opens session ∧
      mediaDescriptions session = [] ∧ mediaDescriptions audio = [] ∧
      mediaDescriptions video = [] ∧ audioMedia.mediaType = .audio ∧
      videoMedia.mediaType = .video := by
  rcases h with ⟨hopens, audioMedia, videoMedia, hmedia, haudioType, hvideoType⟩
  rcases mediaDescriptions_eq_cons hmedia with ⟨session, rest, hparsed, hsession, hrest⟩
  rcases mediaDescriptions_eq_cons hrest with ⟨audio, video, rfl, haudio, hvideo⟩
  refine ⟨session, audio, video, audioMedia, videoMedia, ?_, ?_, hsession, haudio, hvideo,
    haudioType, hvideoType⟩
  · rw [hparsed, List.append_assoc, List.cons_append]
  · rw [hparsed] at hopens
    exact hopens.of_append

/-- What an accepted text looks like: its lines, in three parts, are its
    sections. -/
theorem getSdp_eq_ok {rawData : Text} {sdp : SDP} (h : getSdp rawData = .ok sdp) :
    Parses rawData (sdp.sessionSection ++ sdp.audioSection ++ sdp.videoSection) ∧
      mediaDescriptions sdp.sessionSection = [] ∧
      (∃ media rest, sdp.audioSection = .mediaDescription media :: rest ∧
        media.mediaType = .audio ∧ mediaDescriptions rest = []) ∧
      ∃ media rest, sdp.videoSection = .mediaDescription media :: rest ∧
        media.mediaType = .video ∧ mediaDescriptions rest = [] := by
  rcases inOrder_of_getSdp h with ⟨parsed, hparses, horder⟩
  rcases horder.parts with ⟨session, audio, video, audioMedia, videoMedia, rfl, hopens, hsession,
    haudio, hvideo, haudioType, hvideoType⟩
  rw [getSdp_of_parts hparses hopens hsession haudio hvideo haudioType hvideoType] at h
  cases h
  exact ⟨hparses, hsession, ⟨audioMedia, audio, rfl, haudioType, haudio⟩,
    videoMedia, video, rfl, hvideoType, hvideo⟩

/-- Reading the lines of a text has one outcome. -/
theorem Parses.unique {rawData : Text} {parsed parsed' : List SDPLine}
    (h : Parses rawData parsed) (h' : Parses rawData parsed') : parsed = parsed' := by
  have hm := mapM_eq_ok_iff.mpr h
  rw [mapM_eq_ok_iff.mpr h'] at hm
  cases hm
  rfl

/-- A text is accepted exactly when it is in order, and its sections are its
    lines: nothing lost, nothing doubled, every description at the head of its
    own section and nowhere else. -/
theorem getSdp_splits (rawData : Text) :
    ((∃ sdp, getSdp rawData = .ok sdp) ↔ ∃ parsed, Parses rawData parsed ∧ InOrder parsed) ∧
      ∀ sdp, getSdp rawData = .ok sdp → ∀ parsed, Parses rawData parsed →
        sdp.sessionSection ++ sdp.audioSection ++ sdp.videoSection = parsed ∧
        mediaDescriptions sdp.sessionSection = [] ∧
        (∃ media rest, sdp.audioSection = .mediaDescription media :: rest ∧
          media.mediaType = .audio ∧ mediaDescriptions rest = []) ∧
        ∃ media rest, sdp.videoSection = .mediaDescription media :: rest ∧
          media.mediaType = .video ∧ mediaDescriptions rest = [] := by
  refine ⟨⟨?_, ?_⟩, ?_⟩
  · intro h
    rcases h with ⟨sdp, hsdp⟩
    exact inOrder_of_getSdp hsdp
  · intro h
    rcases h with ⟨parsed, hparses, horder⟩
    -- Lines in this order are cut at the two media descriptions.
    rcases horder.parts with ⟨session, audio, video, audioMedia, videoMedia, rfl, hopens, hsession,
      haudio, hvideo, haudioType, hvideoType⟩
    exact ⟨_, getSdp_of_parts hparses hopens hsession haudio hvideo haudioType hvideoType⟩
  · intro sdp hsdp parsed hparses
    rcases getSdp_eq_ok hsdp with ⟨hall, hrest⟩
    exact ⟨hall.unique hparses, hrest⟩

end Sdp

end SigmaMedia
