import SigmaMedia.Theory.Negotiation
import SigmaMedia.Theory.Sdp.RoundTrip
import SigmaMedia.Theory.Sdp.Sections

/-!
# What an Answer Says

The text of an answer is read back as the answer, so a peer that reads it
learns what was negotiated. Three things have to fit. Every line of the
answer is printable, although some of its parts are the peer's own words: the
identifiers of the media and the format parameters. No printed line has a
line feed in it, so the text falls into the lines it was put together from.
And the answer is in order, so it is cut where its sections meet.

A peer's words got into the offer as part of a line, which is why they cannot
have a line feed, and as pieces of a split, which is why they are printable.

## Main definitions

* `readBack`: A line as it comes back.
* `SDPLine.IsLine`: The parts of a line have no line feed.
* `FromText`: The line was read from a text without line feeds.
* `Chosen`: What is known of the parts of an answer.
* `Says`: What is read from a description is what a session holds.

## Theorems

* `newline_notMem_toText`: A printed line has no line feed.
* `SDP.getSdp_toText`: A description in order is read back.
* `acceptStreamOffer_chosen`, `acceptViewerOffer_chosen`: What an accepted
  offer puts into its answer.
* `answer_text_says`: The text of an answer says what was negotiated.
-/

namespace SigmaMedia

namespace Sdp

open Exec Net Text

/-- A line as it comes back: no reader knows the ice-lite attribute. -/
def readBack : SDPLine → SDPLine
  | .attr .iceLite => .attr .unrecognized
  | line => line

/-- A description as it is read back, section by section. -/
def SDP.readBack (sdp : SDP) : SDP :=
  { sessionSection := sdp.sessionSection.map Sdp.readBack,
    audioSection := sdp.audioSection.map Sdp.readBack,
    videoSection := sdp.videoSection.map Sdp.readBack }

section Lines

/-- The names in a group. -/
def MediaGroup.ids : MediaGroup → List Text
  | .bundle ids => ids
  | .lipSync ids => ids

/-- The parts of an attribute have no line feed. -/
def Attribute.IsLine : Attribute → Prop
  | .mediaID value => '\n' ∉ value.id
  | .iceUsername value => '\n' ∉ value.username
  | .icePassword value => '\n' ∉ value.password
  | .fingerprint value => '\n' ∉ value.hash
  | .mediaGroup value => ∀ id ∈ value.ids, '\n' ∉ id
  | .mediaSSRC value => ∀ name, value.sourceAttribute = .cname name → '\n' ∉ name
  | .fmtp value => ∀ c ∈ value.formatCapability, '\n' ∉ c
  | .candidate value => '\n' ∉ value.foundation
  | _ => True

/-- The parts of a line have no line feed. -/
def SDPLine.IsLine : SDPLine → Prop
  | .protocolVersion text => '\n' ∉ text
  | .sessionName text => '\n' ∉ text
  | .originator value =>
      '\n' ∉ value.username ∧ '\n' ∉ value.sessionId ∧ '\n' ∉ value.sessionVersion
  | .attr value => value.IsLine
  | _ => True

theorem newline_notMem_showNat (n : Nat) : '\n' ∉ showNat n := notMem_showNat rfl n

theorem newline_notMem_showIp (ip : IpAddr) : '\n' ∉ showIp ip := notMem_showIp (by decide) ip

theorem newline_notMem_ipFamily (ip : IpAddr) : '\n' ∉ ipFamily ip := by
  cases ip with
  | v4 octets => exact (by decide : '\n' ∉ "IP4".toList)
  | v6 octets => exact (by decide : '\n' ∉ "IP6".toList)

theorem notMem_append {c : Char} {s t : Text} (hs : c ∉ s) (ht : c ∉ t) : c ∉ s ++ t := by
  rw [List.mem_append, not_or]
  exact ⟨hs, ht⟩

theorem ICEOption.newline_notMem_toText {option : ICEOption} {t : Text}
    (h : option.toText = .ok t) : '\n' ∉ t := by
  cases option with
  | ice2 =>
      cases h
      decide
  | trickle =>
      cases h
      decide
  | unsupported => cases h

theorem MediaCodec.newline_notMem_toText {codec : MediaCodec} {t : Text}
    (h : codec.toText = .ok t) : '\n' ∉ t := by
  match codec, h with
  | .audio .opus, h =>
      cases h
      exact (by decide : '\n' ∉ "opus/48000/2".toList)
  | .video .h264, h =>
      cases h
      exact (by decide : '\n' ∉ "h264/90000".toList)

/-- What is printed of an attribute has a line feed only if one of its parts
    has. -/
theorem Attribute.newline_notMem_toText {value : Attribute} {order : Enumeration Text} {t : Text}
    (h : value.toText order = .ok t) (hline : value.IsLine) : '\n' ∉ t := by
  rcases bind_eq_ok.mp h with ⟨name, hname, ht⟩
  cases ht
  refine notMem_append (by decide) ?_
  have hblank : '\n' ∉ [' '] := by decide
  -- One case for each kind of attribute: fixed words, numbers, and the texts of
  -- which the line is asked.
  cases value with
  | unrecognized => cases hname
  | sendOnly =>
      cases hname
      decide
  | receiveOnly =>
      cases hname
      decide
  | rtcpMux =>
      cases hname
      decide
  | iceLite =>
      cases hname
      decide
  | endOfCandidates =>
      cases hname
      decide
  | mediaID attr =>
      cases hname
      exact notMem_append (by decide) hline
  | iceUsername attr =>
      cases hname
      exact notMem_append (by decide) hline
  | icePassword attr =>
      cases hname
      exact notMem_append (by decide) hline
  | setup attr =>
      cases hname
      cases attr with
      | activePassive => exact (by decide : '\n' ∉ "setup:actpass".toList)
      | active => exact (by decide : '\n' ∉ "setup:active".toList)
      | passive => exact (by decide : '\n' ∉ "setup:passive".toList)
  | fingerprint attr =>
      rcases bind_eq_ok.mp hname with ⟨hash, hhash, hname⟩
      cases hname
      have hfree : '\n' ∉ hash := by
        rcases attr with ⟨hashFunction, _⟩
        cases hashFunction with
        | sha256 =>
            cases hhash
            decide
        | unsupported => cases hhash
      exact notMem_append (notMem_append (notMem_append (by decide) hfree) hblank) hline
  | mediaGroup attr =>
      cases hname
      have hids : '\n' ∉ unwords attr.ids := notMem_intercalate (by decide) hline
      cases attr with
      | bundle ids => exact notMem_append (by decide) hids
      | lipSync ids => exact notMem_append (by decide) hids
  | mediaSSRC attr =>
      rcases bind_eq_ok.mp hname with ⟨source, hsource, hname⟩
      cases hname
      have hfree : '\n' ∉ source := by
        rcases attr with ⟨_, sourceAttribute⟩
        cases sourceAttribute with
        | cname name =>
            cases hsource
            exact notMem_append (by decide) (hline name rfl)
        | unsupported => cases hsource
      exact notMem_append (notMem_append (notMem_append (by decide) (newline_notMem_showNat _))
        hblank) hfree
  | rtpMap attr =>
      rcases bind_eq_ok.mp hname with ⟨codec, hcodec, hname⟩
      cases hname
      exact notMem_append (notMem_append (notMem_append (by decide) (newline_notMem_showNat _))
        hblank) (MediaCodec.newline_notMem_toText hcodec)
  | fmtp attr =>
      cases hname
      have hcaps : '\n' ∉ [';'].intercalate (order.list attr.formatCapability) :=
        notMem_intercalate (by decide) fun c hc => hline c ((order.mem _ c).mp hc)
      exact notMem_append (notMem_append (notMem_append (by decide) (newline_notMem_showNat _))
        hblank) hcaps
  | candidate attr =>
      cases hname
      have hhead : '\n' ∉ "candidate:".toList ++ attr.foundation ++ [' '] :=
        notMem_append (notMem_append (by decide) hline) hblank
      have hmiddle : '\n' ∉ "candidate:".toList ++ attr.foundation ++ [' ']
          ++ showNat attr.componentId ++ " UDP ".toList ++ showNat attr.priority ++ [' '] :=
        notMem_append (notMem_append (notMem_append (notMem_append hhead
          (newline_notMem_showNat _)) (by decide)) (newline_notMem_showNat _)) hblank
      exact notMem_append (notMem_append (notMem_append (notMem_append hmiddle
        (newline_notMem_showIp _)) hblank) (newline_notMem_showNat _)) (by decide)
  | iceOptions attr =>
      rcases bind_eq_ok.mp hname with ⟨words, hwords, hname⟩
      cases hname
      refine notMem_append (by decide) (notMem_intercalate (by decide) ?_)
      intro w hw
      rcases exists_of_mem_forall₂ (mapM_eq_ok_iff.mp hwords) hw with ⟨option, _, hoption⟩
      exact ICEOption.newline_notMem_toText hoption

/-- A printed line has a line feed only if one of its parts has. -/
theorem newline_notMem_toText {value : SDPLine} {order : Enumeration Text} {t : Text}
    (h : value.toText order = .ok t) (hline : value.IsLine) : '\n' ∉ t := by
  have hblank : '\n' ∉ [' '] := by decide
  -- Fixed words, numbers and addresses have none; the rest is in the hypothesis.
  cases value with
  | unrecognized =>
      cases h
      exact List.not_mem_nil
  | protocolVersion proto =>
      cases h
      exact notMem_append (by decide) hline
  | sessionName name =>
      cases h
      exact notMem_append (by decide) hline
  | attr attr => exact Attribute.newline_notMem_toText h hline
  | sessionTime value =>
      cases h
      exact notMem_append (notMem_append (notMem_append (by decide) (newline_notMem_showNat _))
        hblank) (newline_notMem_showNat _)
  | connectionData value =>
      cases h
      exact notMem_append (notMem_append (notMem_append (by decide) (newline_notMem_ipFamily _))
        hblank) (newline_notMem_showIp _)
  | originator value =>
      cases h
      have hnames : '\n' ∉ "o=".toList ++ value.username ++ [' '] ++ value.sessionId ++ [' ']
          ++ value.sessionVersion :=
        notMem_append (notMem_append (notMem_append (notMem_append (notMem_append (by decide)
          hline.1) hblank) hline.2.1) hblank) hline.2.2
      exact notMem_append (notMem_append (notMem_append (notMem_append hnames (by decide))
        (newline_notMem_ipFamily _)) hblank) (newline_notMem_showIp _)
  | mediaDescription value =>
      cases h
      have htype : '\n' ∉ value.mediaType.toText := by
        cases value.mediaType with
        | video => exact (by decide : '\n' ∉ "video".toList)
        | audio => exact (by decide : '\n' ∉ "audio".toList)
      have hprotocol : '\n' ∉ value.transportProtocol.toText := by
        cases value.transportProtocol
        exact (by decide : '\n' ∉ "UDP/TLS/RTP/SAVPF".toList)
      have hformats : '\n' ∉ unwords (value.mediaFormatDescription.map showNat) := by
        refine notMem_intercalate (by decide) ?_
        intro piece hpiece
        rcases List.mem_map.mp hpiece with ⟨n, _, rfl⟩
        exact newline_notMem_showNat n
      exact notMem_append (notMem_append (notMem_append (notMem_append (notMem_append
        (notMem_append (notMem_append (by decide) htype) hblank) (newline_notMem_showNat _)) hblank)
        hprotocol) hblank) hformats

end Lines

section ReadBack

variable {order : Enumeration Text}

/-- The line is printed on one line, and comes back. -/
def ComesBack (order : Enumeration Text) (line : SDPLine) : Prop :=
  ∃ t, line.toText order = .ok t ∧ '\n' ∉ t ∧ SDPLine.tryFrom t = .ok (readBack line)

theorem readBack_of_printable {line : SDPLine} (h : line.Printable) : readBack line = line := by
  cases line with
  | attr attr =>
      cases attr with
      | iceLite => exact absurd h id
      | _ => rfl
  | _ => rfl

theorem comesBack_of_printable {line : SDPLine} (h : line.Printable) (hline : line.IsLine) :
    ComesBack order line := by
  rcases SDPLine.tryFrom_toText order h with ⟨t, htext, hread⟩
  exact ⟨t, htext, newline_notMem_toText htext hline, by rw [readBack_of_printable h]; exact hread⟩

theorem comesBack_iceLite : ComesBack order (.attr .iceLite) :=
  ⟨"a=ice-lite".toList, rfl, by decide, rfl⟩

/-- Lines that come back are printed, and read back in their order. -/
theorem mapM_toText {ls : List SDPLine} (h : ∀ line ∈ ls, ComesBack order line) :
    ∃ ts, ls.mapM (SDPLine.toText order) = .ok ts ∧ (∀ t ∈ ts, '\n' ∉ t) ∧
      List.Forall₂ (fun t line => SDPLine.tryFrom t = .ok line) ts (ls.map readBack) := by
  -- Over the lines: each is printed without a line feed and read back alone.
  induction ls with
  | nil => exact ⟨[], rfl, fun _ ht => absurd ht List.not_mem_nil, .nil⟩
  | cons line ls ih =>
      rcases h line List.mem_cons_self with ⟨t, htext, hfree, hread⟩
      rcases ih fun l hl => h l (List.mem_cons_of_mem line hl) with ⟨ts, htexts, hfrees, hreads⟩
      refine ⟨t :: ts, ?_, ?_, ?_⟩
      · rw [List.mapM_cons, htext, htexts]
        rfl
      · intro u hu
        rcases List.mem_cons.mp hu with rfl | hu
        · exact hfree
        · exact hfrees u hu
      · exact .cons hread hreads

/-- A description in three parts whose lines come back is read back. -/
theorem SDP.getSdp_toText {sdp : SDP} {audio video : List SDPLine}
    {audioMedia videoMedia : MediaDescription}
    (hlines : ∀ line ∈ sdp.sessionSection ++ sdp.audioSection ++ sdp.videoSection,
      ComesBack order line)
    (hopens : Opens sdp.readBack.sessionSection)
    (hsession : mediaDescriptions sdp.readBack.sessionSection = [])
    (haudio : sdp.readBack.audioSection = .mediaDescription audioMedia :: audio)
    (hvideo : sdp.readBack.videoSection = .mediaDescription videoMedia :: video)
    (haudioRest : mediaDescriptions audio = []) (hvideoRest : mediaDescriptions video = [])
    (haudioType : audioMedia.mediaType = .audio) (hvideoType : videoMedia.mediaType = .video) :
    ∃ text, sdp.toText order = .ok text ∧ getSdp text = .ok sdp.readBack := by
  have hin : ∀ line, line ∈ sdp.sessionSection ∨ line ∈ sdp.audioSection ∨
      line ∈ sdp.videoSection → ComesBack order line := by
    intro line hline
    refine hlines line ?_
    rw [List.mem_append, List.mem_append, or_assoc]
    exact hline
  rcases mapM_toText fun line h => hin line (Or.inl h) with ⟨ss, hss, hssFree, hssRead⟩
  rcases mapM_toText fun line h => hin line (Or.inr (Or.inl h)) with ⟨as, has, hasFree, hasRead⟩
  rcases mapM_toText fun line h => hin line (Or.inr (Or.inr h)) with ⟨vs, hvs, hvsFree, hvsRead⟩
  have hfree : ∀ t ∈ ss ++ as ++ vs, '\n' ∉ t := by
    intro t ht
    rw [List.mem_append, List.mem_append] at ht
    rcases ht with (ht | ht) | ht
    · exact hssFree t ht
    · exact hasFree t ht
    · exact hvsFree t ht
  have hread : List.Forall₂ (fun t line => SDPLine.tryFrom t = .ok line) (ss ++ as ++ vs)
      (sdp.readBack.sessionSection ++ sdp.readBack.audioSection ++ sdp.readBack.videoSection) :=
    List.rel_append (List.rel_append hssRead hasRead) hvsRead
  -- No section is empty, so every line is followed by a terminator.
  have hne : ∀ {ts : List Text} {ls : List SDPLine} {line : SDPLine} {rest : List SDPLine},
      List.Forall₂ (fun t line => SDPLine.tryFrom t = .ok line) ts ls → ls = line :: rest →
      ts ≠ [] := by
    intro ts ls line rest hrel hls hts
    rw [hls, hts] at hrel
    cases hrel
  rcases hopens with ⟨originator, name, time, rest, hopens⟩
  have htext : crlf.intercalate ss ++ crlf ++ crlf.intercalate as ++ crlf
      ++ crlf.intercalate vs ++ crlf = (ss ++ as ++ vs).flatMap (· ++ crlf) := by
    rw [List.flatMap_append, List.flatMap_append, ← intercalate_crlf (hne hssRead hopens),
      ← intercalate_crlf (hne hasRead haudio), ← intercalate_crlf (hne hvsRead hvideo)]
    simp only [List.append_assoc]
  refine ⟨(ss ++ as ++ vs).flatMap (· ++ crlf), ?_, ?_⟩
  · rw [← htext, SDP.toText, hvs, has, hss]
    rfl
  · have hparses := parses_flatMap hfree hread
    rw [haudio, hvideo] at hparses
    rw [getSdp_of_parts hparses ⟨originator, name, time, rest, hopens⟩ hsession haudioRest
      hvideoRest haudioType hvideoType, ← haudio, ← hvideo]

end ReadBack

section Offer

/-- The line was read from a text without line feeds. -/
def FromText (line : SDPLine) : Prop := ∃ t, '\n' ∉ t ∧ SDPLine.tryFrom t = .ok line

/-- Every line of a section was read from a line of the text. -/
theorem fromText_of_getSdp {rawData : Text} {sdp : SDP} (h : getSdp rawData = .ok sdp)
    {line : SDPLine}
    (hline : line ∈ sdp.sessionSection ++ sdp.audioSection ++ sdp.videoSection) :
    FromText line := by
  rcases exists_of_mem_forall₂ (getSdp_eq_ok h).1 hline with ⟨t, ht, hread⟩
  exact ⟨t, notMem_of_mem_lines (List.mem_of_mem_filter ht), hread⟩

/-- The words of a bundle are words, and have no line feed. -/
theorem FromText.bundle {ids : List Text}
    (h : FromText (.attr (.mediaGroup (.bundle ids)))) :
    ∀ id ∈ ids, ' ' ∉ id ∧ '\n' ∉ id := by
  rcases h with ⟨t, hfree, hread⟩
  rcases Attribute.readFrom_of_tryFrom (SDPLine.readFrom_of_tryFrom hread) with
    ⟨rest, hsuffix, hgroup⟩
  have hwords : AreWords ids := MediaGroup.printable_of_tryFrom hgroup
  intro id hid
  refine ⟨hwords.notMem id hid, ?_⟩
  intro hmem
  -- The words are pieces of the end of the line.
  rcases bind_eq_ok.mp hgroup with ⟨⟨before, value⟩, hvalue, h⟩
  rcases bind_eq_ok.mp h with ⟨⟨groupType, groupValues⟩, hvalues, h⟩
  have hids : ids = groupValues.splitOn ' ' := by
    refine ite_cases h (fun h => ?_) fun h => ite_cases h (fun h => ?_) fun h => ?_
    · cases h
      rfl
    · cases h
    · cases h
  rw [hids] at hid
  have hend : groupValues <:+ t :=
    ((suffix_of_splitOnce (okOr_eq_ok.mp hvalues)).trans
      (suffix_of_splitOnce (okOr_eq_ok.mp hvalue))).trans hsuffix
  exact hfree (hend.subset (of_mem_splitOn hid hmem).1)

/-- So are format parameters, between semicolons. -/
theorem FromText.fmtp {value : FMTP} (h : FromText (.attr (.fmtp value))) :
    value.Printable ∧ ∀ c ∈ value.formatCapability, '\n' ∉ c := by
  rcases h with ⟨t, hfree, hread⟩
  rcases Attribute.readFrom_of_tryFrom (SDPLine.readFrom_of_tryFrom hread) with
    ⟨rest, hsuffix, hfmtp⟩
  refine ⟨FMTP.printable_of_tryFrom hfmtp, ?_⟩
  rcases bind_eq_ok.mp hfmtp with ⟨⟨before, text⟩, htext, h⟩
  rcases bind_eq_ok.mp h with ⟨⟨number, capabilities⟩, hcapabilities, h⟩
  rcases bind_eq_ok.mp h with ⟨payloadNumber, _, hvalue⟩
  cases hvalue
  intro c hc hmem
  -- The capabilities are the end of the line, so a line feed in them is one in
  -- the line.
  have hend : capabilities <:+ t :=
    ((suffix_of_splitOnce (okOr_eq_ok.mp hcapabilities)).trans
      (suffix_of_splitOnce (okOr_eq_ok.mp htext))).trans hsuffix
  exact hfree (hend.subset (of_mem_splitOn (List.mem_toFinset.mp hc) hmem).1)

theorem FromText.rtpMap {value : RTPMap} (h : FromText (.attr (.rtpMap value))) :
    IsUsize value.payloadNumber := by
  rcases h with ⟨t, _, hread⟩
  rcases Attribute.readFrom_of_tryFrom (SDPLine.readFrom_of_tryFrom hread) with ⟨rest, _, hmap⟩
  simp only [Attribute.ReadFrom, RTPMap.tryFrom, bind_eq_ok, okOr_eq_ok] at hmap
  rcases hmap with ⟨_, _, _, _, _, hnumber, hvalue⟩
  cases hvalue
  exact isUsize_of_parse hnumber

/-- What is found in a section is in one of its lines. -/
theorem mem_of_findAttribute {α : Type} {ask : Attribute → Option α} {ls : List SDPLine} {a : α}
    (h : findAttribute ask ls = some a) : ∃ attr, .attr attr ∈ ls ∧ ask attr = some a := by
  rcases List.exists_of_findSome?_eq_some h with ⟨line, hline, hask⟩
  cases line with
  | attr attr => exact ⟨attr, hline, hask⟩
  | _ => cases hask

/-- A payload number that was found is a number that was read. -/
theorem isUsize_of_codecPayloadNumber {codec : MediaCodec} {ls : List SDPLine} {n : Nat}
    (h : codecPayloadNumber codec ls = some n) (hls : ∀ line ∈ ls, FromText line) : IsUsize n := by
  rcases mem_of_findAttribute h with ⟨attr, hattr, hask⟩
  cases attr with
  | rtpMap map =>
      simp only at hask
      split at hask
      · cases hask
        exact (hls _ hattr).rtpMap
      · cases hask
  | _ => cases hask

/-- What is known of the parts of an answer: they can be printed, on one line
    each. -/
structure Chosen (audioMid videoMid : MediaID) (credentials : ICECredentials) (audio : AudioSession)
    (video : VideoSession) : Prop where
  audioMid : ' ' ∉ audioMid.id ∧ '\n' ∉ audioMid.id
  videoMid : ' ' ∉ videoMid.id ∧ '\n' ∉ videoMid.id
  hostUsername : '\n' ∉ credentials.hostUsername
  hostPassword : '\n' ∉ credentials.hostPassword
  audioPayload : IsUsize audio.payloadNumber
  fmtp : (FMTP.mk video.payloadNumber video.capabilities).Printable
  capabilities : ∀ c ∈ video.capabilities, '\n' ∉ c

/-- The identifiers of an answer are words of the offer's bundle. -/
theorem getMediaIds_words {sdp : SDP} {audioMid videoMid : MediaID}
    (h : getMediaIds sdp = .ok (audioMid, videoMid))
    (hls : ∀ line ∈ sdp.sessionSection, FromText line) :
    (' ' ∉ audioMid.id ∧ '\n' ∉ audioMid.id) ∧ ' ' ∉ videoMid.id ∧ '\n' ∉ videoMid.id := by
  simp only [getMediaIds, bind_eq_ok, okOr_eq_ok] at h
  rcases h with ⟨group, hgroup, first, hfirst, second, hsecond, actualAudio, _, h⟩
  split at h
  · cases h
  simp only [bind_eq_ok, okOr_eq_ok] at h
  rcases h with ⟨actualVideo, _, h⟩
  split at h
  · cases h
  cases h
  -- The ids are words of the group line, so they have neither blanks nor
  -- line feeds.
  rcases mem_of_findAttribute hgroup with ⟨attr, hattr, hask⟩
  have hbundle : FromText (.attr (.mediaGroup (.bundle group))) := by
    have hline := hls _ hattr
    split at hask
    · cases hask
      exact hline
    · cases hask
  exact ⟨hbundle.bundle first (List.mem_of_getElem? hfirst),
    hbundle.bundle second (List.mem_of_getElem? hsecond)⟩

/-- Drawn strings have no line feed. -/
theorem newline_notMem_random {size : Nat} (drawn : RandomString size) : '\n' ∉ drawn.val := by
  intro hmem
  have halnum := drawn.property.2 '\n' hmem
  exact absurd halnum (by decide)

/-- The first fmtp line for a number has its parameters. -/
theorem findAttribute_fmtp {ls : List SDPLine} {n : Nat} {capabilities : Finset Text}
    (h : findAttribute (parametersFor n) ls = some capabilities) :
    .attr (.fmtp ⟨n, capabilities⟩) ∈ ls := by
  rcases mem_of_findAttribute h with ⟨attr, hattr, hask⟩
  unfold parametersFor at hask
  split at hask
  · split at hask
    · rename_i fmtp hnumber
      cases hask
      rw [← hnumber]
      exact hattr
    · cases hask
  · cases hask

/-- So has the line a viewer is matched by. -/
theorem mem_of_matchingFmtp {available : List Nat} {capabilities : Finset Text}
    {ls : List SDPLine} {n : Nat} (h : matchingFmtp available capabilities ls = some n) :
    .attr (.fmtp ⟨n, capabilities⟩) ∈ ls := by
  rcases List.exists_of_findSome?_eq_some h with ⟨fmtp, hfmtp, hask⟩
  rcases List.mem_filterMap.mp hfmtp with ⟨line, hline, hsome⟩
  -- The line that was found has the capabilities that are asked for,
  split at hask
  · rename_i hcaps
    cases hask
    rw [← hcaps]
    -- and it is a parameter line of the section.
    split at hsome
    · split at hsome
      · cases hsome
        exact hline
      · cases hsome
    · cases hsome
  · cases hask

/-- Every line of an offer comes from its text. -/
theorem fromText_of_sections {rawData : Text} {offer : SDP} (h : getSdp rawData = .ok offer) :
    (∀ line ∈ offer.sessionSection, FromText line) ∧
      (∀ line ∈ offer.audioSection, FromText line) ∧
      ∀ line ∈ offer.videoSection, FromText line := by
  refine ⟨?_, ?_, ?_⟩
  · intro line hline
    exact fromText_of_getSdp h (List.mem_append_left _ (List.mem_append_left _ hline))
  · intro line hline
    exact fromText_of_getSdp h (List.mem_append_left _ (List.mem_append_right _ hline))
  · intro line hline
    exact fromText_of_getSdp h (List.mem_append_right _ hline)

/-- What is chosen from an offer is fit to be printed, if the numbers are from
    the text. -/
theorem chosen_of_offer {rawData : Text} {draws : Draws} {offer : SDP} {audioMid videoMid : MediaID}
    {credentials : ICECredentials} {audio : AudioSession} {video : VideoSession}
    (hsdp : getSdp rawData = .ok offer) (hmids : getMediaIds offer = .ok (audioMid, videoMid))
    (hcred : getIceCredentials offer draws = some credentials)
    (haudio : IsUsize audio.payloadNumber)
    (hvideo : .attr (.fmtp ⟨video.payloadNumber, video.capabilities⟩) ∈ offer.videoSection) :
    Chosen audioMid videoMid credentials audio video := by
  rcases fromText_of_sections hsdp with ⟨hsession, _, hfromVideo⟩
  rcases getMediaIds_words hmids hsession with ⟨ha, hv⟩
  rcases getIceCredentials_host hcred with ⟨husername, hpassword⟩
  have hfmtp := (hfromVideo _ hvideo).fmtp
  exact { audioMid := ha, videoMid := hv,
          hostUsername := husername ▸ newline_notMem_random _,
          hostPassword := hpassword ▸ newline_notMem_random _,
          audioPayload := haudio, fmtp := hfmtp.1, capabilities := hfmtp.2 }

/-- What an accepted streamer is answered with. -/
theorem acceptStreamOffer_chosen {resolver : SDPResolver} {rawData : Text} {draws : Draws}
    {session : NegotiatedSession} (h : resolver.acceptStreamOffer rawData draws = .ok session) :
    ∃ offer audioMid videoMid credentials audio video, getSdp rawData = .ok offer ∧
      getMediaIds offer = .ok (audioMid, videoMid) ∧
      session = resolver.answer .receiveOnly audioMid videoMid credentials audio video ∧
      Chosen audioMid videoMid credentials audio video := by
  rcases acceptStreamOffer_eq_ok.mp h with ⟨offer, hsdp, hparse⟩
  rcases parseStreamOffer_eq_ok.mp hparse with ⟨audioMid, videoMid, credentials, audio, video,
    hmids, hcred, haudio, hvideo, _, rfl⟩
  refine ⟨offer, audioMid, videoMid, credentials, audio, video, hsdp, hmids, rfl, ?_⟩
  -- The audio payload number, and the video one with its parameters.
  rcases getStreamerAudioSession_eq_ok.mp haudio with ⟨_, _, audioNumber, haudioNumber, rfl⟩
  rcases getStreamerVideoSession_eq_ok.mp hvideo with ⟨_, _, videoNumber, _, capabilities, hcaps,
    rfl⟩
  refine chosen_of_offer hsdp hmids hcred ?_ (findAttribute_fmtp hcaps)
  exact isUsize_of_codecPayloadNumber haudioNumber (fromText_of_sections hsdp).2.1

/-- What an accepted viewer is answered with. -/
theorem acceptViewerOffer_chosen {resolver : SDPResolver} {rawData : Text} {draws : Draws}
    {streamerSession session : NegotiatedSession}
    (h : resolver.acceptViewerOffer rawData streamerSession draws = .ok session) :
    ∃ offer audioMid videoMid credentials audio video, getSdp rawData = .ok offer ∧
      getMediaIds offer = .ok (audioMid, videoMid) ∧
      session = resolver.answer .sendOnly audioMid videoMid credentials audio video ∧
      Chosen audioMid videoMid credentials audio video := by
  rcases acceptViewerOffer_eq_ok.mp h with ⟨offer, hsdp, hparse⟩
  rcases parseViewerOffer_eq_ok.mp hparse with ⟨audioMid, videoMid, credentials, audio, video,
    hmids, hcred, haudio, hvideo, rfl⟩
  refine ⟨offer, audioMid, videoMid, credentials, audio, video, hsdp, hmids, rfl, ?_⟩
  rcases getViewerAudioSession_eq_ok.mp haudio with ⟨_, _, _, audioNumber, haudioNumber, rfl⟩
  rcases getViewerVideoSession_eq_ok.mp hvideo with ⟨_, _, _, videoNumber, hvideoNumber, rfl⟩
  refine chosen_of_offer hsdp hmids hcred ?_ (mem_of_matchingFmtp hvideoNumber)
  exact isUsize_of_codecPayloadNumber haudioNumber (fromText_of_sections hsdp).2.1

end Offer

section Text

/-- What is read from a description is what a session holds. -/
structure Says (sdp : SDP) (session : NegotiatedSession) : Prop where
  iceUfrag : getIceUsername sdp.sessionSection = some ⟨session.iceCredentials.hostUsername⟩
  icePwd : getIcePassword sdp.sessionSection = some ⟨session.iceCredentials.hostPassword⟩
  audioMedia : ∀ media ∈ mediaDescriptions sdp.audioSection,
    media.mediaFormatDescription = [session.audioSession.payloadNumber]
  videoMedia : ∀ media ∈ mediaDescriptions sdp.videoSection,
    media.mediaFormatDescription = [session.videoSession.payloadNumber]
  audioMap : codecPayloadNumber (.audio session.audioSession.codec) sdp.audioSection
    = some session.audioSession.payloadNumber
  videoMap : codecPayloadNumber (.video session.videoSession.codec) sdp.videoSection
    = some session.videoSession.payloadNumber
  audioSsrc : remoteSsrc sdp.audioSection = some session.audioSession.hostSsrc
  videoSsrc : remoteSsrc sdp.videoSection = some session.videoSession.hostSsrc
  fmtp : findAttribute (fun | .fmtp fmtp => some fmtp | _ => none) sdp.videoSection
    = some ⟨session.videoSession.payloadNumber, session.videoSession.capabilities⟩

variable {resolver : SDPResolver} {direction : Attribute} {audioMid videoMid : MediaID}
  {credentials : ICECredentials} {audio : AudioSession} {video : VideoSession}

/-- Whatever an answer was put together from, it says so. -/
theorem answer_says (hdirection : direction = .sendOnly ∨ direction = .receiveOnly) :
    Says (resolver.answer direction audioMid videoMid credentials audio video).sdpAnswer.readBack
      (resolver.answer direction audioMid videoMid credentials audio video) := by
  have hone : ∀ {media : MediaDescription} {n : Nat}, media.mediaFormatDescription = [n] →
      ∀ m ∈ [media], m.mediaFormatDescription = [n] := by
    intro media n hmedia m hm
    rw [List.mem_singleton.mp hm]
    exact hmedia
  rcases audio with ⟨_ | _, _, _, _⟩
  rcases video with ⟨_ | _, _, _, _, _⟩
  rcases hdirection with rfl | rfl
  · exact ⟨rfl, rfl, hone rfl, hone rfl, rfl, rfl, rfl, rfl, rfl⟩
  · exact ⟨rfl, rfl, hone rfl, hone rfl, rfl, rfl, rfl, rfl, rfl⟩

theorem answer_mediaIds (hdirection : direction = .sendOnly ∨ direction = .receiveOnly) :
    getMediaIds (resolver.answer direction audioMid videoMid credentials audio
      video).sdpAnswer.readBack = .ok (audioMid, videoMid) := by
  refine bind_eq_ok.mpr ⟨[audioMid.id, videoMid.id], rfl, ?_⟩
  refine bind_eq_ok.mpr ⟨audioMid.id, rfl, bind_eq_ok.mpr ⟨videoMid.id, rfl, ?_⟩⟩
  refine bind_eq_ok.mpr ⟨audioMid, by rcases hdirection with rfl | rfl <;> rfl, ?_⟩
  refine (if_neg (not_not_intro rfl)).trans ?_
  refine bind_eq_ok.mpr ⟨videoMid, by rcases hdirection with rfl | rfl <;> rfl, ?_⟩
  exact if_neg (not_not_intro rfl)

theorem isUsize_singleton {n : Nat} (h : IsUsize n) : ∀ m ∈ [n], IsUsize m := by
  intro m hm
  rw [List.mem_singleton.mp hm]
  exact h

/-- The lines of the session section come back, under a fingerprint that can
    be printed on one line. -/
theorem sessionAnswer_comesBack {order : Enumeration Text}
    (hchosen : Chosen audioMid videoMid credentials audio video)
    (hfingerprint : resolver.fingerprint.hashFunction ≠ .unsupported)
    (hhash : '\n' ∉ resolver.fingerprint.hash) :
    ∀ line ∈ resolver.sessionAnswer audioMid videoMid credentials, ComesBack order line := by
  have hids : ∀ id ∈ [audioMid.id, videoMid.id], ' ' ∉ id ∧ '\n' ∉ id := by
    intro id hid
    simp only [List.mem_cons, List.not_mem_nil, or_false] at hid
    rcases hid with rfl | rfl
    · exact hchosen.audioMid
    · exact hchosen.videoMid
  have hname : ' ' ∉ hostCname ∧ '\n' ∉ hostCname := by decide
  have hid : ' ' ∉ "3767197920".toList ∧ '\n' ∉ "3767197920".toList := by decide
  have hversion : ' ' ∉ "0".toList ∧ '\n' ∉ "0".toList := by decide
  have hzero : IsUsize 0 := Nat.two_pow_pos 64
  simp only [SDPResolver.sessionAnswer, List.forall_mem_cons, List.not_mem_nil, false_implies,
    implies_true, and_true]
  -- Line by line, in the order of the answer.
  refine ⟨?_, ?_, ?_, ?_, ?_, ?_, ?_, ?_, ?_, ?_, ?_⟩
  · exact comesBack_of_printable trivial hversion.2
  · exact comesBack_of_printable ⟨hname.1, hid.1, hversion.1⟩ ⟨hname.2, hid.2, hversion.2⟩
  · exact comesBack_of_printable trivial hname.2
  · exact comesBack_of_printable ⟨hzero, hzero⟩ trivial
  · exact comesBack_of_printable ⟨List.cons_ne_nil _ _, fun id hid => (hids id hid).1⟩
      fun id hid => (hids id hid).2
  · exact comesBack_of_printable trivial hchosen.hostUsername
  · exact comesBack_of_printable trivial hchosen.hostPassword
  · exact comesBack_of_printable ⟨List.cons_ne_nil _ _, by decide⟩ trivial
  · exact comesBack_iceLite
  · exact comesBack_of_printable hfingerprint hhash
  · exact comesBack_of_printable trivial trivial

/-- So do those of the media sections, under a candidate that can be
    printed. -/
theorem mediaAnswer_comesBack {order : Enumeration Text}
    (hdirection : direction = .sendOnly ∨ direction = .receiveOnly)
    (hchosen : Chosen audioMid videoMid credentials audio video)
    (hcandidate : resolver.candidate.Printable)
    (hfoundation : '\n' ∉ resolver.candidate.foundation) :
    ∀ line ∈ resolver.audioAnswer direction audioMid audio
      ++ resolver.videoAnswer direction videoMid video, ComesBack order line := by
  have hport : IsUsize resolver.candidate.port.toNat :=
    Nat.lt_trans resolver.candidate.port.toNat_lt (by decide)
  have hflow : ComesBack order (.attr direction) := by
    rcases hdirection with rfl | rfl
    · exact comesBack_of_printable trivial trivial
    · exact comesBack_of_printable trivial trivial
  have hssrc : ∀ ssrc : UInt32, ComesBack order (.attr (.mediaSSRC
      { ssrc, sourceAttribute := .cname hostCname })) := by
    intro ssrc
    refine comesBack_of_printable (by decide : ' ' ∉ hostCname ∧ ':' ∉ hostCname) ?_
    intro name hname
    cases hname
    exact (by decide : '\n' ∉ hostCname)
  -- The video number is the one of an fmtp line that was read.
  have hvideoPayload := hchosen.fmtp.payloadNumber
  simp only [SDPResolver.audioAnswer, SDPResolver.videoAnswer, List.forall_mem_append,
    List.forall_mem_cons, List.not_mem_nil, false_implies, implies_true, and_true]
  refine ⟨⟨?_, ?_, hflow, ?_, ?_, ?_, ?_, ?_, hssrc _⟩, ?_, ?_, hflow, ?_, ?_, ?_, hssrc _, ?_⟩
  · exact comesBack_of_printable ⟨hport, isUsize_singleton hchosen.audioPayload⟩ trivial
  · exact comesBack_of_printable trivial trivial
  · exact comesBack_of_printable trivial trivial
  · exact comesBack_of_printable trivial hchosen.audioMid.2
  · exact comesBack_of_printable hcandidate hfoundation
  · exact comesBack_of_printable trivial trivial
  · exact comesBack_of_printable ⟨fun h => (by cases h), hchosen.audioPayload⟩ trivial
  · exact comesBack_of_printable ⟨hport, isUsize_singleton hvideoPayload⟩ trivial
  · exact comesBack_of_printable trivial trivial
  · exact comesBack_of_printable trivial trivial
  · exact comesBack_of_printable trivial hchosen.videoMid.2
  · exact comesBack_of_printable ⟨fun h => (by cases h), hvideoPayload⟩ trivial
  · exact comesBack_of_printable hchosen.fmtp hchosen.capabilities

/-- The text of an answer is read back as the answer. -/
theorem answer_getSdp {order : Enumeration Text}
    (hdirection : direction = .sendOnly ∨ direction = .receiveOnly)
    (hchosen : Chosen audioMid videoMid credentials audio video)
    (hfingerprint : resolver.fingerprint.hashFunction ≠ .unsupported)
    (hhash : '\n' ∉ resolver.fingerprint.hash) (hcandidate : resolver.candidate.Printable)
    (hfoundation : '\n' ∉ resolver.candidate.foundation) :
    ∃ text, (resolver.answer direction audioMid videoMid credentials audio
        video).sdpAnswer.toText order = .ok text ∧
      getSdp text = .ok (resolver.answer direction audioMid videoMid credentials audio
        video).sdpAnswer.readBack := by
  refine SDP.getSdp_toText ?_ ⟨_, _, _, _, rfl⟩ rfl rfl rfl ?_ ?_ rfl rfl
  · intro line hline
    rw [List.append_assoc, List.mem_append] at hline
    rcases hline with hline | hline
    · exact sessionAnswer_comesBack hchosen hfingerprint hhash line hline
    · exact mediaAnswer_comesBack hdirection hchosen hcandidate hfoundation line hline
  · -- There is one description in each section, whatever the direction.
    rcases hdirection with rfl | rfl
    · rfl
    · rfl
  · rcases hdirection with rfl | rfl
    · rfl
    · rfl

/-- A resolver prints its candidate, and its fingerprint if it is of the known
    hash function, on one line each. -/
theorem SDPResolver.new_printable {fingerprintHash : Text} {udpSocket : SocketAddr}
    (h : SDPResolver.new fingerprintHash udpSocket = .ok resolver)
    (hline : '\n' ∉ fingerprintHash) :
    '\n' ∉ resolver.fingerprint.hash ∧ resolver.candidate.Printable ∧
      '\n' ∉ resolver.candidate.foundation := by
  simp only [SDPResolver.new, bind_eq_ok, expectOk_eq_ok] at h
  rcases h with ⟨fingerprint, hread, hresolver⟩
  cases hresolver
  have hfoundation : ' ' ∉ "1".toList ∧ '\n' ∉ "1".toList := by decide
  have hnumbers : 1 < 2 ^ 64 ∧ 2015363327 < 2 ^ 64 := by decide
  refine ⟨?_, ⟨hfoundation.1, hnumbers.1, hnumbers.2⟩, hfoundation.2⟩
  rcases bind_eq_ok.mp hread with ⟨⟨before, value⟩, hvalue, h⟩
  rcases bind_eq_ok.mp h with ⟨⟨hashFunction, hash⟩, hhash, hfingerprint⟩
  cases hfingerprint
  intro hmem
  -- The hash is the end of the configured text, behind its last blank.
  have hend : hash <:+ "fingerprint:".toList ++ fingerprintHash :=
    (suffix_of_splitOnce (okOr_eq_ok.mp hhash)).trans (suffix_of_splitOnce (okOr_eq_ok.mp hvalue))
  rcases List.mem_append.mp (hend.subset hmem) with hc | hc
  · exact absurd hc (by decide)
  · exact hline hc

/-- The text of an answer can be printed, is read back as the answer, and says
    what was negotiated. -/
theorem answer_text_says (fingerprintHash : Text) (udpSocket : SocketAddr) (resolver : SDPResolver)
    (order : Enumeration Text) (rawData : Text) (draws : Draws) (session : NegotiatedSession)
    (hnew : SDPResolver.new fingerprintHash udpSocket = .ok resolver)
    (hsha : resolver.fingerprint.hashFunction = .sha256) (hline : '\n' ∉ fingerprintHash)
    (haccept : resolver.acceptStreamOffer rawData draws = .ok session ∨
      ∃ streamerSession, resolver.acceptViewerOffer rawData streamerSession draws = .ok session) :
    ∃ text, session.sdpAnswer.toText order = .ok text ∧
      getSdp text = .ok session.sdpAnswer.readBack ∧ Says session.sdpAnswer.readBack session ∧
      ∃ offer mids, getSdp rawData = .ok offer ∧ getMediaIds offer = .ok mids ∧
        getMediaIds session.sdpAnswer.readBack = .ok mids := by
  have hfingerprint : resolver.fingerprint.hashFunction ≠ .unsupported := by
    rw [hsha]
    exact fun h => (by cases h)
  rcases SDPResolver.new_printable hnew hline with ⟨hhash, hcandidate, hfoundation⟩
  -- Both kinds of answer are put together in one way, up to the direction.
  have hanswer : ∃ direction offer audioMid videoMid credentials audio video,
      (direction = .sendOnly ∨ direction = .receiveOnly) ∧ getSdp rawData = .ok offer ∧
      getMediaIds offer = .ok (audioMid, videoMid) ∧
      session = resolver.answer direction audioMid videoMid credentials audio video ∧
      Chosen audioMid videoMid credentials audio video := by
    rcases haccept with hstream | ⟨streamerSession, hviewer⟩
    · exact ⟨.receiveOnly, by
        rcases acceptStreamOffer_chosen hstream with ⟨o, a, v, c, au, vi, h⟩
        exact ⟨o, a, v, c, au, vi, Or.inr rfl, h⟩⟩
    · exact ⟨.sendOnly, by
        rcases acceptViewerOffer_chosen hviewer with ⟨o, a, v, c, au, vi, h⟩
        exact ⟨o, a, v, c, au, vi, Or.inl rfl, h⟩⟩
  rcases hanswer with ⟨direction, offer, audioMid, videoMid, credentials, audio, video, hdirection,
    hoffer, hmids, rfl, hchosen⟩
  rcases answer_getSdp hdirection hchosen hfingerprint hhash hcandidate hfoundation with
    ⟨text, htext, hread⟩
  exact ⟨text, htext, hread, answer_says hdirection, offer, (audioMid, videoMid), hoffer, hmids,
    answer_mediaIds hdirection⟩

theorem answer_text_says_streamer :
    ∃ session text, loopbackResolver.acceptStreamOffer
        (offerText "user".toList "sendonly".toList "111".toList "96".toList) fixedDraws
          = .ok session ∧
      session.sdpAnswer.toText Enumeration.arbitrary = .ok text ∧
      getSdp text = .ok session.sdpAnswer.readBack ∧ Says session.sdpAnswer.readBack session := by
  have hstream : passes (loopbackResolver.acceptStreamOffer
      (offerText "user".toList "sendonly".toList "111".toList "96".toList) fixedDraws)
      (fun _ => true) = true := by decide +kernel
  rcases of_passes hstream with ⟨session, haccept, _⟩
  rcases answer_text_says "sha-256 AA".toList (.v4 loopbackIp 5000) loopbackResolver
    Enumeration.arbitrary _ fixedDraws session rfl rfl (by decide) (Or.inl haccept) with
    ⟨text, htext, hread, hsays, _⟩
  exact ⟨session, text, haccept, htext, hread, hsays⟩

end Text

end Sdp

end SigmaMedia
