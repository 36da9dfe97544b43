import SigmaMedia.Core.Sdp.Format

/-!
# What Is Printed Is Read Back

A value is `Printable` when its parts keep clear of the characters its printed
form is cut at, and then reading the printed form gives the value. Printers
and readers are separate code for every kind of line, so every kind has its
own proof, and they all go the same way: the printed form is laid out as words
between separators, the reader is run over it, and each cut falls where a
separator was put.

## Main definitions

* `SDPLine.Printable`, `Attribute.Printable`: The parts of a line keep clear
  of the separators.

## Theorems

* `Attribute.tryFrom_toText`: A printable attribute is printed, and read back.
* `SDPLine.tryFrom_toText`: So is a printable line.
-/

namespace SigmaMedia

namespace Sdp

open Exec Net Text

section Printable

/-- A number a 64-bit word has room for. -/
def IsUsize (n : Nat) : Prop := n < 2 ^ 64

/-- The numbers of a media line are read back. -/
structure MediaDescription.Printable (value : MediaDescription) : Prop where
  transportPort : IsUsize value.transportPort
  formats : ∀ n ∈ value.mediaFormatDescription, IsUsize n

/-- The words of an originator line have no blank. -/
structure Originator.Printable (value : Originator) : Prop where
  username : ' ' ∉ value.username
  sessionId : ' ' ∉ value.sessionId
  sessionVersion : ' ' ∉ value.sessionVersion

/-- The numbers of a time line are read back. -/
structure SessionTime.Printable (value : SessionTime) : Prop where
  startTime : IsUsize value.startTime
  endTime : IsUsize value.endTime

/-- A list of words that is told from an empty word. -/
structure AreWords (words : List Text) : Prop where
  ne_nil : words ≠ []
  notMem : ∀ w ∈ words, ' ' ∉ w

/-- There are options, and all of them are known. -/
structure ICEOptions.Printable (value : ICEOptions) : Prop where
  ne_nil : value.options ≠ []
  supported : ICEOption.unsupported ∉ value.options

/-- The codec is known, and its number is read back. -/
structure RTPMap.Printable (value : RTPMap) : Prop where
  codec : value.codec ≠ .unsupported
  payloadNumber : IsUsize value.payloadNumber

/-- There are parameters, none has a semicolon, and their number is read back. -/
structure FMTP.Printable (value : FMTP) : Prop where
  payloadNumber : IsUsize value.payloadNumber
  nonempty : value.formatCapability.Nonempty
  notMem : ∀ c ∈ value.formatCapability, ';' ∉ c

/-- The words of a candidate have no blank, and its numbers are read back. -/
structure Candidate.Printable (value : Candidate) : Prop where
  foundation : ' ' ∉ value.foundation
  componentId : IsUsize value.componentId
  priority : IsUsize value.priority

/-- The names in a group have no blank. -/
def MediaGroup.Printable : MediaGroup → Prop
  | .bundle ids => AreWords ids
  | .lipSync ids => AreWords ids

/-- The name of a source has no separator. -/
def SourceAttribute.Printable : SourceAttribute → Prop
  | .cname name => ' ' ∉ name ∧ ':' ∉ name
  | .unsupported => False

/-- Only what a reader gives is printable: no reader gives an ice-lite
    attribute. -/
def Attribute.Printable : Attribute → Prop
  | .unrecognized | .iceLite => False
  | .endOfCandidates | .sendOnly | .receiveOnly | .rtcpMux => True
  | .mediaID _ | .iceUsername _ | .icePassword _ | .setup _ => True
  | .iceOptions value => value.Printable
  | .fingerprint value => value.hashFunction ≠ .unsupported
  | .mediaGroup value => value.Printable
  | .mediaSSRC value => value.sourceAttribute.Printable
  | .rtpMap value => value.Printable
  | .fmtp value => value.Printable
  | .candidate value => value.Printable

/-- The parts of a line keep clear of the separators it is cut at. -/
def SDPLine.Printable : SDPLine → Prop
  | .unrecognized => False
  | .protocolVersion _ | .sessionName _ | .connectionData _ => True
  | .originator value => value.Printable
  | .sessionTime value => value.Printable
  | .attr value => value.Printable
  | .mediaDescription value => value.Printable

end Printable

section Reading

theorem parseUsize_showNat {n : Nat} (h : IsUsize n) : parseUsize (showNat n) = some n :=
  parseUnsigned_showNat h

theorem blank_notMem_showNat (n : Nat) : ' ' ∉ showNat n := notMem_showNat rfl n

theorem notMem_showIp {c : Char} (hc : ¬ IsIpChar c) (ip : IpAddr) : c ∉ showIp ip :=
  fun hmem => hc (isIpChar_of_parseIp (parseIp_showIp ip) hmem)

theorem addressOfFamily_showIp (ip : IpAddr) :
    addressOfFamily (ipFamily ip) (some (showIp ip)) = some ip := by
  cases ip with
  | v4 octets =>
      simp only [addressOfFamily, ipFamily, showIp, if_true, Option.bind_some, parseIpv4_showIpv4,
        Option.map_some]
  | v6 octets =>
      have hfamily : "IP6".toList ≠ "IP4".toList := by decide
      simp only [addressOfFamily, ipFamily, showIp, hfamily, if_false, if_true, Option.bind_some,
        parseIpv6_showIpv6, Option.map_some]

theorem blank_notMem_ipFamily (ip : IpAddr) : ' ' ∉ ipFamily ip := by
  cases ip with
  | v4 octets => exact (by decide : ' ' ∉ "IP4".toList)
  | v6 octets => exact (by decide : ' ' ∉ "IP6".toList)

theorem MediaType.tryFrom_toText (value : MediaType) :
    MediaType.tryFrom value.toText = .ok value := by
  cases value with
  | video => rfl
  | audio => rfl

theorem blank_notMem_mediaType (value : MediaType) : ' ' ∉ value.toText := by
  cases value with
  | video => exact (by decide : ' ' ∉ "video".toList)
  | audio => exact (by decide : ' ' ∉ "audio".toList)

theorem mapM_parseUsize {formats : List Nat} (h : ∀ n ∈ formats, IsUsize n) :
    (formats.map showNat).mapM parseUsize = some formats := by
  induction formats with
  | nil => rfl
  | cons n formats ih =>
      rw [List.map_cons, List.mapM_cons, parseUsize_showNat (h n List.mem_cons_self),
        ih fun m hm => h m (List.mem_cons_of_mem n hm)]
      rfl

/-- The formats of a description end at an empty piece, which only an empty
    list of formats leaves. -/
theorem takeWhile_formats (formats : List Nat) :
    ((unwords (formats.map showNat)).splitOn ' ').takeWhile (fun piece => piece ≠ [])
      = formats.map showNat := by
  have hne : ∀ piece ∈ formats.map showNat, decide (piece ≠ []) = true := by
    intro piece hpiece
    rcases List.mem_map.mp hpiece with ⟨n, _, rfl⟩
    exact decide_eq_true Nat.toDigits_ne_nil
  by_cases hnil : formats = []
  · rw [hnil]
    rfl
  · have hwords : ∀ w ∈ formats.map showNat, ' ' ∉ w := by
      intro w hw
      rcases List.mem_map.mp hw with ⟨n, _, rfl⟩
      exact blank_notMem_showNat n
    rw [splitOn_unwords (by rw [ne_eq, List.map_eq_nil_iff]; exact hnil) hwords]
    exact List.takeWhile_eq_self_iff.mpr hne

theorem MediaDescription.tryFrom_toText {value : MediaDescription} (h : value.Printable) :
    MediaDescription.tryFrom value.toText = .ok value := by
  rcases value with ⟨mediaType, transportPort, transportProtocol, formats⟩
  have htext : MediaDescription.toText ⟨mediaType, transportPort, transportProtocol, formats⟩
      = "m=".toList ++ (mediaType.toText ++ ' ' :: (showNat transportPort ++ ' ' ::
        (transportProtocol.toText ++ ' ' :: unwords (formats.map showNat)))) := by
    unfold MediaDescription.toText
    simp only [List.append_assoc, List.cons_append, List.nil_append]
  have hprotocol : ' ' ∉ transportProtocol.toText := by
    cases transportProtocol
    exact (by decide : ' ' ∉ "UDP/TLS/RTP/SAVPF".toList)
  have hread : MediaTransportProtocol.tryFrom transportProtocol.toText
      = .ok transportProtocol := by
    cases transportProtocol
    rfl
  -- Words up to the protocol, then as many formats as there are.
  rw [htext, MediaDescription.tryFrom, splitOnce_append (by decide)]
  simp only [okOr, ok_bind, List.splitOn_append_cons_self_of_not_mem (blank_notMem_mediaType _),
    List.splitOn_append_cons_self_of_not_mem (blank_notMem_showNat _),
    List.splitOn_append_cons_self_of_not_mem hprotocol, List.getElem?_cons_zero,
    List.getElem?_cons_succ, MediaType.tryFrom_toText, Option.bind_some,
    parseUsize_showNat h.transportPort, hread, List.drop_succ_cons, List.drop_zero,
    takeWhile_formats, mapM_parseUsize h.formats]
  rfl

theorem Originator.tryFrom_toText {value : Originator} (h : value.Printable) :
    Originator.tryFrom value.toText = .ok value := by
  rcases value with ⟨username, sessionId, sessionVersion, ipAddr⟩
  -- Six words with a blank between them, none of which has a blank inside.
  have htext : Originator.toText ⟨username, sessionId, sessionVersion, ipAddr⟩
      = "o=".toList ++ (username ++ ' ' :: (sessionId ++ ' ' :: (sessionVersion ++ ' ' ::
        ("IN".toList ++ ' ' :: (ipFamily ipAddr ++ ' ' :: showIp ipAddr))))) := by
    have hin : " IN ".toList = ' ' :: ("IN".toList ++ [' ']) := by decide
    unfold Originator.toText
    simp only [hin, List.append_assoc, List.cons_append, List.nil_append]
  have hin : ' ' ∉ "IN".toList := by decide
  have hip : ' ' ∉ showIp ipAddr := notMem_showIp (by decide) ipAddr
  rw [htext, Originator.tryFrom, splitOnce_append (by decide)]
  simp only [okOr, ok_bind, List.splitOn_append_cons_self_of_not_mem h.username,
    List.splitOn_append_cons_self_of_not_mem h.sessionId,
    List.splitOn_append_cons_self_of_not_mem h.sessionVersion,
    List.splitOn_append_cons_self_of_not_mem hin,
    List.splitOn_append_cons_self_of_not_mem (blank_notMem_ipFamily ipAddr),
    List.splitOn_eq_singleton hip, List.getElem?_cons_zero, List.getElem?_cons_succ, ne_eq,
    not_true_eq_false, if_false, addressOfFamily_showIp]
  rfl

theorem SessionTime.tryFrom_toText {value : SessionTime} (h : value.Printable) :
    SessionTime.tryFrom value.toText = .ok value := by
  rcases value with ⟨startTime, endTime⟩
  have htext : SessionTime.toText ⟨startTime, endTime⟩
      = "t=".toList ++ (showNat startTime ++ ' ' :: showNat endTime) := by
    unfold SessionTime.toText
    simp only [List.append_assoc, List.cons_append, List.nil_append]
  have hsplit : splitOnce " ".toList (showNat startTime ++ ' ' :: showNat endTime)
      = some (showNat startTime, showNat endTime) := splitOnce_singleton (blank_notMem_showNat _) _
  rw [htext, SessionTime.tryFrom, splitOnce_append (by decide)]
  simp only [okOr, ok_bind, hsplit, parseUsize_showNat h.startTime, parseUsize_showNat h.endTime]
  rfl

theorem ConnectionData.tryFrom_toText (value : ConnectionData) :
    ConnectionData.tryFrom value.toText = .ok value := by
  rcases value with ⟨ip⟩
  -- Three words with a blank between them; the second is compared in lower
  -- case.
  have htext : ConnectionData.toText ⟨ip⟩
      = "c=".toList ++ ("IN".toList ++ ' ' :: (ipFamily ip ++ ' ' :: showIp ip)) := by
    have hin : "c=IN ".toList = "c=".toList ++ ("IN".toList ++ [' ']) := by decide
    unfold ConnectionData.toText
    simp only [hin, List.append_assoc, List.cons_append, List.nil_append]
  have hin : ' ' ∉ "IN".toList := by decide
  have hlower : "IN".toList.map Char.toLower = "in".toList := by decide
  have hip : ' ' ∉ showIp ip := notMem_showIp (by decide) ip
  rw [htext, ConnectionData.tryFrom, splitOnce_append (by decide)]
  simp only [okOr, ok_bind, List.splitOn_append_cons_self_of_not_mem hin,
    List.splitOn_append_cons_self_of_not_mem (blank_notMem_ipFamily ip),
    List.splitOn_eq_singleton hip, List.getElem?_cons_zero, List.getElem?_cons_succ, hlower,
    ne_eq, not_true_eq_false, if_false, Option.bind_some, addressOfFamily_showIp]
  rfl

theorem ICEOption.tryFrom_toText {option : ICEOption} (h : option ≠ .unsupported) :
    ∃ t, option.toText = .ok t ∧ ' ' ∉ t ∧ ICEOption.tryFrom t = option := by
  cases option with
  | ice2 => exact ⟨"ice2".toList, rfl, by decide, rfl⟩
  | trickle => exact ⟨"trickle".toList, rfl, by decide, by decide⟩
  | unsupported => exact absurd rfl h

/-- Supported options are printed as words, and read back. -/
theorem mapM_iceOption {options : List ICEOption} (h : ICEOption.unsupported ∉ options) :
    ∃ words, options.mapM ICEOption.toText = .ok words ∧ (∀ w ∈ words, ' ' ∉ w) ∧
      words.map ICEOption.tryFrom = options := by
  -- Over the options; each is one word.
  induction options with
  | nil => exact ⟨[], rfl, fun _ hw => absurd hw List.not_mem_nil, rfl⟩
  | cons option options ih =>
      rw [List.mem_cons, not_or] at h
      rcases ICEOption.tryFrom_toText (Ne.symm h.1) with ⟨t, htext, hblank, hread⟩
      rcases ih h.2 with ⟨words, hwords, hblanks, hreads⟩
      refine ⟨t :: words, ?_, ?_, ?_⟩
      · rw [List.mapM_cons, htext, hwords]
        rfl
      · intro w hw
        rcases List.mem_cons.mp hw with rfl | hw
        · exact hblank
        · exact hblanks w hw
      · rw [List.map_cons, hread, hreads]

theorem ICEOptions.tryFrom_toText {value : ICEOptions} (h : value.Printable) :
    ∃ t, value.toText = .ok ("ice-options:".toList ++ t) ∧
      ICEOptions.tryFrom ("ice-options:".toList ++ t) = .ok value := by
  rcases mapM_iceOption h.supported with ⟨words, hwords, hblanks, hreads⟩
  have hne : words ≠ [] := by
    intro hnil
    rw [hnil] at hreads
    exact h.ne_nil hreads.symm
  refine ⟨unwords words, ?_, ?_⟩
  · rw [ICEOptions.toText, hwords]
    rfl
  · rw [ICEOptions.tryFrom, splitOnce_append (by decide)]
    simp only [okOr, ok_bind, splitOn_unwords hne hblanks, hreads]
    rfl

theorem MediaGroup.tryFrom_group {groupType : Text} {ids : List Text} (htype : ' ' ∉ groupType)
    (hids : AreWords ids) :
    MediaGroup.tryFrom ("group:".toList ++ (groupType ++ ' ' :: unwords ids))
      = if groupType = "BUNDLE".toList then .ok (.bundle ids)
        else if groupType = "LS".toList then .ok (.lipSync ids)
        else .error .malformedAttribute := by
  have hsplit : splitOnce " ".toList (groupType ++ ' ' :: unwords ids)
      = some (groupType, unwords ids) := splitOnce_singleton htype _
  have hwords : (unwords ids).splitOn ' ' = ids := splitOn_unwords hids.ne_nil hids.notMem
  rw [MediaGroup.tryFrom, splitOnce_append (by decide)]
  simp only [okOr, ok_bind, hsplit, hwords]

theorem MediaGroup.tryFrom_toText {value : MediaGroup} (h : value.Printable) :
    ∃ t, value.toText = "group:".toList ++ t ∧
      MediaGroup.tryFrom ("group:".toList ++ t) = .ok value := by
  cases value with
  | bundle ids =>
      refine ⟨"BUNDLE".toList ++ ' ' :: unwords ids, rfl, ?_⟩
      rw [MediaGroup.tryFrom_group (by decide) h]
      rfl
  | lipSync ids =>
      refine ⟨"LS".toList ++ ' ' :: unwords ids, rfl, ?_⟩
      rw [MediaGroup.tryFrom_group (by decide) h]
      rfl

theorem Fingerprint.tryFrom_toText {value : Fingerprint} (h : value.hashFunction ≠ .unsupported) :
    ∃ t, value.toText = .ok ("fingerprint:".toList ++ t) ∧
      Fingerprint.tryFrom ("fingerprint:".toList ++ t) = .ok value := by
  rcases value with ⟨hashFunction, hash⟩
  cases hashFunction with
  | unsupported => exact absurd rfl h
  | sha256 =>
      have hsplit : splitOnce " ".toList ("sha-256".toList ++ ' ' :: hash)
          = some ("sha-256".toList, hash) := splitOnce_singleton (by decide) _
      refine ⟨"sha-256".toList ++ ' ' :: hash, ?_, ?_⟩
      · simp only [Fingerprint.toText, HashFunction.toText, ok_bind, pure_eq_ok, List.append_assoc,
          List.cons_append, List.nil_append]
      · rw [Fingerprint.tryFrom, splitOnce_append (by decide)]
        simp only [okOr, ok_bind, hsplit]
        rfl

theorem MediaCodec.toText_eq {codec : MediaCodec} (h : codec ≠ .unsupported) :
    ∃ t, codec.toText = .ok t ∧
      (if t.map Char.toLower = "h264/90000".toList then MediaCodec.video .h264
        else if t.map Char.toLower = "opus/48000/2".toList then .audio .opus
        else .unsupported) = codec := by
  match codec, h with
  | .audio .opus, _ => exact ⟨"opus/48000/2".toList, rfl, by decide⟩
  | .video .h264, _ => exact ⟨"h264/90000".toList, rfl, by decide⟩
  | .unsupported, h => exact absurd rfl h

theorem RTPMap.tryFrom_toText {value : RTPMap} (h : value.Printable) :
    ∃ t, value.toText = .ok ("rtpmap:".toList ++ t) ∧
      RTPMap.tryFrom ("rtpmap:".toList ++ t) = .ok value := by
  rcases MediaCodec.toText_eq h.codec with ⟨codec, htext, hread⟩
  have hsplit : splitOnce " ".toList (showNat value.payloadNumber ++ ' ' :: codec)
      = some (showNat value.payloadNumber, codec) :=
    splitOnce_singleton (blank_notMem_showNat _) _
  refine ⟨showNat value.payloadNumber ++ ' ' :: codec, ?_, ?_⟩
  · simp only [RTPMap.toText, htext, ok_bind, pure_eq_ok, List.append_assoc, List.cons_append,
      List.nil_append]
  · rw [RTPMap.tryFrom, splitOnce_append (by decide)]
    simp only [okOr, ok_bind, hsplit, parseUsize_showNat h.payloadNumber, hread]
    rfl

theorem MediaSSRC.tryFrom_toText {value : MediaSSRC} (h : value.sourceAttribute.Printable) :
    ∃ t, value.toText = .ok ("ssrc:".toList ++ t) ∧
      MediaSSRC.tryFrom ("ssrc:".toList ++ t) = .ok value := by
  rcases value with ⟨ssrc, sourceAttribute⟩
  cases sourceAttribute with
  | unsupported => exact absurd h id
  | cname name =>
      -- A blank would end the attribute, and a colon the name.
      have hblank : ' ' ∉ "cname".toList ++ ':' :: name := by
        simp only [List.mem_append, List.mem_cons, not_or]
        exact ⟨by decide, by decide, h.1⟩
      have hkey : ':' ∉ "cname".toList := by decide
      have hparse : parseUnsigned (2 ^ 32) (showNat ssrc.toNat) = some ssrc.toNat :=
        parseUnsigned_showNat ssrc.toNat_lt
      refine ⟨showNat ssrc.toNat ++ ' ' :: ("cname".toList ++ ':' :: name), ?_, ?_⟩
      · simp only [MediaSSRC.toText, SourceAttribute.toText, ok_bind, pure_eq_ok, List.append_assoc,
          List.cons_append, List.nil_append]
        rfl
      · rw [MediaSSRC.tryFrom, splitOnce_append (by decide)]
        simp only [okOr, ok_bind, List.splitOn_append_cons_self_of_not_mem (blank_notMem_showNat _),
          List.splitOn_eq_singleton hblank, List.getElem?_cons_zero, List.getElem?_cons_succ,
          hparse, SourceAttribute.tryFrom, List.splitOn_append_cons_self_of_not_mem hkey,
          List.splitOn_eq_singleton h.2, if_true, UInt32.ofNat_toNat]
        rfl

theorem FMTP.tryFrom_toText {value : FMTP} (order : Enumeration Text) (h : value.Printable) :
    ∃ t, value.toText order = "fmtp:".toList ++ t ∧
      FMTP.tryFrom ("fmtp:".toList ++ t) = .ok value := by
  rcases value with ⟨payloadNumber, formatCapability⟩
  have hsplit : splitOnce " ".toList (showNat payloadNumber ++ ' ' ::
      [';'].intercalate (order.list formatCapability))
      = some (showNat payloadNumber, [';'].intercalate (order.list formatCapability)) :=
    splitOnce_singleton (blank_notMem_showNat _) _
  have hne : order.list formatCapability ≠ [] := by
    rcases h.nonempty with ⟨c, hc⟩
    exact List.ne_nil_of_mem ((order.mem _ c).mpr hc)
  have hfree : ∀ c ∈ order.list formatCapability, ';' ∉ c := fun c hc =>
    h.notMem c ((order.mem _ c).mp hc)
  -- Whatever the order, reading the parameters gives the set they are from.
  have hset : (order.list formatCapability).toFinset = formatCapability := by
    ext c
    rw [List.mem_toFinset, order.mem]
  refine ⟨showNat payloadNumber ++ ' ' :: [';'].intercalate (order.list formatCapability), ?_, ?_⟩
  · unfold FMTP.toText
    simp only [List.append_assoc, List.cons_append, List.nil_append]
  · rw [FMTP.tryFrom, splitOnce_append (by decide)]
    simp only [okOr, ok_bind, hsplit, parseUsize_showNat h.payloadNumber,
      List.splitOn_intercalate ';' hfree hne, hset]
    rfl

theorem Setup.tryFrom_toText (value : Setup) :
    ∃ t, value.toText = "setup:".toList ++ t ∧
      Setup.tryFrom ("setup:".toList ++ t) = .ok value := by
  cases value with
  | activePassive => exact ⟨"actpass".toList, rfl, rfl⟩
  | active => exact ⟨"active".toList, rfl, rfl⟩
  | passive => exact ⟨"passive".toList, rfl, rfl⟩

theorem Candidate.tryFrom_toText {value : Candidate} (h : value.Printable) :
    ∃ t, value.toText = "candidate:".toList ++ t ∧
      Candidate.tryFrom ("candidate:".toList ++ t) = .ok value := by
  rcases value with ⟨foundation, componentId, priority, address, port⟩
  have hudp : " UDP ".toList = ' ' :: ("UDP".toList ++ [' ']) := by decide
  have hhost : " typ host".toList = ' ' :: ("typ".toList ++ ' ' :: "host".toList) := by decide
  have hblank : ' ' ∉ "UDP".toList := by decide
  have hip : ' ' ∉ showIp address := notMem_showIp (by decide) address
  have hport : parseUnsigned (2 ^ 16) (showNat port.toNat) = some port.toNat :=
    parseUnsigned_showNat port.toNat_lt
  -- The fields in their order, each up to its blank.
  refine ⟨foundation ++ ' ' :: (showNat componentId ++ ' ' :: ("UDP".toList ++ ' ' ::
    (showNat priority ++ ' ' :: (showIp address ++ ' ' :: (showNat port.toNat ++ ' ' ::
      ("typ".toList ++ ' ' :: "host".toList)))))), ?_, ?_⟩
  · unfold Candidate.toText
    simp only [hudp, hhost, List.append_assoc, List.cons_append, List.nil_append]
  · rw [Candidate.tryFrom, splitOnce_append (by decide)]
    simp only [okOr, ok_bind, List.splitOn_append_cons_self_of_not_mem h.foundation,
      List.splitOn_append_cons_self_of_not_mem (blank_notMem_showNat _),
      List.splitOn_append_cons_self_of_not_mem hblank,
      List.splitOn_append_cons_self_of_not_mem hip, List.getElem?_cons_zero,
      List.getElem?_cons_succ, parseUsize_showNat h.componentId, parseUsize_showNat h.priority,
      parseIp_showIp, hport, ne_eq, not_true_eq_false, if_false, Option.bind_some,
      UInt16.ofNat_toNat]
    rfl

/-- The key of an attribute runs to the first colon. -/
theorem attribute_key (key : Text) {keyed : Text} (hkeyed : keyed = key ++ [':']) (hkey : ':' ∉ key)
    (t : Text) : ((keyed ++ t).splitOn ':').head? = some key := by
  rw [hkeyed, List.append_assoc, List.singleton_append,
    List.splitOn_append_cons_self_of_not_mem hkey, List.head?_cons]

theorem splitOnce_attribute (value : Text) :
    splitOnce "a=".toList ("a=".toList ++ value) = some ([], value) :=
  splitOnce_append (by decide) value

/-- A printable attribute is printed, and read back. -/
theorem Attribute.tryFrom_toText {value : Attribute} (order : Enumeration Text)
    (h : value.Printable) :
    ∃ t, value.toText order = .ok ("a=".toList ++ t) ∧
      Attribute.tryFrom ("a=".toList ++ t) = .ok value := by
  cases value with
  -- Neither of these two is printed in a form that is read back.
  | unrecognized => exact absurd h id
  | iceLite => exact absurd h id
  | endOfCandidates => exact ⟨"end-of-candidates".toList, rfl, rfl⟩
  | sendOnly => exact ⟨"sendonly".toList, rfl, rfl⟩
  | receiveOnly => exact ⟨"recvonly".toList, rfl, rfl⟩
  | rtcpMux => exact ⟨"rtcp-mux".toList, rfl, rfl⟩
  -- The others are printed under a key, which the reader goes by, and then
  -- in a form of their own.
  | mediaID attr =>
      have hkey : (("mid:".toList ++ attr.id).splitOn ':').head? = some "mid".toList :=
        attribute_key "mid".toList rfl (by decide) attr.id
      have hread : MediaID.tryFrom ("mid:".toList ++ attr.id) = .ok attr := by
        rw [MediaID.tryFrom, splitOnce_append (by decide)]
        rfl
      refine ⟨"mid:".toList ++ attr.id, rfl, ?_⟩
      rw [Attribute.tryFrom, splitOnce_attribute]
      simp only [okOr, ok_bind, hkey, hread]
      rfl
  | iceUsername attr =>
      have hkey : (("ice-ufrag:".toList ++ attr.username).splitOn ':').head?
          = some "ice-ufrag".toList :=
        attribute_key "ice-ufrag".toList rfl (by decide) attr.username
      have hread : ICEUsername.tryFrom ("ice-ufrag:".toList ++ attr.username) = .ok attr := by
        rw [ICEUsername.tryFrom, splitOnce_append (by decide)]
        rfl
      refine ⟨"ice-ufrag:".toList ++ attr.username, rfl, ?_⟩
      rw [Attribute.tryFrom, splitOnce_attribute]
      simp only [okOr, ok_bind, hkey, hread]
      rfl
  | icePassword attr =>
      have hkey : (("ice-pwd:".toList ++ attr.password).splitOn ':').head?
          = some "ice-pwd".toList :=
        attribute_key "ice-pwd".toList rfl (by decide) attr.password
      have hread : ICEPassword.tryFrom ("ice-pwd:".toList ++ attr.password) = .ok attr := by
        rw [ICEPassword.tryFrom, splitOnce_append (by decide)]
        rfl
      refine ⟨"ice-pwd:".toList ++ attr.password, rfl, ?_⟩
      rw [Attribute.tryFrom, splitOnce_attribute]
      simp only [okOr, ok_bind, hkey, hread]
      rfl
  | iceOptions attr =>
      rcases ICEOptions.tryFrom_toText h with ⟨t, htext, hread⟩
      have hkey : (("ice-options:".toList ++ t).splitOn ':').head? = some "ice-options".toList :=
        attribute_key "ice-options".toList rfl (by decide) t
      refine ⟨"ice-options:".toList ++ t, ?_, ?_⟩
      · simp only [Attribute.toText, Attribute.attributeName, htext, ok_bind, pure_eq_ok]
      · rw [Attribute.tryFrom, splitOnce_attribute]
        simp only [okOr, ok_bind, hkey, hread]
        rfl
  | fingerprint attr =>
      rcases Fingerprint.tryFrom_toText h with ⟨t, htext, hread⟩
      have hkey : (("fingerprint:".toList ++ t).splitOn ':').head? = some "fingerprint".toList :=
        attribute_key "fingerprint".toList rfl (by decide) t
      refine ⟨"fingerprint:".toList ++ t, ?_, ?_⟩
      · simp only [Attribute.toText, Attribute.attributeName, htext, ok_bind, pure_eq_ok]
      · rw [Attribute.tryFrom, splitOnce_attribute]
        simp only [okOr, ok_bind, hkey, hread]
        rfl
  | mediaGroup attr =>
      rcases MediaGroup.tryFrom_toText h with ⟨t, htext, hread⟩
      have hkey : (("group:".toList ++ t).splitOn ':').head? = some "group".toList :=
        attribute_key "group".toList rfl (by decide) t
      refine ⟨"group:".toList ++ t, ?_, ?_⟩
      · simp only [Attribute.toText, Attribute.attributeName, htext, ok_bind, pure_eq_ok]
      · rw [Attribute.tryFrom, splitOnce_attribute]
        simp only [okOr, ok_bind, hkey, hread]
        rfl
  | mediaSSRC attr =>
      rcases MediaSSRC.tryFrom_toText h with ⟨t, htext, hread⟩
      have hkey : (("ssrc:".toList ++ t).splitOn ':').head? = some "ssrc".toList :=
        attribute_key "ssrc".toList rfl (by decide) t
      refine ⟨"ssrc:".toList ++ t, ?_, ?_⟩
      · simp only [Attribute.toText, Attribute.attributeName, htext, ok_bind, pure_eq_ok]
      · rw [Attribute.tryFrom, splitOnce_attribute]
        simp only [okOr, ok_bind, hkey, hread]
        rfl
  | rtpMap attr =>
      rcases RTPMap.tryFrom_toText h with ⟨t, htext, hread⟩
      have hkey : (("rtpmap:".toList ++ t).splitOn ':').head? = some "rtpmap".toList :=
        attribute_key "rtpmap".toList rfl (by decide) t
      refine ⟨"rtpmap:".toList ++ t, ?_, ?_⟩
      · simp only [Attribute.toText, Attribute.attributeName, htext, ok_bind, pure_eq_ok]
      · rw [Attribute.tryFrom, splitOnce_attribute]
        simp only [okOr, ok_bind, hkey, hread]
        rfl
  | fmtp attr =>
      rcases FMTP.tryFrom_toText order h with ⟨t, htext, hread⟩
      have hkey : (("fmtp:".toList ++ t).splitOn ':').head? = some "fmtp".toList :=
        attribute_key "fmtp".toList rfl (by decide) t
      refine ⟨"fmtp:".toList ++ t, ?_, ?_⟩
      · simp only [Attribute.toText, Attribute.attributeName, htext, ok_bind, pure_eq_ok]
      · rw [Attribute.tryFrom, splitOnce_attribute]
        simp only [okOr, ok_bind, hkey, hread]
        rfl
  | setup attr =>
      rcases Setup.tryFrom_toText attr with ⟨t, htext, hread⟩
      have hkey : (("setup:".toList ++ t).splitOn ':').head? = some "setup".toList :=
        attribute_key "setup".toList rfl (by decide) t
      refine ⟨"setup:".toList ++ t, ?_, ?_⟩
      · simp only [Attribute.toText, Attribute.attributeName, htext, ok_bind, pure_eq_ok]
      · rw [Attribute.tryFrom, splitOnce_attribute]
        simp only [okOr, ok_bind, hkey, hread]
        rfl
  | candidate attr =>
      rcases Candidate.tryFrom_toText h with ⟨t, htext, hread⟩
      have hkey : (("candidate:".toList ++ t).splitOn ':').head? = some "candidate".toList :=
        attribute_key "candidate".toList rfl (by decide) t
      refine ⟨"candidate:".toList ++ t, ?_, ?_⟩
      · simp only [Attribute.toText, Attribute.attributeName, htext, ok_bind, pure_eq_ok]
      · rw [Attribute.tryFrom, splitOnce_attribute]
        simp only [okOr, ok_bind, hkey, hread]
        rfl

/-- A printable line is printed, and read back. -/
theorem SDPLine.tryFrom_toText {value : SDPLine} (order : Enumeration Text) (h : value.Printable) :
    ∃ t, value.toText order = .ok t ∧ SDPLine.tryFrom t = .ok value := by
  -- The type of a line is what stands before the first equals sign.
  have htype : ∀ ty t : Text, '=' ∉ ty →
      splitOnce "=".toList (ty ++ '=' :: t) = some (ty, t) := fun _ t hty =>
    splitOnce_singleton hty t
  cases value with
  | unrecognized => exact absurd h id
  | protocolVersion proto =>
      have hsplit : splitOnce "=".toList ("v=".toList ++ proto) = some ("v".toList, proto) :=
        htype "v".toList proto (by decide)
      refine ⟨"v=".toList ++ proto, rfl, ?_⟩
      rw [SDPLine.tryFrom, hsplit]
      rfl
  | sessionName name =>
      have hsplit : splitOnce "=".toList ("s=".toList ++ name) = some ("s".toList, name) :=
        htype "s".toList name (by decide)
      refine ⟨"s=".toList ++ name, rfl, ?_⟩
      rw [SDPLine.tryFrom, hsplit]
      rfl
  | originator attr =>
      have hsplit : ∃ t, splitOnce "=".toList attr.toText = some ("o".toList, t) :=
        ⟨_, htype "o".toList _ (by decide)⟩
      rcases hsplit with ⟨t, hsplit⟩
      refine ⟨attr.toText, rfl, ?_⟩
      rw [SDPLine.tryFrom, hsplit]
      simp only [okOr, ok_bind, Originator.tryFrom_toText h]
      rfl
  | sessionTime attr =>
      have hsplit : ∃ t, splitOnce "=".toList attr.toText = some ("t".toList, t) :=
        ⟨_, htype "t".toList _ (by decide)⟩
      rcases hsplit with ⟨t, hsplit⟩
      refine ⟨attr.toText, rfl, ?_⟩
      rw [SDPLine.tryFrom, hsplit]
      simp only [okOr, ok_bind, SessionTime.tryFrom_toText h]
      rfl
  | connectionData attr =>
      have hsplit : ∃ t, splitOnce "=".toList attr.toText = some ("c".toList, t) :=
        ⟨_, htype "c".toList _ (by decide)⟩
      rcases hsplit with ⟨t, hsplit⟩
      refine ⟨attr.toText, rfl, ?_⟩
      rw [SDPLine.tryFrom, hsplit]
      simp only [okOr, ok_bind, ConnectionData.tryFrom_toText attr]
      rfl
  | mediaDescription attr =>
      have hsplit : ∃ t, splitOnce "=".toList attr.toText = some ("m".toList, t) :=
        ⟨_, htype "m".toList _ (by decide)⟩
      rcases hsplit with ⟨t, hsplit⟩
      refine ⟨attr.toText, rfl, ?_⟩
      rw [SDPLine.tryFrom, hsplit]
      simp only [okOr, ok_bind, MediaDescription.tryFrom_toText h]
      rfl
  | attr attr =>
      rcases Attribute.tryFrom_toText order h with ⟨t, htext, hread⟩
      have hsplit : splitOnce "=".toList ("a=".toList ++ t) = some ("a".toList, t) :=
        htype "a".toList t (by decide)
      refine ⟨"a=".toList ++ t, htext, ?_⟩
      rw [SDPLine.tryFrom, hsplit]
      simp only [okOr, ok_bind, hread]
      rfl

end Reading

end Sdp

end SigmaMedia
