import SigmaMedia.Theory.Sdp.Printed

/-!
# Lines Printed and Read Back

Printing a line that was read, and reading it again, gives the line. What is
left to show is that a line that was read is printable, and it is because
every part of it is a piece of a split or a number below its bound.

`Attribute.readFrom_of_tryFrom` and `SDPLine.readFrom_of_tryFrom` say once
which reader a value came from, so that a fact about a kind of line never
looks at the keys of the others. The values that cannot be printed, an unknown
line and a part that was not understood, are left out by `HasWireForm`.

## Main definitions

* `HasWireForm`: The line was understood in all its parts.
* `Attribute.ReadFrom`, `SDPLine.ReadFrom`: The reader of its kind gave it.

## Theorems

* `SDPLine.printable_of_tryFrom`: A line that was read is printable.
* `tryFrom_toText_of_tryFrom`: A line that was read is read back.
-/

namespace SigmaMedia

namespace Sdp

open Exec Net Text

/-- The line was understood in all its parts. -/
def HasWireForm : SDPLine → Prop
  | .unrecognized => False
  | .attr .unrecognized => False
  | .attr (.iceOptions value) => ICEOption.unsupported ∉ value.options
  | .attr (.fingerprint value) => value.hashFunction ≠ .unsupported
  | .attr (.rtpMap value) => value.codec ≠ .unsupported
  | .attr (.mediaSSRC value) => value.sourceAttribute ≠ .unsupported
  | _ => True

section Read

/-- A number that was read fits its word. -/
theorem isUsize_of_parse {t : Text} {n : Nat} (h : parseUsize t = some n) : IsUsize n :=
  parseUnsigned_lt (by decide) h

/-- A piece of a split at blanks has none. -/
theorem blank_notMem_of_getElem? {t piece : Text} {i : Nat} (h : (t.splitOn ' ')[i]? = some piece) :
    ' ' ∉ piece :=
  notMem_of_mem_splitOn (List.mem_of_getElem? h)

theorem areWords_splitOn (t : Text) : AreWords (t.splitOn ' ') :=
  ⟨List.splitOn_ne_nil ' ' t, fun _ hw => notMem_of_mem_splitOn hw⟩

theorem isUsize_of_mapM {pieces : List Text} {formats : List Nat}
    (h : pieces.mapM parseUsize = some formats) : ∀ n ∈ formats, IsUsize n := by
  -- Over the pieces; each number was parsed on its own.
  induction pieces generalizing formats with
  | nil =>
      cases h
      exact fun n hn => absurd hn List.not_mem_nil
  | cons piece pieces ih =>
      simp only [List.mapM_cons, Option.bind_eq_bind, Option.bind_eq_some_iff] at h
      rcases h with ⟨m, hm, ms, hms, hformats⟩
      cases hformats
      intro n hn
      rcases List.mem_cons.mp hn with rfl | hn
      · exact isUsize_of_parse hm
      · exact ih hms n hn

theorem MediaDescription.printable_of_tryFrom {t : Text} {value : MediaDescription}
    (h : MediaDescription.tryFrom t = .ok value) : value.Printable := by
  simp only [MediaDescription.tryFrom, bind_eq_ok, okOr_eq_ok, Option.bind_eq_some_iff] at h
  rcases h with ⟨_, _, _, _, _, _, port, ⟨_, _, hport⟩, _, _, _, _, formats, hformats, hvalue⟩
  cases hvalue
  exact ⟨isUsize_of_parse hport, isUsize_of_mapM hformats⟩

theorem Originator.printable_of_tryFrom {t : Text} {value : Originator}
    (h : Originator.tryFrom t = .ok value) : value.Printable := by
  simp only [Originator.tryFrom, bind_eq_ok, okOr_eq_ok] at h
  rcases h with ⟨_, _, username, h0, sessionId, h1, sessionVersion, h2, network, _, h⟩
  split at h
  · cases h
  simp only [bind_eq_ok, okOr_eq_ok] at h
  rcases h with ⟨_, _, _, _, hvalue⟩
  cases hvalue
  exact ⟨blank_notMem_of_getElem? h0, blank_notMem_of_getElem? h1, blank_notMem_of_getElem? h2⟩

theorem SessionTime.printable_of_tryFrom {t : Text} {value : SessionTime}
    (h : SessionTime.tryFrom t = .ok value) : value.Printable := by
  simp only [SessionTime.tryFrom, bind_eq_ok, okOr_eq_ok] at h
  rcases h with ⟨_, _, _, _, _, hstart, _, hend, hvalue⟩
  cases hvalue
  exact ⟨isUsize_of_parse hstart, isUsize_of_parse hend⟩

theorem ICEOptions.printable_of_tryFrom {t : Text} {value : ICEOptions}
    (h : ICEOptions.tryFrom t = .ok value) (hwire : ICEOption.unsupported ∉ value.options) :
    value.Printable := by
  simp only [ICEOptions.tryFrom, bind_eq_ok, okOr_eq_ok] at h
  rcases h with ⟨_, _, hvalue⟩
  cases hvalue
  refine ⟨?_, hwire⟩
  rw [ne_eq, List.map_eq_nil_iff]
  exact List.splitOn_ne_nil ' ' _

theorem MediaGroup.printable_of_tryFrom {t : Text} {value : MediaGroup}
    (h : MediaGroup.tryFrom t = .ok value) : value.Printable := by
  simp only [MediaGroup.tryFrom, bind_eq_ok, okOr_eq_ok] at h
  rcases h with ⟨_, _, _, _, h⟩
  split at h
  · cases h
    exact areWords_splitOn _
  · split at h
    · cases h
      exact areWords_splitOn _
    · cases h

theorem RTPMap.printable_of_tryFrom {t : Text} {value : RTPMap} (h : RTPMap.tryFrom t = .ok value)
    (hwire : value.codec ≠ .unsupported) : value.Printable := by
  simp only [RTPMap.tryFrom, bind_eq_ok, okOr_eq_ok] at h
  rcases h with ⟨_, _, _, _, _, hnumber, hvalue⟩
  cases hvalue
  exact ⟨hwire, isUsize_of_parse hnumber⟩

theorem MediaSSRC.printable_of_tryFrom {t : Text} {value : MediaSSRC}
    (h : MediaSSRC.tryFrom t = .ok value) (hwire : value.sourceAttribute ≠ .unsupported) :
    value.sourceAttribute.Printable := by
  simp only [MediaSSRC.tryFrom, SourceAttribute.tryFrom, bind_eq_ok, okOr_eq_ok] at h
  rcases h with ⟨_, _, _, _, _, _, source, hsource, _, ⟨key, hkey, h⟩, hvalue⟩
  cases hvalue
  split at h
  · simp only [bind_eq_ok, okOr_eq_ok] at h
    rcases h with ⟨name, hname, h⟩
    cases h
    refine ⟨?_, notMem_of_mem_splitOn (List.mem_of_getElem? hname)⟩
    intro hblank
    -- The name is a piece of a piece.
    exact blank_notMem_of_getElem? hsource (of_mem_splitOn (List.mem_of_getElem? hname) hblank).1
  · cases h
    exact absurd rfl hwire

theorem FMTP.printable_of_tryFrom {t : Text} {value : FMTP} (h : FMTP.tryFrom t = .ok value) :
    value.Printable := by
  simp only [FMTP.tryFrom, bind_eq_ok, okOr_eq_ok] at h
  rcases h with ⟨_, _, _, _, _, hnumber, hvalue⟩
  cases hvalue
  refine ⟨isUsize_of_parse hnumber, ?_, ?_⟩
  · exact List.toFinset_nonempty_iff _ |>.mpr (List.splitOn_ne_nil ';' _)
  · intro c hc
    exact notMem_of_mem_splitOn (List.mem_toFinset.mp hc)

theorem Candidate.printable_of_tryFrom {t : Text} {value : Candidate}
    (h : Candidate.tryFrom t = .ok value) : value.Printable := by
  simp only [Candidate.tryFrom, bind_eq_ok, okOr_eq_ok] at h
  rcases h with ⟨_, _, foundation, h0, _, _, component, hcomponent, protocol, _, h⟩
  split at h
  · cases h
  simp only [bind_eq_ok, okOr_eq_ok, Option.bind_eq_some_iff] at h
  rcases h with ⟨_, ⟨_, _, hpriority⟩, _, _, _, _, hvalue⟩
  cases hvalue
  exact ⟨blank_notMem_of_getElem? h0, isUsize_of_parse hcomponent, isUsize_of_parse hpriority⟩

/-- A branch that gives a value is one of the two. -/
theorem ite_cases {ε α : Type} {p P : Prop} [Decidable p] {x y : Except ε α} {a : α}
    (h : (if p then x else y) = .ok a) (hx : x = .ok a → P) (hy : y = .ok a → P) : P := by
  by_cases hp : p
  · rw [if_pos hp] at h
    exact hx h
  · rw [if_neg hp] at h
    exact hy h

/-- A value that was read and wrapped up is the wrapping of one. -/
theorem wrap_cases {ε α β : Type} {x : Except ε α} {wrap : α → β} {b : β} {P : β → Prop}
    (hP : ∀ a, x = .ok a → P (wrap a)) (h : (x >>= fun a => .ok (wrap a)) = .ok b) : P b := by
  rcases bind_eq_ok.mp h with ⟨a, ha, hb⟩
  cases hb
  exact hP a ha

theorem ok_cases {ε β : Type} {a b : β} {P : β → Prop} (hP : P a)
    (h : (.ok a : Except ε β) = .ok b) : P b := by
  cases h
  exact hP

/-- The reader of its kind gave an attribute from a text. -/
def Attribute.ReadFrom (t : Text) : Attribute → Prop
  | .iceLite => False
  | .unrecognized | .endOfCandidates | .sendOnly | .receiveOnly | .rtcpMux => True
  | .mediaID value => MediaID.tryFrom t = .ok value
  | .iceUsername value => ICEUsername.tryFrom t = .ok value
  | .icePassword value => ICEPassword.tryFrom t = .ok value
  | .setup value => Setup.tryFrom t = .ok value
  | .iceOptions value => ICEOptions.tryFrom t = .ok value
  | .fingerprint value => Fingerprint.tryFrom t = .ok value
  | .mediaGroup value => MediaGroup.tryFrom t = .ok value
  | .mediaSSRC value => MediaSSRC.tryFrom t = .ok value
  | .rtpMap value => RTPMap.tryFrom t = .ok value
  | .fmtp value => FMTP.tryFrom t = .ok value
  | .candidate value => Candidate.tryFrom t = .ok value

/-- An attribute is read from the end of its line by the reader of its
    kind. -/
theorem Attribute.readFrom_of_tryFrom {t : Text} {value : Attribute}
    (h : Attribute.tryFrom t = .ok value) : ∃ rest, rest <:+ t ∧ value.ReadFrom rest := by
  rcases bind_eq_ok.mp h with ⟨⟨before, rest⟩, hsplit, h⟩
  rcases bind_eq_ok.mp h with ⟨key, _, h⟩
  -- One branch for each key, in the order of the code.
  refine ⟨rest, suffix_of_splitOnce (okOr_eq_ok.mp hsplit), ?_⟩
  refine ite_cases h (wrap_cases fun _ ha => ha) fun h => ?_
  refine ite_cases h (wrap_cases fun _ ha => ha) fun h => ?_
  refine ite_cases h (wrap_cases fun _ ha => ha) fun h => ?_
  refine ite_cases h (wrap_cases fun _ ha => ha) fun h => ?_
  refine ite_cases h (wrap_cases fun _ ha => ha) fun h => ?_
  refine ite_cases h (ok_cases trivial) fun h => ?_
  refine ite_cases h (ok_cases trivial) fun h => ?_
  refine ite_cases h (wrap_cases fun _ ha => ha) fun h => ?_
  refine ite_cases h (wrap_cases fun _ ha => ha) fun h => ?_
  refine ite_cases h (wrap_cases fun _ ha => ha) fun h => ?_
  refine ite_cases h (wrap_cases fun _ ha => ha) fun h => ?_
  refine ite_cases h (ok_cases trivial) fun h => ?_
  refine ite_cases h (wrap_cases fun _ ha => ha) fun h => ?_
  refine ite_cases h (ok_cases trivial) fun h => ?_
  refine ite_cases h (wrap_cases fun _ ha => ha) fun h => ?_
  cases h
  trivial

/-- The reader of its kind gave a line from a text. -/
def SDPLine.ReadFrom (t : Text) : SDPLine → Prop
  | .unrecognized | .protocolVersion _ | .sessionName _ => True
  | .originator value => Originator.tryFrom t = .ok value
  | .sessionTime value => SessionTime.tryFrom t = .ok value
  | .connectionData value => ConnectionData.tryFrom t = .ok value
  | .attr value => Attribute.tryFrom t = .ok value
  | .mediaDescription value => MediaDescription.tryFrom t = .ok value

/-- A line is read by the reader of its kind. -/
theorem SDPLine.readFrom_of_tryFrom {t : Text} {value : SDPLine}
    (h : SDPLine.tryFrom t = .ok value) : value.ReadFrom t := by
  rcases bind_eq_ok.mp h with ⟨⟨sdpType, rest⟩, _, h⟩
  refine ite_cases h (ok_cases trivial) fun h => ?_
  refine ite_cases h (wrap_cases fun _ ha => ha) fun h => ?_
  refine ite_cases h (wrap_cases fun _ ha => ha) fun h => ?_
  refine ite_cases h (ok_cases trivial) fun h => ?_
  refine ite_cases h (wrap_cases fun _ ha => ha) fun h => ?_
  refine ite_cases h (wrap_cases fun _ ha => ha) fun h => ?_
  refine ite_cases h (wrap_cases fun _ ha => ha) fun h => ?_
  cases h
  trivial

/-- An attribute that was read is printable, if it was understood. -/
theorem Attribute.printable_of_tryFrom {t : Text} {value : Attribute}
    (h : Attribute.tryFrom t = .ok value) (hwire : HasWireForm (.attr value)) :
    value.Printable := by
  rcases Attribute.readFrom_of_tryFrom h with ⟨rest, _, hread⟩
  cases value with
  -- Reading never gives an ice-lite line: its key is not among the known ones.
  | unrecognized => exact hwire
  | iceLite => exact hread
  | endOfCandidates => trivial
  | sendOnly => trivial
  | receiveOnly => trivial
  | rtcpMux => trivial
  | mediaID attr => trivial
  | iceUsername attr => trivial
  | icePassword attr => trivial
  | setup attr => trivial
  | iceOptions attr => exact ICEOptions.printable_of_tryFrom hread hwire
  | fingerprint attr => exact hwire
  | mediaGroup attr => exact MediaGroup.printable_of_tryFrom hread
  | mediaSSRC attr => exact MediaSSRC.printable_of_tryFrom hread hwire
  | rtpMap attr => exact RTPMap.printable_of_tryFrom hread hwire
  | fmtp attr => exact FMTP.printable_of_tryFrom hread
  | candidate attr => exact Candidate.printable_of_tryFrom hread

/-- A line that was read is printable, if it was understood. -/
theorem SDPLine.printable_of_tryFrom {t : Text} {value : SDPLine}
    (h : SDPLine.tryFrom t = .ok value) (hwire : HasWireForm value) : value.Printable := by
  have hread := SDPLine.readFrom_of_tryFrom h
  cases value with
  | unrecognized => exact hwire
  | protocolVersion proto => trivial
  | sessionName name => trivial
  | connectionData attr => trivial
  | originator attr => exact Originator.printable_of_tryFrom hread
  | sessionTime attr => exact SessionTime.printable_of_tryFrom hread
  | mediaDescription attr => exact MediaDescription.printable_of_tryFrom hread
  | attr attr => exact Attribute.printable_of_tryFrom hread hwire

end Read

/-- Printing a line that was read and understood, in any order of its format
    parameters, and reading it again gives the line. -/
theorem tryFrom_toText_of_tryFrom (order : Enumeration Text) (x : Text) (l : SDPLine)
    (h : SDPLine.tryFrom x = .ok l) (hwire : HasWireForm l) :
    ∃ t, l.toText order = .ok t ∧ SDPLine.tryFrom t = .ok l :=
  SDPLine.tryFrom_toText order (SDPLine.printable_of_tryFrom h hwire)

theorem tryFrom_toText_of_tryFrom_fmtp :
    ∃ t, (SDPLine.attr (.fmtp ⟨96, {"b=2".toList, "a=1".toList}⟩)).toText Enumeration.arbitrary
        = .ok t ∧
      SDPLine.tryFrom t = .ok (.attr (.fmtp ⟨96, {"b=2".toList, "a=1".toList}⟩)) :=
  tryFrom_toText_of_tryFrom Enumeration.arbitrary "a=fmtp:+96 a=1;b=2;a=1".toList _ rfl trivial

end Sdp

end SigmaMedia
