import SigmaMedia.Core.Sdp.Resolver

/-!
# Searches

Every question asked of a section is a search for the first line with an
answer. Proofs use a search in one of three forms. A search that answers for
one kind of line finds the first line of that kind, with some of the values
passed over if the question is about others. Whether a search finds anything
depends on the lines and not on their order. And where at most one line has an
answer, neither does what it finds.

## Main definitions

* `First`: The first line of a kind.
* `answers`: All answers of a section, in order.

## Theorems

* `findSome?_eq_some_iff_allowed`, `findSome?_eq_some_iff_first`: What a search
  for a kind of line finds.
* `exists_first`, `exists_first_allowed`: There is a first line of a kind if
  there is one.
* `findAttribute_isSome`: When a search finds something.
* `findAttribute_perm`: A single answer is found in any order.
-/

namespace SigmaMedia

namespace Sdp

open Exec Net Text

/-- The value of the first line of a kind. -/
def First {α : Type} (kind : α → SDPLine) (lines : List SDPLine) (value : α) : Prop :=
  ∃ before after, lines = before ++ kind value :: after ∧ ∀ other, kind other ∉ before

/-- All answers of a section, in order. -/
def answers {α : Type} (ask : Attribute → Option α) (lines : List SDPLine) : List α :=
  lines.filterMap fun
    | .attr attr => ask attr
    | _ => none

section Kind

variable {α : Type} {kind : α → SDPLine} {ask : SDPLine → Option α} {lines : List SDPLine}
  {value : α}

/-- A search that answers for one kind of line, and for some values only, finds
    the first line of the kind with such a value. -/
theorem findSome?_eq_some_iff_allowed {allowed : α → Prop}
    (hkind : ∀ line value, ask line = some value ↔ allowed value ∧ line = kind value) :
    lines.findSome? ask = some value ↔ ∃ before after, lines = before ++ kind value :: after ∧
      allowed value ∧ ∀ other, allowed other → kind other ∉ before := by
  -- A line that gives no answer is one that is of no allowed kind.
  have hbefore : ∀ before : List SDPLine, (∀ line ∈ before, ask line = none) ↔
      ∀ other, allowed other → kind other ∉ before := by
    intro before
    constructor
    · intro h other hallowed hmem
      have hask := (hkind (kind other) other).mpr ⟨hallowed, rfl⟩
      rw [h _ hmem] at hask
      cases hask
    · intro h line hline
      by_contra hask
      rcases Option.ne_none_iff_exists'.mp hask with ⟨other, hother⟩
      rcases (hkind line other).mp hother with ⟨hallowed, rfl⟩
      exact h other hallowed hline
  rw [List.findSome?_eq_some_iff]
  constructor
  · intro h
    rcases h with ⟨before, line, after, rfl, hline, hnone⟩
    rcases (hkind line value).mp hline with ⟨hallowed, rfl⟩
    exact ⟨before, after, rfl, hallowed, (hbefore before).mp hnone⟩
  · intro h
    rcases h with ⟨before, after, rfl, hallowed, hnone⟩
    exact ⟨before, kind value, after, rfl, (hkind _ _).mpr ⟨hallowed, rfl⟩,
      (hbefore before).mpr hnone⟩

/-- A search that answers for one kind of line finds the first of it. -/
theorem findSome?_eq_some_iff_first
    (hkind : ∀ line value, ask line = some value ↔ line = kind value) :
    lines.findSome? ask = some value ↔ First kind lines value := by
  have hall : ∀ line value, ask line = some value ↔ True ∧ line = kind value := by
    intro line value
    rw [true_and]
    exact hkind line value
  rw [findSome?_eq_some_iff_allowed hall]
  simp only [First, true_and, true_implies]

/-- There is a first line of a kind exactly when there is one. -/
theorem exists_first : (∃ value, First kind lines value) ↔ ∃ value, kind value ∈ lines := by
  constructor
  · intro h
    rcases h with ⟨value, before, after, rfl, _⟩
    exact ⟨value, List.mem_append_right before List.mem_cons_self⟩
  · intro h
    induction lines with
    | nil =>
        rcases h with ⟨value, hmem⟩
        cases hmem
    | cons line lines ih =>
        by_cases hline : ∃ value, line = kind value
        · rcases hline with ⟨value, rfl⟩
          exact ⟨value, [], lines, rfl, fun _ => List.not_mem_nil⟩
        · -- The line is of another kind, so the first one is further on.
          have hrest : ∃ value, kind value ∈ lines := by
            rcases h with ⟨value, hmem⟩
            rcases List.mem_cons.mp hmem with heq | hmem
            · exact absurd ⟨value, heq.symm⟩ hline
            · exact ⟨value, hmem⟩
          rcases ih hrest with ⟨value, before, after, rfl, hbefore⟩
          refine ⟨value, line :: before, after, rfl, fun other hmem => ?_⟩
          rcases List.mem_cons.mp hmem with heq | hmem
          · exact hline ⟨other, heq.symm⟩
          · exact hbefore other hmem

/-- The same, with some of the values passed over. -/
theorem exists_first_allowed {allowed : α → Prop} :
    (∃ value before after, lines = before ++ kind value :: after ∧ allowed value ∧
        ∀ other, allowed other → kind other ∉ before) ↔
      ∃ value, allowed value ∧ kind value ∈ lines := by
  -- The values that are not passed over are a kind of their own.
  have hfirst : (∃ value : Subtype allowed, First (fun v => kind v.val) lines value) ↔ _ :=
    exists_first
  simp only [First, Subtype.exists, Subtype.forall] at hfirst
  constructor
  · intro h
    rcases h with ⟨value, before, after, hlines, hallowed, hbefore⟩
    rcases hfirst.mp ⟨value, hallowed, before, after, hlines, hbefore⟩ with ⟨v, hv, hmem⟩
    exact ⟨v, hv, hmem⟩
  · intro h
    rcases h with ⟨value, hallowed, hmem⟩
    rcases hfirst.mpr ⟨value, hallowed, hmem⟩ with ⟨v, hv, before, after, hlines, hbefore⟩
    exact ⟨v, before, after, hlines, hv, hbefore⟩

/-- A section with a first line of a kind has one. -/
theorem First.mem (h : First kind lines value) : ∃ value, kind value ∈ lines :=
  exists_first.mp ⟨value, h⟩

end Kind

section Attributes

variable {α : Type} {ask : Attribute → Option α} {lines lines' : List SDPLine}

/-- A search finds something exactly when some attribute has an answer. -/
theorem findAttribute_isSome :
    (findAttribute ask lines).isSome ↔ ∃ attr, SDPLine.attr attr ∈ lines ∧ (ask attr).isSome := by
  unfold findAttribute
  rw [List.findSome?_isSome_iff]
  constructor
  · intro h
    rcases h with ⟨line, hline, hask⟩
    cases line with
    | attr attr => exact ⟨attr, hline, hask⟩
    | _ => cases hask
  · intro h
    rcases h with ⟨attr, hattr, hask⟩
    exact ⟨.attr attr, hattr, hask⟩

/-- The same lines in another order leave a search with an answer. -/
theorem findAttribute_isSome_perm (h : lines.Perm lines') :
    (findAttribute ask lines').isSome = (findAttribute ask lines).isSome := by
  rw [Bool.eq_iff_iff, findAttribute_isSome, findAttribute_isSome]
  simp only [h.mem_iff]

/-- Where there is at most one answer, it is found in any order. -/
theorem findAttribute_perm (h : lines.Perm lines') (hone : (answers ask lines).length ≤ 1) :
    findAttribute ask lines' = findAttribute ask lines := by
  have hanswers : (answers ask lines).Perm (answers ask lines') := h.filterMap _
  -- With one answer at most there is nothing to reorder.
  have hsame : answers ask lines' = answers ask lines := by
    rcases hlist : answers ask lines with _ | ⟨a, rest⟩
    · rw [hlist] at hanswers
      exact hanswers.nil_eq.symm
    · rw [hlist, List.length_cons] at hone
      have hrest : rest = [] := List.length_eq_zero_iff.mp (by omega)
      rw [hlist, hrest] at hanswers
      rw [hrest]
      exact List.perm_singleton.mp hanswers.symm
  -- The search gives the first of the answers.
  have hhead := congrArg List.head? hsame
  rw [answers, List.head?_filterMap, answers, List.head?_filterMap] at hhead
  exact hhead

end Attributes

end Sdp

end SigmaMedia
