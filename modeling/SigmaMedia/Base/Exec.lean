import Mathlib.Data.List.Basic
import Mathlib.Data.List.Forall2

/-!
# Computations That May Panic

A Rust function returns a value or unwinds the thread. `Exec` records which,
and with what message, so that "never panics" is a statement about the result
of a definition rather than a side condition beside it.

Two layers of failure have to be kept apart. A `Result` or an `Option` is a
value the caller inspects, and is modelled as one. A panic is not: nothing
after it runs, and the state it leaves is never read. So a fallible function
that can also panic has type `Exec (Except ε α)`, and only the outer layer is
ruled out by a safety theorem.

Arithmetic overflow is counted as a panic, as the checked profile has it.

`bind_eq_ok` and `returns_bind` are how every later proof takes a computation
apart: a sequence returns exactly when its first half returns and the rest
returns on what it produced.

## Main definitions

* `Panic`: The ways a computation can stop without a value.
* `Exec`: A computation that may panic.
* `okOr`: A missing value as an error.
* `Returns`: The computation ends with a value.
* `passes`: It ends with a value that passes a test.
* `unwrap`, `unwrapOk`, `expect`: Forcing an option or a result.
* `index`, `slice`, `sliceFrom`, `sliceTo`: Checked access to a list.
* `store`, `storeSlice`: Checked writes to a list.
* `checkedAdd16`: Addition that must not overflow.

## Theorems

* `bind_eq_ok`: A sequence ends with a value exactly when both halves do.
* `bind_eq_error`: A sequence panics in its first half or in its second.
* `returns_bind`: Returning, taken apart at a bind.
-/

namespace SigmaMedia

/-- The ways a computation can stop without a value. -/
inductive Panic where
  /-- `unwrap` of a `None` or of an `Err`. -/
  | unwrap
  /-- `expect` of a `None` or of an `Err`, with its message. -/
  | expect (message : String)
  /-- An index or a slice bound out of range. -/
  | index
  /-- An arithmetic result outside its type. -/
  | overflow
  /-- A branch its author declared impossible. -/
  | unreachable (message : String)
  /-- A branch its author left unwritten. -/
  | todo (message : String)
  /-- A `panic!` with its message. -/
  | explicit (message : String)
  deriving DecidableEq, Repr

/-- A computation that may panic. -/
abbrev Exec (α : Type) := Except Panic α

/-- `Option::ok_or`: a missing value becomes the given error. -/
def okOr {ε α : Type} (e : ε) : Option α → Except ε α
  | some a => .ok a
  | none => .error e

@[simp] theorem okOr_eq_ok {ε α : Type} {e : ε} {o : Option α} {a : α} :
    okOr e o = .ok a ↔ o = some a := by
  cases o with
  | none => simp only [okOr, reduceCtorEq]
  | some b => simp only [okOr, Except.ok.injEq, Option.some.injEq]

namespace Exec

variable {α β : Type}

theorem toOption_eq_some {ε : Type} {x : Except ε α} {a : α} :
    x.toOption = some a ↔ x = .ok a := by
  cases x with
  | error e => simp only [Except.toOption, reduceCtorEq]
  | ok b => simp only [Except.toOption, Option.some.injEq, Except.ok.injEq]

/-- The computation ends with a value. -/
def Returns (x : Exec α) : Prop := ∃ a, x = .ok a

theorem bind_eq_ok {ε : Type} {x : Except ε α} {f : α → Except ε β} {b : β} :
    (x >>= f) = .ok b ↔ ∃ a, x = .ok a ∧ f a = .ok b := by
  cases x with
  | error p =>
      constructor
      · intro h
        cases h
      · intro h
        rcases h with ⟨a, ha, _⟩
        cases ha
  | ok a =>
      refine ⟨fun h => ⟨a, rfl, h⟩, ?_⟩
      intro h
      rcases h with ⟨a', ha, hb⟩
      cases ha
      exact hb

theorem bind_eq_error {x : Exec α} {f : α → Exec β} {p : Panic} :
    (x >>= f) = .error p ↔ x = .error p ∨ ∃ a, x = .ok a ∧ f a = .error p := by
  cases x with
  | error q =>
      constructor
      · intro h
        cases h
        exact Or.inl rfl
      · rintro (h | ⟨a, ha, _⟩)
        · cases h
          rfl
        · cases ha
  | ok a =>
      refine ⟨fun h => Or.inr ⟨a, rfl, h⟩, ?_⟩
      rintro (h | ⟨a', ha, hb⟩)
      · cases h
      · cases ha
        exact hb

@[simp] theorem ok_bind {ε : Type} (a : α) (f : α → Except ε β) :
    ((.ok a : Except ε α) >>= f) = f a := rfl

@[simp] theorem pure_eq_ok (a : α) : (pure a : Exec α) = .ok a := rfl

theorem pure_eq_ok_iff {ε : Type} {a b : α} : (pure a : Except ε α) = .ok b ↔ b = a := by
  constructor
  · intro h
    cases h
    rfl
  · intro h
    rw [h]
    rfl

/-- A check that has to fail for the rest to be reached. -/
theorem when_eq_ok {ε : Type} {check : Bool} {e : ε} {x : Except ε α} {a : α} :
    (if check then .error e else x) = .ok a ↔ check = false ∧ x = .ok a := by
  cases check with
  | false => simp only [Bool.false_eq_true, if_false, true_and]
  | true => simp only [if_true, reduceCtorEq, false_and]

@[simp] theorem returns_ok (a : α) : Returns (.ok a) := ⟨a, rfl⟩

@[simp] theorem not_returns_error (p : Panic) : ¬ Returns (.error p : Exec α) := by
  intro h
  rcases h with ⟨a, ha⟩
  cases ha

theorem returns_bind {x : Exec α} {f : α → Exec β} :
    Returns (x >>= f) ↔ ∃ a, x = .ok a ∧ Returns (f a) := by
  constructor
  · intro h
    rcases h with ⟨b, hb⟩
    rcases bind_eq_ok.mp hb with ⟨a, ha, hf⟩
    exact ⟨a, ha, b, hf⟩
  · intro h
    rcases h with ⟨a, ha, b, hf⟩
    exact ⟨b, bind_eq_ok.mpr ⟨a, ha, hf⟩⟩

/-- A computation that does not return has panicked. -/
theorem not_returns_iff {x : Exec α} : ¬ Returns x ↔ ∃ p, x = .error p := by
  cases x with
  | error p => exact ⟨fun _ => ⟨p, rfl⟩, fun _ => not_returns_error p⟩
  | ok a =>
      refine ⟨fun h => absurd (returns_ok a) h, ?_⟩
      intro h
      rcases h with ⟨p, hp⟩
      cases hp

/-- Both computations end with the same value, or both panic. -/
def SameOutcome (x y : Exec α) : Prop :=
  (∃ a, x = .ok a ∧ y = .ok a) ∨ (¬ Returns x ∧ ¬ Returns y)

theorem sameOutcome_ok {a b : α} : SameOutcome (.ok a) (.ok b) ↔ a = b := by
  constructor
  · intro h
    rcases h with ⟨c, ha, hb⟩ | ⟨ha, _⟩
    · cases ha
      cases hb
      rfl
    · exact absurd (returns_ok a) ha
  · intro h
    exact Or.inl ⟨a, rfl, by rw [h]⟩

/-- Against a panic, only a panic is the same. -/
theorem sameOutcome_of_not_returns {x y : Exec α} (hy : ¬ Returns y) :
    SameOutcome x y ↔ ¬ Returns x := by
  constructor
  · intro h
    rcases h with ⟨a, _, rfl⟩ | ⟨hx, _⟩
    · exact absurd (returns_ok a) hy
    · exact hx
  · intro hx
    exact Or.inr ⟨hx, hy⟩

theorem SameOutcome.returns {x y : Exec α} (h : SameOutcome x y) (hy : Returns y) :
    Returns x := by
  rcases h with ⟨a, rfl, _⟩ | ⟨_, hc⟩
  · exact returns_ok a
  · exact absurd hy hc

/-- The computation ends with a value that passes a test. -/
def passes {ε : Type} (x : Except ε α) (test : α → Bool) : Bool :=
  match x with
  | .ok a => test a
  | .error _ => false

theorem of_passes {ε : Type} {x : Except ε α} {test : α → Bool} (h : passes x test = true) :
    ∃ a, x = .ok a ∧ test a = true := by
  cases x with
  | error e => cases h
  | ok a => exact ⟨a, rfl, h⟩

/-- A computation in two stages, with a test for each. -/
theorem of_passes_bind {ε : Type} {x : Except ε α} {f : α → Except ε β} {test : α → Bool}
    {test' : β → Bool} (h : passes x (fun a => test a && passes (f a) test') = true) :
    ∃ a b, x = .ok a ∧ (x >>= f) = .ok b ∧ test a = true ∧ test' b = true := by
  rcases of_passes h with ⟨a, rfl, hboth⟩
  rw [Bool.and_eq_true] at hboth
  rcases of_passes hboth.2 with ⟨b, hb, htest'⟩
  exact ⟨a, b, rfl, hb, hboth.1, htest'⟩

/-- `Option::unwrap`. -/
def unwrap : Option α → Exec α
  | some a => .ok a
  | none => .error .unwrap

/-- `Result::unwrap`. -/
def unwrapOk {ε : Type} : Except ε α → Exec α
  | .ok a => .ok a
  | .error _ => .error .unwrap

/-- `Option::expect`. -/
def expect (message : String) : Option α → Exec α
  | some a => .ok a
  | none => .error (.expect message)

/-- `Result::expect`. -/
def expectOk {ε : Type} (message : String) : Except ε α → Exec α
  | .ok a => .ok a
  | .error _ => .error (.expect message)

@[simp] theorem unwrap_eq_ok {o : Option α} {a : α} : unwrap o = .ok a ↔ o = some a := by
  cases o with
  | none => simp only [unwrap, reduceCtorEq]
  | some b => simp only [unwrap, Except.ok.injEq, Option.some.injEq]

@[simp] theorem expect_eq_ok {m : String} {o : Option α} {a : α} :
    expect m o = .ok a ↔ o = some a := by
  cases o with
  | none => simp only [expect, reduceCtorEq]
  | some b => simp only [expect, Except.ok.injEq, Option.some.injEq]

@[simp] theorem expectOk_eq_ok {ε : Type} {m : String} {r : Except ε α} {a : α} :
    expectOk m r = .ok a ↔ r = .ok a := by
  cases r with
  | error e => simp only [expectOk, reduceCtorEq]
  | ok b => simp only [expectOk, Except.ok.injEq]

/-- `l[i]`. -/
def index (l : List α) (i : Nat) : Exec α :=
  match l[i]? with
  | some a => .ok a
  | none => .error .index

/-- `&l[i..]`. -/
def sliceFrom (l : List α) (i : Nat) : Exec (List α) :=
  if i ≤ l.length then .ok (l.drop i) else .error .index

/-- `&l[..j]`. -/
def sliceTo (l : List α) (j : Nat) : Exec (List α) :=
  if j ≤ l.length then .ok (l.take j) else .error .index

/-- `&l[i..j]`. -/
def slice (l : List α) (i j : Nat) : Exec (List α) :=
  if i ≤ j ∧ j ≤ l.length then .ok ((l.take j).drop i) else .error .index

/-- `l[i] = a`. -/
def store (l : List α) (i : Nat) (a : α) : Exec (List α) :=
  if i < l.length then .ok (l.set i a) else .error .index

/-- Copy a block into `l[i..]`, over what is there. -/
def storeSlice (l : List α) (i : Nat) (block : List α) : Exec (List α) :=
  if i + block.length ≤ l.length then
    .ok (l.take i ++ block ++ l.drop (i + block.length))
  else .error .index

/-- `a + b` on 16-bit values. -/
def checkedAdd16 (a b : UInt16) : Exec UInt16 :=
  if a.toNat + b.toNat < 65536 then .ok (a + b) else .error .overflow

@[simp] theorem index_eq_ok {l : List α} {i : Nat} {a : α} :
    index l i = .ok a ↔ l[i]? = some a := by
  unfold index
  cases l[i]? with
  | none => simp only [reduceCtorEq]
  | some b => simp only [Except.ok.injEq, Option.some.injEq]

@[simp] theorem sliceFrom_eq_ok {l m : List α} {i : Nat} :
    sliceFrom l i = .ok m ↔ i ≤ l.length ∧ l.drop i = m := by
  unfold sliceFrom
  by_cases h : i ≤ l.length
  · rw [if_pos h, Except.ok.injEq]
    exact ⟨fun hm => ⟨h, hm⟩, fun hm => hm.2⟩
  · rw [if_neg h]
    exact ⟨fun hm => (by cases hm), fun hm => absurd hm.1 h⟩

@[simp] theorem sliceTo_eq_ok {l m : List α} {j : Nat} :
    sliceTo l j = .ok m ↔ j ≤ l.length ∧ l.take j = m := by
  unfold sliceTo
  by_cases h : j ≤ l.length
  · rw [if_pos h, Except.ok.injEq]
    exact ⟨fun hm => ⟨h, hm⟩, fun hm => hm.2⟩
  · rw [if_neg h]
    exact ⟨fun hm => (by cases hm), fun hm => absurd hm.1 h⟩

theorem checkedAdd16_eq_ok {a b c : UInt16} :
    checkedAdd16 a b = .ok c ↔ a.toNat + b.toNat < 65536 ∧ a + b = c := by
  unfold checkedAdd16
  by_cases h : a.toNat + b.toNat < 65536
  · rw [if_pos h, Except.ok.injEq]
    exact ⟨fun hc => ⟨h, hc⟩, fun hc => hc.2⟩
  · rw [if_neg h]
    exact ⟨fun hc => (by cases hc), fun hc => absurd hc.1 h⟩

/-- Mapping a fallible function succeeds exactly when it succeeds on every
    element. -/
theorem mapM_eq_ok_iff {ε : Type} {l : List α} {m : List β} {f : α → Except ε β} :
    l.mapM f = .ok m ↔ List.Forall₂ (fun a b => f a = .ok b) l m := by
  induction l generalizing m with
  | nil =>
      rw [List.mapM_nil, List.forall₂_nil_left_iff]
      constructor
      · intro h
        cases h
        rfl
      · intro h
        rw [h]
        rfl
  | cons a as ih =>
      -- The head is read first, and the rest of the list is the induction hypothesis.
      simp only [List.mapM_cons, bind_eq_ok, List.forall₂_cons_left_iff]
      constructor
      · intro h
        rcases h with ⟨b, hb, bs, hbs, hm⟩
        cases hm
        exact ⟨b, bs, hb, ih.mp hbs, rfl⟩
      · intro h
        rcases h with ⟨b, bs, hb, hbs, rfl⟩
        exact ⟨b, hb, bs, ih.mpr hbs, rfl⟩

/-- Every element of a mapped list is the image of one. -/
theorem exists_of_mem_forall₂ {l : List α} {m : List β} {r : α → β → Prop}
    (h : List.Forall₂ r l m) {b : β} (hb : b ∈ m) : ∃ a ∈ l, r a b := by
  induction h with
  | nil => exact absurd hb List.not_mem_nil
  | cons hr _ ih =>
      rcases List.mem_cons.mp hb with rfl | hb
      · exact ⟨_, List.mem_cons_self, hr⟩
      · rcases ih hb with ⟨a, ha, hr'⟩
        exact ⟨a, List.mem_cons_of_mem _ ha, hr'⟩

/-- Lists that are related to an append are appends themselves. -/
theorem forall₂_append_right {l : List α} {m₁ m₂ : List β} {r : α → β → Prop}
    (h : List.Forall₂ r l (m₁ ++ m₂)) :
    ∃ l₁ l₂, l = l₁ ++ l₂ ∧ List.Forall₂ r l₁ m₁ ∧ List.Forall₂ r l₂ m₂ :=
  ⟨_, _, (List.take_append_drop m₁.length l).symm, List.forall₂_take_append l m₁ m₂ h,
    List.forall₂_drop_append l m₁ m₂ h⟩

theorem forall₂_append_left {l₁ l₂ : List α} {m : List β} {r : α → β → Prop}
    (h : List.Forall₂ r (l₁ ++ l₂) m) :
    ∃ m₁ m₂, m = m₁ ++ m₂ ∧ List.Forall₂ r l₁ m₁ ∧ List.Forall₂ r l₂ m₂ := by
  rcases forall₂_append_right (List.Forall₂.flip (R := flip r) h) with ⟨m₁, m₂, hm, h₁, h₂⟩
  exact ⟨m₁, m₂, hm, h₁.flip, h₂.flip⟩

/-- The only element that a search can find is found. -/
theorem findSome?_of_unique {γ : Type} {f : α → Exec β} {g : β → Option γ} {l : List α}
    {m : List β} (h : List.Forall₂ (fun a b => f a = .ok b) l m) {a : α} {b : β} {v : γ}
    (ha : a ∈ l) (hb : f a = .ok b) (hv : g b = some v)
    (hunique : ∀ a' ∈ l, ∀ b', f a' = .ok b' → (g b').isSome = true → a' = a) :
    m.findSome? g = some v := by
  rcases exists_of_mem_forall₂ h.flip ha with ⟨b', hmem, hb'⟩
  have hsame : b' = b := by
    rw [hb] at hb'
    cases hb'
    rfl
  have hfound : (m.findSome? g).isSome = true := by
    rw [List.findSome?_isSome_iff]
    exact ⟨b', hmem, by rw [hsame, hv]; rfl⟩
  rcases Option.isSome_iff_exists.mp hfound with ⟨w, hw⟩
  -- Whatever is found comes from the element.
  rcases List.exists_of_findSome?_eq_some hw with ⟨c, hc, hgc⟩
  rcases exists_of_mem_forall₂ h hc with ⟨a', ha', hac⟩
  have heq := hunique a' ha' c hac (by rw [hgc]; rfl)
  rw [heq, hb] at hac
  cases hac
  rw [hw, ← hgc, hv]

/-- Mapping a computation that returns on every element returns the mapped
    list. -/
theorem mapM_eq_ok {l : List α} {f : α → Exec β} {g : α → β} (h : ∀ a ∈ l, f a = .ok (g a)) :
    l.mapM f = .ok (l.map g) := by
  induction l with
  | nil => rfl
  | cons a as ih =>
      rw [List.mapM_cons, h a List.mem_cons_self, ih fun b hb => h b (List.mem_cons_of_mem a hb)]
      rfl

theorem returns_mapM {l : List α} {f : α → Exec β} (h : ∀ a ∈ l, Returns (f a)) :
    Returns (l.mapM f) := by
  induction l with
  | nil => exact returns_ok []
  | cons a as ih =>
      rcases h a List.mem_cons_self with ⟨b, hb⟩
      rcases ih fun c hc => h c (List.mem_cons_of_mem a hc) with ⟨bs, hbs⟩
      rw [List.mapM_cons, hb, hbs]
      exact returns_ok (b :: bs)

end Exec

end SigmaMedia
