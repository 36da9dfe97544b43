import SigmaMedia.Base.Exec

/-!
# Panics That Do Not Happen

A program that calls `expect` relies on something it does not say. The message
is what tells one such place from another, so "this place never fires" is the
statement that the computation does not end with that message, whatever else
may go wrong in it.

`Avoids` says so for a list of messages at once. It is taken apart the way
`Returns` is: a sequence avoids the messages when its first half does and the
rest does on whatever the first half gave. Computations that never call
`expect` avoid every list, which is how the rest of a program is discharged.

## Main definitions

* `Avoids`: None of the messages is what a computation stops with.

## Theorems

* `Avoids.bind`: A sequence, taken apart.
* `Returns.avoids`: A computation that returns avoids everything.
* `avoids_expect_of_some`: A place that holds a value does not fire.
* `avoids_expect_of_notMem`: A place with another message is not among them.
-/

namespace SigmaMedia

namespace Exec

variable {α β : Type} {messages : List String}

/-- None of the messages is what a computation stops with. -/
def Avoids (messages : List String) (x : Exec α) : Prop :=
  ∀ m ∈ messages, x ≠ .error (.expect m)

@[simp] theorem avoids_ok (a : α) : Avoids messages (.ok a) := by
  intro m _ h
  cases h

theorem Returns.avoids {x : Exec α} (h : Returns x) : Avoids messages x := by
  rcases h with ⟨a, rfl⟩
  exact avoids_ok a

theorem Avoids.bind {x : Exec α} {f : α → Exec β} (hx : Avoids messages x)
    (hf : ∀ a, x = .ok a → Avoids messages (f a)) : Avoids messages (x >>= f) := by
  intro m hm h
  rcases bind_eq_error.mp h with hfirst | ⟨a, ha, hrest⟩
  · exact hx m hm hfirst
  · exact hf a ha m hm hrest

theorem Avoids.ite {p : Prop} [Decidable p] {x y : Exec α} (hx : Avoids messages x)
    (hy : Avoids messages y) : Avoids messages (if p then x else y) := by
  split
  · exact hx
  · exact hy

/-- A panic of another kind. -/
theorem avoids_error {p : Panic} (h : ∀ m, p ≠ .expect m) :
    Avoids messages (.error p : Exec α) := by
  intro m _ hp
  cases hp
  exact h m rfl

@[simp] theorem avoids_unwrap (o : Option α) : Avoids messages (unwrap o) := by
  cases o with
  | none => exact avoids_error fun _ h => by cases h
  | some a => exact avoids_ok a

@[simp] theorem avoids_unwrapOk {ε : Type} (r : Except ε α) : Avoids messages (unwrapOk r) := by
  cases r with
  | error e => exact avoids_error fun _ h => by cases h
  | ok a => exact avoids_ok a

/-- A place with another message is not among them. -/
theorem avoids_expect_of_notMem {m : String} (h : m ∉ messages) (o : Option α) :
    Avoids messages (expect m o) := by
  cases o with
  | some a => exact avoids_ok a
  | none =>
      intro m' hm' heq
      cases heq
      exact h hm'

/-- A place that holds a value does not fire. -/
theorem avoids_expect_of_some {m : String} {o : Option α} {a : α} (h : o = some a) :
    Avoids messages (expect m o) := by
  rw [h]
  exact avoids_ok a

theorem avoids_expectOk_of_notMem {ε : Type} {m : String} (h : m ∉ messages) (r : Except ε α) :
    Avoids messages (expectOk m r) := by
  cases r with
  | ok a => exact avoids_ok a
  | error e =>
      intro m' hm' heq
      cases heq
      exact h hm'

section Access

variable {l : List α} {i j : Nat}

theorem avoids_index_error : Avoids messages (.error .index : Exec α) :=
  avoids_error fun _ h => by cases h

@[simp] theorem avoids_index : Avoids messages (index l i) := by
  unfold index
  split
  · exact avoids_ok _
  · exact avoids_index_error

@[simp] theorem avoids_sliceFrom : Avoids messages (sliceFrom l i) :=
  (avoids_ok _).ite avoids_index_error

@[simp] theorem avoids_sliceTo : Avoids messages (sliceTo l j) :=
  (avoids_ok _).ite avoids_index_error

@[simp] theorem avoids_slice : Avoids messages (slice l i j) :=
  (avoids_ok _).ite avoids_index_error

@[simp] theorem avoids_store {a : α} : Avoids messages (store l i a) :=
  (avoids_ok _).ite avoids_index_error

@[simp] theorem avoids_storeSlice {block : List α} : Avoids messages (storeSlice l i block) :=
  (avoids_ok _).ite avoids_index_error

end Access

@[simp] theorem avoids_checkedAdd16 {a b : UInt16} : Avoids messages (checkedAdd16 a b) :=
  (avoids_ok _).ite (avoids_error fun _ h => by cases h)

theorem avoids_mapM {l : List α} {f : α → Exec β} (h : ∀ a, Avoids messages (f a)) :
    Avoids messages (l.mapM f) := by
  induction l with
  | nil => exact avoids_ok _
  | cons a as ih =>
      rw [List.mapM_cons]
      exact (h a).bind fun b _ => ih.bind fun bs _ => avoids_ok _

end Exec

end SigmaMedia
