import Mathlib.Data.Finmap
import Mathlib.Data.List.Sort

/-!
# Finite Maps and the Order of Their Keys

`HashMap` and `HashSet` as finite maps and finite sets. Reading and writing
them is `Finmap`'s, with the two lookups that every frame argument needs
stated as one equation each.

The order a hash map is traversed in is not specified and may differ from one
traversal to the next. An `Enumeration` is one such order, chosen outside the
program: a statement for every enumeration is a statement for every order.

## Main definitions

* `Store`: A finite map.
* `modify`: Changing the value at a key, if there is one.
* `Enumeration`: An order for the elements of every finite set.
* `arbitrary`: Some order.
* `byNumber`: The order of the numbers the elements stand for.

## Theorems

* `lookup_insert_eq`, `lookup_erase_eq`, `lookup_modify`: What a write leaves
  at every key.
* `map_lookup_insert`, `map_lookup_modify`: What it leaves of a map seen
  through a function.
* `modify_comm`, `erase_modify`: Writes that can be made in either order.
* `perm_entries`: Two orders give the same entries.
* `foldl_insert_entries`: A map from its entries.
-/

namespace SigmaMedia

/-- A finite map. -/
abbrev Store (κ α : Type) := Finmap fun _ : κ => α

namespace Store

variable {κ α : Type} [DecidableEq κ]

/-- Change the value at a key, if there is one. -/
def modify (m : Store κ α) (k : κ) (f : α → α) : Store κ α :=
  match m.lookup k with
  | none => m
  | some a => m.insert k (f a)

theorem lookup_insert_eq (m : Store κ α) (k j : κ) (a : α) :
    (m.insert k a).lookup j = if j = k then some a else m.lookup j := by
  by_cases h : j = k
  · rw [if_pos h, h, Finmap.lookup_insert]
  · rw [if_neg h, Finmap.lookup_insert_of_ne m h]

/-- A map seen through a function, after a write. -/
theorem map_lookup_insert {β : Type} (g : α → β) (m : Store κ α) (k : κ) (a : α) :
    (fun j => ((m.insert k a).lookup j).map g)
      = Function.update (fun j => (m.lookup j).map g) k (some (g a)) := by
  funext j
  rw [lookup_insert_eq, Function.update_apply]
  by_cases h : j = k
  · rw [if_pos h, if_pos h, Option.map_some]
  · rw [if_neg h, if_neg h]

theorem lookup_erase_eq (m : Store κ α) (k j : κ) :
    (m.erase k).lookup j = if j = k then none else m.lookup j := by
  by_cases h : j = k
  · rw [if_pos h, h, Finmap.lookup_erase]
  · rw [if_neg h, Finmap.lookup_erase_ne h]

theorem lookup_modify (m : Store κ α) (k j : κ) (f : α → α) :
    (m.modify k f).lookup j = if j = k then (m.lookup j).map f else m.lookup j := by
  unfold modify
  by_cases h : j = k
  · rw [if_pos h, h]
    cases hk : m.lookup k with
    | none => exact hk
    | some a => exact Finmap.lookup_insert m
  · rw [if_neg h]
    cases m.lookup k with
    | none => rfl
    | some a => exact Finmap.lookup_insert_of_ne m h

/-- A map seen through a function, after a change. -/
theorem map_lookup_modify {β : Type} (g : α → β) (m : Store κ α) (k : κ) (f : α → α) :
    (fun j => ((m.modify k f).lookup j).map g)
      = Function.update (fun j => (m.lookup j).map g) k ((m.lookup k).map fun a => g (f a)) := by
  funext j
  rw [lookup_modify, Function.update_apply]
  by_cases h : j = k
  · rw [if_pos h, if_pos h, h, Option.map_map]
    rfl
  · rw [if_neg h, if_neg h]

/-- A change that is not seen through a function. -/
theorem map_lookup_modify_same {β : Type} {g : α → β} {m : Store κ α} {k : κ} {f : α → α}
    (h : ∀ a, m.lookup k = some a → g (f a) = g a) :
    (fun j => ((m.modify k f).lookup j).map g) = fun j => (m.lookup j).map g := by
  rw [map_lookup_modify, Function.update_eq_self_iff]
  cases hk : m.lookup k with
  | none => rfl
  | some a => rw [Option.map_some, Option.map_some, h a hk]

/-- Changes that do not depend on each other's order can be made in either. -/
theorem modify_comm (m : Store κ α) (j k : κ) {f g : α → α} (hfg : ∀ a, f (g a) = g (f a)) :
    (m.modify j f).modify k g = (m.modify k g).modify j f := by
  apply Finmap.ext_lookup
  intro x
  rw [lookup_modify, lookup_modify, lookup_modify, lookup_modify]
  by_cases hj : x = j
  · by_cases hk : x = k
    · simp only [if_pos hj, if_pos hk, Option.map_map, Function.comp_def, hfg]
    · simp only [if_pos hj, if_neg hk]
  · simp only [if_neg hj]

/-- A key that goes takes its value along, changed or not. -/
theorem erase_modify (m : Store κ α) (j k : κ) (f : α → α) :
    (m.modify j f).erase k = modify (m.erase k) j f := by
  apply Finmap.ext_lookup
  intro x
  rw [lookup_erase_eq, lookup_modify, lookup_modify, lookup_erase_eq]
  by_cases hk : x = k
  · simp only [if_pos hk, Option.map_none, ite_self]
  · simp only [if_neg hk]

end Store

/-- An order for the elements of every finite set. -/
structure Enumeration (κ : Type) where
  list : Finset κ → List κ
  nodup : ∀ s, (list s).Nodup
  mem : ∀ s k, k ∈ list s ↔ k ∈ s

namespace Enumeration

variable {κ α : Type}

/-- Some order. -/
noncomputable def arbitrary : Enumeration κ where
  list := Finset.toList
  nodup := Finset.nodup_toList
  mem _ _ := Finset.mem_toList

/-- The order of the numbers the elements stand for. -/
def byNumber (f : κ → Nat) (hf : Function.Injective f) : Enumeration κ where
  list s := Quot.liftOn s.val (List.insertionSort fun a b => f a ≤ f b) fun l m h => by
    have : Std.Antisymm fun a b => f a ≤ f b := ⟨fun a b hab hba => hf (Nat.le_antisymm hab hba)⟩
    have : Std.Total fun a b => f a ≤ f b := ⟨fun a b => Nat.le_total (f a) (f b)⟩
    have : IsTrans κ fun a b => f a ≤ f b := ⟨fun a b c hab hbc => Nat.le_trans hab hbc⟩
    have hl := List.perm_insertionSort (fun a b => f a ≤ f b) l
    have hm := List.perm_insertionSort (fun a b => f a ≤ f b) m
    exact ((hl.trans h).trans hm.symm).eq_of_pairwise'
      (List.pairwise_insertionSort _ l) (List.pairwise_insertionSort _ m)
  nodup s := by
    rcases s with ⟨⟨l⟩, hl⟩
    exact (List.perm_insertionSort _ l).nodup_iff.mpr hl
  mem s k := by
    rcases s with ⟨⟨l⟩, hl⟩
    exact (List.perm_insertionSort _ l).mem_iff

variable [DecidableEq κ]

/-- The entries of a map in the order of an enumeration. -/
def entries (order : Enumeration κ) (m : Store κ α) : List (κ × α) :=
  (order.list m.keys).filterMap fun k => (m.lookup k).map fun a => (k, a)

theorem mem_entries {order : Enumeration κ} {m : Store κ α} {k : κ} {a : α} :
    (k, a) ∈ order.entries m ↔ m.lookup k = some a := by
  simp only [entries, List.mem_filterMap, Option.map_eq_some_iff, Prod.mk.injEq, order.mem,
    Finmap.mem_keys, Finmap.mem_iff]
  constructor
  · intro h
    rcases h with ⟨k', _, a', hk, rfl, rfl⟩
    exact hk
  · intro h
    exact ⟨k, ⟨a, h⟩, a, h, rfl, rfl⟩

/-- No key comes twice. -/
theorem nodup_entries (order : Enumeration κ) (m : Store κ α) :
    ((order.entries m).map Prod.fst).Nodup := by
  -- The keys of the entries are the listed keys that are there.
  have hkeys : (order.entries m).map Prod.fst = (order.list m.keys).filter fun k => k ∈ m := by
    rw [entries]
    generalize order.list m.keys = keys
    induction keys with
    | nil => rfl
    | cons k keys ih =>
        rw [List.filterMap_cons, List.filter_cons]
        cases hk : m.lookup k with
        | none =>
            have hout : k ∉ m := Finmap.lookup_eq_none.mp hk
            simp only [Option.map_none, hout, decide_false, Bool.false_eq_true, if_false]
            exact ih
        | some a =>
            have hin : k ∈ m := Finmap.mem_of_lookup_eq_some hk
            simp only [Option.map_some, hin, decide_true, if_true, List.map_cons]
            rw [ih]
  rw [hkeys]
  exact (order.nodup _).filter _

/-- Two orders give the same entries. -/
theorem perm_entries (order order' : Enumeration κ) (m : Store κ α) :
    (order.entries m).Perm (order'.entries m) := by
  have hnodup : ∀ o : Enumeration κ, (o.entries m).Nodup := fun o =>
    List.Nodup.of_map Prod.fst (nodup_entries o m)
  rw [List.perm_ext_iff_of_nodup (hnodup order) (hnodup order')]
  rintro ⟨k, a⟩
  rw [mem_entries, mem_entries]

/-- A map is put together again from its entries, in any order. -/
theorem foldl_insert_entries (order : Enumeration κ) (m : Store κ α) :
    (order.entries m).foldl (fun m' entry => m'.insert entry.1 entry.2) (∅ : Store κ α) = m := by
  -- Without a key that comes twice, every entry stays.
  have hfold : ∀ (es : List (κ × α)) (m' : Store κ α), (es.map Prod.fst).Nodup → ∀ k a,
      (es.foldl (fun m' entry => m'.insert entry.1 entry.2) m').lookup k = some a ↔
        (k, a) ∈ es ∨ k ∉ es.map Prod.fst ∧ m'.lookup k = some a := by
    intro es
    induction es with
    | nil =>
        intro m' _ k a
        simp only [List.foldl_nil, List.not_mem_nil, List.map_nil, not_false_eq_true, true_and,
          false_or]
    | cons entry es ih =>
        intro m' hnodup k a
        rw [List.map_cons, List.nodup_cons] at hnodup
        rw [List.foldl_cons, ih _ hnodup.2, Store.lookup_insert_eq, List.map_cons, List.mem_cons,
          List.mem_cons, not_or]
        by_cases hk : k = entry.1
        · have hout : (k, a) ∉ es := by
            intro hmem
            apply hnodup.1
            rw [← hk]
            exact List.mem_map_of_mem hmem
          have hentry : (k, a) = entry ↔ entry.2 = a := by
            rw [hk]
            exact ⟨fun h => (congrArg Prod.snd h).symm, fun h => by rw [← h]⟩
          rw [if_pos hk, Option.some.injEq, hentry]
          rw [hk] at hout
          simp only [hk, hout, hnodup.1, not_false_eq_true, not_true_eq_false, true_and,
            false_and, false_or, or_false]
        · have hne : (k, a) ≠ entry := fun h => hk (congrArg Prod.fst h)
          rw [if_neg hk]
          simp only [hk, hne, not_false_eq_true, true_and, false_or]
  apply Finmap.ext_lookup
  intro k
  apply Option.ext
  intro a
  rw [hfold _ _ (nodup_entries order m), mem_entries, Finmap.lookup_empty]
  simp only [reduceCtorEq, and_false, or_false]

end Enumeration

end SigmaMedia
