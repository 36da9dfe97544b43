import Mathlib.Algebra.GroupWithZero.Nat
import SigmaMedia.Base.Bytes

/-!
# Padded Type-Length-Value Lists

The attribute layout of RFC 5389 and its relatives: a 16-bit type, a 16-bit
length, and a value padded to a multiple of four bytes. The declared length
is that of the value alone; the padding is implied by it.

`walk` is the reading a peer performs: take elements off the front until
nothing is left, failing when the last one is cut short. It is the yardstick
an encoder is held against. `walk_encode_append` peels one encoded element off
the front, so the walk of a message assembled from encoded pieces is read off
piece by piece.

## Main definitions

* `Tlv`: One element.
* `padded`: A length rounded up to a multiple of four.
* `next`: Taking one element off the front.
* `walk`: Reading a whole list.
* `encode`: An element on the wire, with its padding bytes.

## Theorems

* `next_eq_some`: What taking an element says about the input.
* `walk_encode_append`: A walk starts with the element encoded in front.
* `length_of_walk`: The elements of a walk account for every byte.
-/

namespace SigmaMedia

/-- One element: a type and a value. -/
structure Tlv where
  kind : UInt16
  value : Bytes
  deriving DecidableEq

namespace Tlv

open Bytes

/-- A length rounded up to a multiple of four. -/
def padded (n : Nat) : Nat := (n + 3) / 4 * 4

theorem le_padded (n : Nat) : n ≤ padded n := by
  unfold padded
  omega

/-- Take one element off the front, with its padding. -/
def next (b : Bytes) : Option (Tlv × Bytes) := do
  let (kind, b) ← readU16 b
  let (length, b) ← readU16 b
  let (raw, b) ← readExact (padded length.toNat) b
  some ({ kind := kind, value := raw.take length.toNat }, b)

/-- An element on the wire, followed by the given padding bytes. -/
def encode (a : Tlv) (padding : Bytes) : Bytes :=
  be16 a.kind ++ be16 (UInt16.ofNat a.value.length) ++ a.value ++ padding

theorem next_eq_some {b rest : Bytes} {a : Tlv} (h : next b = some (a, rest)) :
    b.length = 4 + padded a.value.length + rest.length := by
  simp only [next, Option.bind_eq_bind, Option.bind_eq_some_iff, Prod.exists, Option.some.injEq,
    Prod.mk.injEq] at h
  rcases h with ⟨kind, b₁, h1, len, b₂, h2, raw, b₃, h3, rfl, rfl⟩
  rw [readU16_eq_some] at h1 h2
  rw [readExact_eq_some] at h3
  rcases h3 with ⟨hraw, rfl⟩
  -- The value is read with its padding and cut to its length.
  have hle := le_padded len.toNat
  have hval : (raw.take len.toNat).length = len.toNat := by
    rw [List.length_take]
    omega
  rw [h1, h2, hval]
  simp only [List.length_append, length_be16]
  omega

/-- Read elements until nothing is left. -/
def walk (b : Bytes) : Option (List Tlv) :=
  if b = [] then some []
  else
    match _h : next b with
    | none => none
    | some (a, rest) => (walk rest).map (a :: ·)
termination_by b.length
decreasing_by
  have := next_eq_some _h
  omega

theorem walk_nil : walk [] = some [] := by
  rw [walk, if_pos rfl]

theorem walk_of_next {b rest : Bytes} {a : Tlv} (h : next b = some (a, rest)) :
    walk b = (walk rest).map (a :: ·) := by
  have hne : b ≠ [] := by
    rintro rfl
    cases h
  rw [walk, if_neg hne]
  split
  · rename_i hn
    rw [h] at hn
    cases hn
  · rename_i a' rest' hn
    rw [h] at hn
    cases hn
    rfl

theorem next_encode_append {a : Tlv} {padding : Bytes} (hlen : a.value.length < 65536)
    (hpad : a.value.length + padding.length = padded a.value.length) (rest : Bytes) :
    next (encode a padding ++ rest) = some (a, rest) := by
  have hl : (UInt16.ofNat a.value.length).toNat = a.value.length := by
    rw [UInt16.toNat_ofNat']
    exact Nat.mod_eq_of_lt hlen
  have hraw : readExact (padded a.value.length) (a.value ++ padding ++ rest)
      = some (a.value ++ padding, rest) := by
    rw [readExact_eq_some, List.length_append]
    exact ⟨hpad, rfl⟩
  simp only [next, encode, List.append_assoc, readU16_be16, Option.bind_eq_bind,
    Option.bind_some, hl]
  rw [← List.append_assoc, hraw, Option.bind_some]
  simp only [List.take_left]

/-- The walk of an encoded element followed by more starts with the element
    and goes on with the rest. -/
theorem walk_encode_append {a : Tlv} {padding : Bytes} (hlen : a.value.length < 65536)
    (hpad : a.value.length + padding.length = padded a.value.length) (rest : Bytes) :
    walk (encode a padding ++ rest) = (walk rest).map (a :: ·) :=
  walk_of_next (next_encode_append hlen hpad rest)

/-- The elements of a walk account for every byte of the input. -/
theorem length_of_walk {b : Bytes} {as : List Tlv} (h : walk b = some as) :
    b.length = (as.map fun a => 4 + padded a.value.length).sum := by
  induction as generalizing b with
  | nil =>
      -- Only nothing is walked as nothing.
      by_cases hb : b = []
      · rw [hb]
        rfl
      · rw [walk, if_neg hb] at h
        split at h
        · cases h
        · rw [Option.map_eq_some_iff] at h
          rcases h with ⟨_, _, hc⟩
          cases hc
  | cons a as ih =>
      rcases hn : next b with _ | ⟨a', rest⟩
      · have hb : b ≠ [] := by
          rintro rfl
          rw [walk_nil] at h
          cases h
        rw [walk, if_neg hb] at h
        split at h
        · cases h
        · rename_i hs
          rw [hn] at hs
          cases hs
      · -- An element is taken off the front, with its padding.
        rw [walk_of_next hn, Option.map_eq_some_iff] at h
        rcases h with ⟨as', hw, hc⟩
        cases hc
        rw [next_eq_some hn, ih hw, List.map_cons, List.sum_cons]

end Tlv

end SigmaMedia
