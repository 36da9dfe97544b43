import Mathlib.Data.List.Basic

/-!
# Byte Strings and Big-Endian Fields

Byte buffers as lists, with the two things a wire format does to them: laying
fixed-width integers out in network order, and reading them back off the
front.

A reader over a slice is just the bytes not yet read. Reading past the end
fails and leaves nothing to continue from, which is all the callers rely on.

The codecs go through `toNat` rather than shifts, so that a round trip is
arithmetic modulo a power of two and `omega` settles it. Each reader comes
with an inversion lemma stating exactly which byte strings it accepts, and
that is the form proofs use: a successful read says what the input looked
like.

## Main definitions

* `Bytes`: A byte buffer.
* `ByteArr`: A byte buffer of fixed length.
* `be16`, `be32`: Network order encodings.
* `readU8`, `readU16`, `readU32`: Reading an integer off the front.
* `readExact`: Reading a fixed number of bytes.
* `readInto`: Filling a zeroed array with whatever is left.

## Theorems

* `readU16_eq_some`, `readU32_eq_some`: What a successful read says about
  the input.
* `readExact_eq_some`: The same for a block of bytes.
* `readU16_eq_none`: A read of two bytes fails exactly on a shorter input.
* `readU16_be16`, `readU32_be32`: Reading back what was written.
* `zipWith_xor_cancel`: Masking a block twice.
-/

namespace SigmaMedia

/-- A byte buffer. -/
abbrev Bytes := List UInt8

/-- A byte buffer of fixed length, `[u8; n]`. -/
abbrev ByteArr (n : Nat) := { l : Bytes // l.length = n }

namespace Bytes

/-- The two bytes of a 16-bit value, most significant first. -/
def be16 (v : UInt16) : Bytes := [UInt8.ofNat (v.toNat / 256), UInt8.ofNat v.toNat]

/-- The four bytes of a 32-bit value, most significant first. -/
def be32 (v : UInt32) : Bytes :=
  [UInt8.ofNat (v.toNat / 16777216), UInt8.ofNat (v.toNat / 65536),
    UInt8.ofNat (v.toNat / 256), UInt8.ofNat v.toNat]

/-- Read one byte off the front. -/
def readU8 : Bytes → Option (UInt8 × Bytes)
  | a :: rest => some (a, rest)
  | [] => none

/-- Read a big-endian 16-bit value off the front. -/
def readU16 : Bytes → Option (UInt16 × Bytes)
  | a :: b :: rest => some (UInt16.ofNat (a.toNat * 256 + b.toNat), rest)
  | _ => none

/-- Read a big-endian 32-bit value off the front. -/
def readU32 : Bytes → Option (UInt32 × Bytes)
  | a :: b :: c :: d :: rest =>
      some (UInt32.ofNat (a.toNat * 16777216 + b.toNat * 65536 + c.toNat * 256 + d.toNat), rest)
  | _ => none

/-- Read exactly `n` bytes off the front. -/
def readExact (n : Nat) (reader : Bytes) : Option (Bytes × Bytes) :=
  if n ≤ reader.length then some (reader.take n, reader.drop n) else none

/-- Read into a zeroed array of `n` bytes: a short input leaves zeros behind
    and is not an error. -/
def readInto (n : Nat) (reader : Bytes) : ByteArr n × Bytes :=
  (⟨reader.take n ++ List.replicate (n - reader.length) 0, by
    rw [List.length_append, List.length_take, List.length_replicate]
    omega⟩, reader.drop n)

@[simp] theorem length_be16 (v : UInt16) : (be16 v).length = 2 := rfl

@[simp] theorem length_be32 (v : UInt32) : (be32 v).length = 4 := rfl

theorem readU16_be16 (v : UInt16) (rest : Bytes) : readU16 (be16 v ++ rest) = some (v, rest) := by
  have hv : UInt16.ofNat ((UInt8.ofNat (v.toNat / 256)).toNat * 256
      + (UInt8.ofNat v.toNat).toNat) = v := by
    apply UInt16.toNat_inj.mp
    have hlt := v.toNat_lt
    simp only [UInt16.toNat_ofNat', UInt8.toNat_ofNat']
    omega
  simp only [be16, List.cons_append, List.nil_append, readU16, hv]

theorem readU32_be32 (v : UInt32) (rest : Bytes) : readU32 (be32 v ++ rest) = some (v, rest) := by
  have hv : UInt32.ofNat ((UInt8.ofNat (v.toNat / 16777216)).toNat * 16777216
      + (UInt8.ofNat (v.toNat / 65536)).toNat * 65536
      + (UInt8.ofNat (v.toNat / 256)).toNat * 256 + (UInt8.ofNat v.toNat).toNat) = v := by
    apply UInt32.toNat_inj.mp
    have hlt := v.toNat_lt
    simp only [UInt32.toNat_ofNat', UInt8.toNat_ofNat']
    omega
  simp only [be32, List.cons_append, List.nil_append, readU32, hv]

theorem be32_injective {v w : UInt32} (h : be32 v = be32 w) : v = w := by
  have hv := readU32_be32 v []
  rw [h, readU32_be32 w [], Option.some.injEq, Prod.mk.injEq] at hv
  exact hv.1.symm

/-- Two bytes are the encoding of the value they spell. -/
theorem be16_ofNat (a b : UInt8) : be16 (UInt16.ofNat (a.toNat * 256 + b.toNat)) = [a, b] := by
  have ha := a.toNat_lt
  have hb := b.toNat_lt
  have h1 : UInt8.ofNat ((a.toNat * 256 + b.toNat) % 2 ^ 16 / 256) = a := by
    apply UInt8.toNat_inj.mp
    rw [UInt8.toNat_ofNat']
    omega
  have h2 : UInt8.ofNat ((a.toNat * 256 + b.toNat) % 2 ^ 16) = b := by
    apply UInt8.toNat_inj.mp
    rw [UInt8.toNat_ofNat']
    omega
  rw [be16, UInt16.toNat_ofNat', h1, h2]

theorem readU16_eq_some {r rest : Bytes} {v : UInt16} :
    readU16 r = some (v, rest) ↔ r = be16 v ++ rest := by
  constructor
  · intro h
    match r, h with
    | a :: b :: r', h =>
        simp only [readU16, Option.some.injEq, Prod.mk.injEq] at h
        rcases h with ⟨rfl, rfl⟩
        rw [be16_ofNat]
        rfl
  · rintro rfl
    exact readU16_be16 v rest

/-- Four bytes are the encoding of the value they spell. -/
theorem be32_ofNat (a b c d : UInt8) :
    be32 (UInt32.ofNat (a.toNat * 16777216 + b.toNat * 65536 + c.toNat * 256 + d.toNat))
      = [a, b, c, d] := by
  have ha := a.toNat_lt
  have hb := b.toNat_lt
  have hc := c.toNat_lt
  have hd := d.toNat_lt
  have hv : (UInt32.ofNat (a.toNat * 16777216 + b.toNat * 65536 + c.toNat * 256 + d.toNat)).toNat
      = a.toNat * 16777216 + b.toNat * 65536 + c.toNat * 256 + d.toNat := by
    rw [UInt32.toNat_ofNat']
    omega
  -- Each byte is the quotient at its own place, the lower ones being smaller.
  have hbyte : ∀ (n : Nat) (x : UInt8), n % 256 = x.toNat → UInt8.ofNat n = x := by
    intro n x hx
    apply UInt8.toNat_inj.mp
    rw [UInt8.toNat_ofNat']
    exact hx
  rw [be32, hv, hbyte _ a (by omega), hbyte _ b (by omega), hbyte _ c (by omega),
    hbyte _ d (by omega)]

/-- Four bytes are a 32-bit value. -/
theorem exists_be32 {b : Bytes} (h : b.length = 4) : ∃ v, be32 v = b := by
  match b, h with
  | [a₀, a₁, a₂, a₃], _ => exact ⟨_, be32_ofNat a₀ a₁ a₂ a₃⟩

theorem readU32_eq_some {r rest : Bytes} {v : UInt32} :
    readU32 r = some (v, rest) ↔ r = be32 v ++ rest := by
  constructor
  · intro h
    match r, h with
    | a :: b :: c :: d :: r', h =>
        simp only [readU32, Option.some.injEq, Prod.mk.injEq] at h
        rcases h with ⟨rfl, rfl⟩
        rw [be32_ofNat]
        rfl
  · rintro rfl
    exact readU32_be32 v rest

theorem readU16_eq_none {r : Bytes} : readU16 r = none ↔ r.length < 2 := by
  match r with
  | [] => simp only [readU16, List.length_nil, Nat.zero_lt_two]
  | [a] => simp only [readU16, List.length_cons, List.length_nil, Nat.zero_add, Nat.one_lt_two]
  | a :: b :: r' =>
      simp only [readU16, List.length_cons, reduceCtorEq, false_iff]
      omega

theorem readExact_eq_some {n : Nat} {r v rest : Bytes} :
    readExact n r = some (v, rest) ↔ v.length = n ∧ r = v ++ rest := by
  unfold readExact
  by_cases h : n ≤ r.length
  · rw [if_pos h, Option.some.injEq, Prod.mk.injEq]
    constructor
    · intro h
      rcases h with ⟨rfl, rfl⟩
      exact ⟨by rw [List.length_take]; omega, (List.take_append_drop n r).symm⟩
    · intro h
      rcases h with ⟨rfl, rfl⟩
      exact ⟨List.take_left, List.drop_left⟩
  · rw [if_neg h]
    refine ⟨fun hc => (by cases hc), ?_⟩
    intro h
    rcases h with ⟨rfl, rfl⟩
    rw [List.length_append] at h
    omega

/-- An array is filled from bytes that start with it. -/
theorem readInto_append {n : Nat} (a : ByteArr n) (rest : Bytes) :
    (readInto n (a.val ++ rest)).1 = a := by
  have hlen := a.property
  apply Subtype.ext
  simp only [readInto, List.length_append, hlen]
  rw [List.take_append_of_le_length (by omega), List.take_of_length_le (by omega),
    show n - (n + rest.length) = 0 by omega, List.replicate_zero, List.append_nil]

/-- A block that was masked is unmasked by any mask that starts with the
    same bytes. -/
theorem zipWith_xor_cancel {block mask : Bytes} (more : Bytes) (h : block.length ≤ mask.length) :
    List.zipWith (· ^^^ ·) (List.zipWith (· ^^^ ·) block mask) (mask ++ more) = block := by
  induction block generalizing mask with
  | nil => rfl
  | cons a block ih =>
      cases mask with
      | nil => cases h
      | cons m mask =>
          have hbyte : a ^^^ m ^^^ m = a := by rw [UInt8.xor_assoc, UInt8.xor_self, UInt8.xor_zero]
          have hrest := ih (Nat.le_of_succ_le_succ h)
          simp only [List.zipWith_cons_cons, List.cons_append, hbyte, hrest]

end Bytes

end SigmaMedia
