import SigmaMedia.Base.Text

/-!
# Reading a Stream by Lines

A buffered reader over a stream of bytes, as far as a parser can tell: the
lines that have not been read yet. A line runs up to and including the next
line feed, and what stands behind the last line feed is a line too, if there
is anything. Reading a line takes the first; reading bytes goes on across the
lines that are left.

White space is Unicode's, which is what trimming goes by.

## Main definitions

* `linesOf`: The lines of a stream.
* `IsLine`: Bytes that end with a line feed, and have no other.
* `textOf`, `readLine`: Reading a line of text.
* `isWhitespace`, `trim`: White space, and a text without it at its ends.

## Theorems

* `flatten_linesOf`: The lines of a stream are the stream.
* `linesOf_append`: The first line of a stream.
* `length_linesOf_take_le_one`: A stream cut off in its first line.
* `linesOf_utf8_append`: Lines of text are read back.
* `trim_append`: White space around a trimmed text.
-/

namespace SigmaMedia

namespace Reader

open Text

/-- The lines of a stream, each with its line feed. -/
def linesOf : Bytes → List Bytes
  | [] => []
  | byte :: rest =>
      if byte = 10 then [byte] :: linesOf rest
      else
        -- The byte belongs to the line that follows it, if there is one.
        match linesOf rest with
        | [] => [[byte]]
        | line :: lines => (byte :: line) :: lines

/-- Bytes that end with a line feed, and have no other. -/
def IsLine (line : Bytes) : Prop := ∃ content, line = content ++ [10] ∧ 10 ∉ content

/-- What `BufRead::read_line` leaves of a line in an empty string: its text, and
    nothing if it is not a text. -/
def textOf (line : Bytes) : Text := (fromUtf8 line).getD []

/-- `BufRead::read_line`: the next line is taken. At the end there is no line
    and no text. -/
def readLine : List Bytes → Text × List Bytes
  | [] => ([], [])
  | line :: lines => (textOf line, lines)

/-- `char::is_whitespace`. -/
def isWhitespace (c : Char) : Bool :=
  (0x09 ≤ c.toNat && c.toNat ≤ 0x0d) || c.toNat = 0x20 || c.toNat = 0x85 || c.toNat = 0xa0
    || c.toNat = 0x1680 || (0x2000 ≤ c.toNat && c.toNat ≤ 0x200a) || c.toNat = 0x2028
    || c.toNat = 0x2029 || c.toNat = 0x202f || c.toNat = 0x205f || c.toNat = 0x3000

/-- `str::trim`. -/
def trim (t : Text) : Text := (t.dropWhile isWhitespace).rdropWhile isWhitespace

/-- The lines of a stream are the stream. -/
theorem flatten_linesOf (stream : Bytes) : (linesOf stream).flatten = stream := by
  induction stream with
  | nil => rfl
  | cons byte rest ih =>
      by_cases hbyte : byte = 10
      · rw [linesOf, if_pos hbyte, List.flatten_cons, ih]
        rfl
      · rw [linesOf, if_neg hbyte]
        -- A byte that ends no line is put in front of the first line behind it.
        rcases hlines : linesOf rest with _ | ⟨line, lines⟩
        · rw [hlines] at ih
          rw [← ih]
          rfl
        · rw [hlines, List.flatten_cons] at ih
          rw [← ih]
          rfl

/-- A line in front of a stream is its first. -/
theorem linesOf_append {line : Bytes} (h : IsLine line) (rest : Bytes) :
    linesOf (line ++ rest) = line :: linesOf rest := by
  rcases h with ⟨content, rfl, hcontent⟩
  induction content with
  | nil => rw [List.nil_append, List.singleton_append, linesOf, if_pos rfl]
  | cons byte content ih =>
      rw [List.mem_cons, not_or] at hcontent
      rw [List.cons_append, List.cons_append, linesOf, if_neg (Ne.symm hcontent.1), ih hcontent.2]

/-- Without a line feed there is at most one line. -/
theorem length_linesOf_le_one {bytes : Bytes} (h : 10 ∉ bytes) : (linesOf bytes).length ≤ 1 := by
  induction bytes with
  | nil => exact Nat.zero_le 1
  | cons byte bytes ih =>
      rw [List.mem_cons, not_or] at h
      have hrest := ih h.2
      rw [linesOf, if_neg (Ne.symm h.1)]
      rcases hlines : linesOf bytes with _ | ⟨line, lines⟩
      · exact Nat.le_refl 1
      · rw [hlines] at hrest
        exact hrest

/-- A line that is cut off before its line feed is the last there is. -/
theorem length_linesOf_take_le_one {line : Bytes} (h : IsLine line) (rest : Bytes) {n : Nat}
    (hn : n < line.length) : (linesOf ((line ++ rest).take n)).length ≤ 1 := by
  rcases h with ⟨content, rfl, hcontent⟩
  rw [List.length_append, List.length_singleton] at hn
  -- What is left of the line is in front of its only line feed.
  apply length_linesOf_le_one
  rw [List.append_assoc, List.take_append_of_le_length (Nat.le_of_lt_succ hn)]
  exact fun hmem => hcontent (List.mem_of_mem_take hmem)

/-- A line feed is in the encoding of no other character. -/
theorem eq_newline_of_mem_utf8EncodeChar {c : Char} (h : 10 ∈ String.utf8EncodeChar c) :
    c = '\n' := by
  have hbyte : ∀ n, (10 : UInt8) = UInt8.ofNat n → n % 256 = 10 := by
    intro n hn
    have htoNat := congrArg UInt8.toNat hn
    rw [UInt8.toNat_ofNat'] at htoNat
    exact htoNat.symm
  -- The bytes of a character that takes more than one all have the high bit.
  have hhigh : ∀ n, 128 ≤ n → n < 256 → (10 : UInt8) ≠ UInt8.ofNat n := by
    intro n hlow hn heq
    have hmod := hbyte n heq
    omega
  unfold String.utf8EncodeChar at h
  by_cases h1 : c.val.toNat ≤ 0x7f
  · simp only [if_pos h1, List.mem_singleton] at h
    have hmod := hbyte _ h
    apply Char.toNat_inj.mp
    change c.val.toNat = 10
    omega
  simp only [if_neg h1] at h
  by_cases h2 : c.val.toNat ≤ 0x7ff
  · simp only [if_pos h2, List.mem_cons, List.not_mem_nil, or_false] at h
    rcases h with h | h
    all_goals exact absurd h (hhigh _ (by omega) (by omega))
  simp only [if_neg h2] at h
  by_cases h3 : c.val.toNat ≤ 0xffff
  · simp only [if_pos h3, List.mem_cons, List.not_mem_nil, or_false] at h
    rcases h with h | h | h
    all_goals exact absurd h (hhigh _ (by omega) (by omega))
  simp only [if_neg h3, List.mem_cons, List.not_mem_nil, or_false] at h
  rcases h with h | h | h | h
  all_goals exact absurd h (hhigh _ (by omega) (by omega))

theorem newline_notMem_utf8 {t : Text} (h : '\n' ∉ t) : 10 ∉ utf8 t := by
  intro hmem
  rcases List.mem_flatMap.mp hmem with ⟨c, hc, hbyte⟩
  rw [eq_newline_of_mem_utf8EncodeChar hbyte] at hc
  exact h hc

/-- A text without a line feed is a line once it is terminated. -/
theorem isLine_utf8 {t : Text} (h : '\n' ∉ t) : IsLine (utf8 (t ++ crlf)) := by
  have hcr : '\n' ∉ t ++ ['\r'] := by
    rw [List.mem_append, not_or]
    exact ⟨h, by decide⟩
  refine ⟨utf8 (t ++ ['\r']), ?_, newline_notMem_utf8 hcr⟩
  have hsplit : t ++ crlf = (t ++ ['\r']) ++ ['\n'] := by
    rw [List.append_assoc]
    rfl
  rw [hsplit, utf8_append]
  rfl

/-- Lines of text are read back from a stream that starts with them. -/
theorem linesOf_utf8_append {ls : List Text} (h : ∀ l ∈ ls, '\n' ∉ l) (rest : Bytes) :
    linesOf (utf8 (ls.flatMap (· ++ crlf)) ++ rest)
      = ls.map (fun l => utf8 (l ++ crlf)) ++ linesOf rest := by
  induction ls with
  | nil => rfl
  | cons l ls ih =>
      rw [List.forall_mem_cons] at h
      rw [List.flatMap_cons, utf8_append, List.append_assoc, linesOf_append (isLine_utf8 h.1),
        ih h.2]
      rfl

theorem textOf_utf8 (t : Text) : textOf (utf8 t) = t := by
  rw [textOf, fromUtf8_utf8, Option.getD_some]

theorem dropWhile_of_trim {t : Text} (h : trim t = t) : t.dropWhile isWhitespace = t := by
  apply (List.dropWhile_suffix isWhitespace).eq_of_length_le
  have hle := (List.rdropWhile_prefix isWhitespace (t.dropWhile isWhitespace)).length_le
  rw [trim] at h
  rw [h] at hle
  exact hle

theorem rdropWhile_of_trim {t : Text} (h : trim t = t) : t.rdropWhile isWhitespace = t := by
  rw [trim, dropWhile_of_trim h] at h
  exact h

/-- White space around a trimmed text is trimmed off. -/
theorem trim_append {s t u : Text} (h : trim t = t) (hs : ∀ c ∈ s, isWhitespace c = true)
    (hu : ∀ c ∈ u, isWhitespace c = true) : trim (s ++ t ++ u) = t := by
  have hright := (rdropWhile_append_eq_iff (rdropWhile_of_trim h) u).mpr hu
  rw [trim, List.append_assoc, List.dropWhile_append_of_pos hs]
  rcases t with _ | ⟨c, t⟩
  · have hnil : u.dropWhile isWhitespace = [] := List.dropWhile_eq_nil_iff.mpr hu
    rw [List.nil_append, hnil]
    rfl
  · -- The text starts with something that is not white space.
    have hc : isWhitespace c = false := by
      have hdrop := dropWhile_of_trim h
      rw [List.dropWhile_cons] at hdrop
      by_contra hc
      rw [Bool.not_eq_false] at hc
      rw [if_pos hc] at hdrop
      have hle := (List.dropWhile_suffix isWhitespace (l := t)).length_le
      rw [hdrop, List.length_cons] at hle
      omega
    rw [List.cons_append, List.dropWhile_cons_of_neg (by rw [hc]; exact Bool.false_ne_true),
      ← List.cons_append]
    exact hright

/-- Only white space is trimmed to nothing. -/
theorem isWhitespace_of_trim {t : Text} (h : trim t = []) {c : Char} (hc : c ∈ t) :
    isWhitespace c = true := by
  rw [trim, List.rdropWhile_eq_nil_iff] at h
  rw [← List.takeWhile_append_dropWhile (p := isWhitespace) (l := t), List.mem_append] at hc
  rcases hc with hfront | hrest
  · exact List.mem_takeWhile_imp hfront
  · exact h c hrest

/-- Without white space there is nothing to trim. -/
theorem trim_of_forall {t : Text} (h : ∀ c ∈ t, isWhitespace c = false) : trim t = t := by
  have hdrop : t.dropWhile isWhitespace = t := by
    cases t with
    | nil => rfl
    | cons c t =>
        exact List.dropWhile_cons_of_neg (by rw [h c List.mem_cons_self]; exact Bool.false_ne_true)
  rw [trim, hdrop, List.rdropWhile_eq_self_iff]
  intro hne
  rw [h _ (List.getLast_mem hne)]
  exact Bool.false_ne_true

theorem trim_showNat (n : Nat) : trim (showNat n) = showNat n := by
  apply trim_of_forall
  intro c hc
  have hdigit := isDigit_of_mem_showNat hc
  simp only [Char.isDigit, Bool.and_eq_true, decide_eq_true_eq] at hdigit
  have hlow : 48 ≤ c.toNat := hdigit.1
  have hhigh : c.toNat ≤ 57 := hdigit.2
  simp only [isWhitespace, Bool.or_eq_false_iff, Bool.and_eq_false_iff, decide_eq_false_iff_not]
  omega

end Reader

end SigmaMedia
