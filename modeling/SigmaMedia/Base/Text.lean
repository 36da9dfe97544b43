import Mathlib.Data.List.DropRight
import SigmaMedia.Base.Bytes

/-!
# Text

Strings as lists of characters, with the operations a line-oriented parser
uses. Splitting at one character and trimming at the end are Mathlib's; what
is added here is splitting at the first occurrence of a pattern, cutting a
text into lines, reading and printing unsigned integers, and the UTF-8
encoding.

The encoding is the core library's. `fromUtf8_eq_some` says that decoding
accepts exactly the encodings, so a proof never has to look inside the
decoder.

Printing is undone by reading in three places: an integer is read back from
its digits, a list of words from the words with blanks between them, and a
list of lines from the lines with their terminators. The last two need the
separator to be in none of the pieces, which a split guarantees of what it
gives.

## Main definitions

* `Text`: A string.
* `utf8`, `fromUtf8`: Encoding and checked decoding.
* `splitOnce`: Splitting at the first occurrence of a pattern.
* `lines`: The lines of a text, terminators removed.
* `parseUnsigned`: Reading an unsigned integer below a bound.
* `showNat`: Printing one.
* `unwords`: Words with single blanks between them.
* `crlf`: The terminator lines are written with.

## Theorems

* `fromUtf8_eq_some`: Decoding accepts exactly the encodings.
* `utf8_append`, `exists_of_utf8_append`: Encoding is a homomorphism, and
  prefixes of encodings are encodings of prefixes.
* `splitOnce_append`, `splitOnce_singleton`: Where a text is split.
* `splitOnce_singleton_isSome`: A split at one character needs that character.
* `splitOnce_singleton_eq_some`: And is made where it occurs first.
* `head?_splitOn`: The first piece of a split.
* `of_mem_splitOn`: What the pieces of a split are made of.
* `parseUnsigned_showNat`: An integer is read back.
* `splitOn_unwords`: So are words.
* `lines_flatMap`: So are lines.
* `length_utf8_alphanum`: Alphanumeric text takes one byte per character.
-/

namespace SigmaMedia

/-- A string. -/
abbrev Text := List Char

namespace Text

/-- The bytes of a text, `str::as_bytes`. -/
def utf8 (t : Text) : Bytes := t.flatMap String.utf8EncodeChar

/-- Checked decoding, `String::from_utf8`. -/
def fromUtf8 (b : Bytes) : Option Text := b.toByteArray.utf8Decode?.map Array.toList

/-- Split at the first occurrence of `pat`, `str::split_once`. -/
def splitOnce (pat : Text) : Text → Option (Text × Text)
  | [] => if pat = [] then some ([], []) else none
  | c :: cs =>
      if pat.isPrefixOf (c :: cs) then some ([], (c :: cs).drop pat.length)
      else (splitOnce pat cs).map fun (before, after) => (c :: before, after)

/-- Drop one carriage return from the end of a terminated line. -/
def stripCr (line : Text) : Text :=
  if line.getLast? = some '\r' then line.dropLast else line

/-- The lines of a text, `str::lines`: every line feed ends a line, together
    with a carriage return right before it, and an empty rest is no line. -/
def lines (t : Text) : List Text :=
  let pieces := t.splitOn '\n'
  let rest := pieces.getLastD []
  pieces.dropLast.map stripCr ++ (if rest = [] then [] else [rest])

/-- The value of a digit in a radix up to sixteen, `char::to_digit`. -/
def toDigit (radix : Nat) (c : Char) : Option Nat :=
  let v :=
    if '0' ≤ c ∧ c ≤ '9' then c.toNat - '0'.toNat
    else if 'a' ≤ c ∧ c ≤ 'f' then c.toNat - 'a'.toNat + 10
    else if 'A' ≤ c ∧ c ≤ 'F' then c.toNat - 'A'.toNat + 10
    else 16
  if v < radix then some v else none

/-- Accumulate decimal digits, failing as soon as the bound is passed. -/
def parseDigits (limit : Nat) : Nat → Text → Option Nat
  | acc, [] => some acc
  | acc, c :: cs => do
      let d ← toDigit 10 c
      let acc := acc * 10 + d
      if acc < limit then parseDigits limit acc cs else none

/-- Read an unsigned decimal integer below `limit`, `str::parse`: a leading
    plus sign is allowed, an empty digit string is not. -/
def parseUnsigned (limit : Nat) : Text → Option Nat
  | [] => none
  | ['+'] => none
  | '+' :: digits => parseDigits limit 0 digits
  | digits => parseDigits limit 0 digits

/-- An unsigned integer in decimal, `to_string`. -/
def showNat (n : Nat) : Text := Nat.toDigits 10 n

/-- Words with single blanks between them. -/
def unwords (words : List Text) : Text := [' '].intercalate words

/-- The terminator of a line. -/
def crlf : Text := ['\r', '\n']

theorem fromUtf8_utf8 (t : Text) : fromUtf8 (utf8 t) = some t := by
  have h : (utf8 t).toByteArray = t.utf8Encode := rfl
  rw [fromUtf8, h, List.utf8Decode?_utf8Encode, Option.map_some]

/-- Decoding accepts exactly the encodings. -/
theorem fromUtf8_eq_some {b : Bytes} {t : Text} : fromUtf8 b = some t ↔ b = utf8 t := by
  constructor
  · intro h
    rcases hd : b.toByteArray.utf8Decode? with _ | chars
    · rw [fromUtf8, hd] at h
      cases h
    · have hs : b.toByteArray.utf8Decode?.isSome := by rw [hd]; rfl
      -- What is decoded is encoded as the bytes it came from.
      have henc := ByteArray.utf8Encode_get_utf8Decode? (h := hs)
      rw [fromUtf8, hd, Option.map_some, Option.some.injEq] at h
      simp only [hd, Option.get_some, h] at henc
      have hlist : (utf8 t).toByteArray.data.toList = b.toByteArray.data.toList := by
        rw [← henc]
        rfl
      rwa [List.data_toByteArray, List.data_toByteArray, List.toList_toArray,
        List.toList_toArray, eq_comm] at hlist
  · rintro rfl
    exact fromUtf8_utf8 t

theorem utf8_append (s t : Text) : utf8 (s ++ t) = utf8 s ++ utf8 t := List.flatMap_append

/-- An encoding that starts with another one encodes a longer text. -/
theorem exists_of_utf8_append {s t : Text} {b : Bytes} (h : utf8 s ++ b = utf8 t) :
    ∃ more, t = s ++ more ∧ b = utf8 more := by
  have hbytes : s.utf8Encode ++ b.toByteArray = t.utf8Encode := by
    have harray := congrArg List.toByteArray h
    rw [List.toByteArray_append] at harray
    exact harray
  rcases List.isPrefix_of_utf8Encode_append_eq_utf8Encode _ hbytes with ⟨more, rfl⟩
  rw [utf8_append] at h
  exact ⟨more, rfl, List.append_cancel_left h⟩

/-- A text comes back from a longer one by trimming exactly when all that
    follows it is trimmed. -/
theorem rdropWhile_append_eq_iff {p : Char → Bool} {t : Text} (h : t.rdropWhile p = t)
    (more : Text) : (t ++ more).rdropWhile p = t ↔ ∀ c ∈ more, p c = true := by
  constructor
  · intro htrim c hc
    -- What is trimmed is all that was added.
    have hparts := List.rdropWhile_append_rtakeWhile (p := p) (l := t ++ more)
    rw [htrim, List.append_cancel_left_eq] at hparts
    rw [← hparts] at hc
    exact List.mem_rtakeWhile_imp hc
  · intro hall
    induction more using List.reverseRecOn with
    | nil => rw [List.append_nil, h]
    | append_singleton more c ih =>
        have hc : p c = true := hall c (List.mem_append_right _ (List.mem_singleton.mpr rfl))
        rw [← List.append_assoc, List.rdropWhile_concat_pos p _ c hc]
        exact ih fun d hd => hall d (List.mem_append_left _ hd)

/-- A pattern at the front is the first occurrence. -/
theorem splitOnce_append {pat : Text} (hpat : pat ≠ []) (t : Text) :
    splitOnce pat (pat ++ t) = some ([], t) := by
  rcases pat with _ | ⟨c, cs⟩
  · exact absurd rfl hpat
  · have hpre : (c :: cs).isPrefixOf (c :: cs ++ t) = true :=
      List.isPrefixOf_iff_prefix.mpr (List.prefix_append _ _)
    rw [List.cons_append] at hpre ⊢
    rw [splitOnce, if_pos hpre, ← List.cons_append, List.drop_left]

/-- A split gives back the text around the pattern. -/
theorem splitOnce_eq_some {pat t before after : Text} (h : splitOnce pat t = some (before, after)) :
    t = before ++ pat ++ after := by
  -- Over the text in front of the first place where the pattern stands.
  induction t generalizing before with
  | nil =>
      by_cases hp : pat = []
      · simp only [splitOnce, hp, if_true, Option.some.injEq, Prod.mk.injEq] at h
        rw [← h.1, ← h.2, hp]
        rfl
      · simp only [splitOnce, if_neg hp, reduceCtorEq] at h
  | cons c cs ih =>
      by_cases hp : pat.isPrefixOf (c :: cs)
      · simp only [splitOnce, hp, if_true, Option.some.injEq, Prod.mk.injEq] at h
        rcases List.isPrefixOf_iff_prefix.mp hp with ⟨rest, hrest⟩
        rw [← h.1, ← h.2, ← hrest, List.drop_left]
        rfl
      · simp only [splitOnce, hp, Bool.false_eq_true, if_false, Option.map_eq_some_iff,
          Prod.mk.injEq, Prod.exists] at h
        rcases h with ⟨b, a, hs, rfl, rfl⟩
        rw [ih hs]
        rfl

/-- What stands behind the pattern is the end of the text. -/
theorem suffix_of_splitOnce {pat t before after : Text}
    (h : splitOnce pat t = some (before, after)) : after <:+ t :=
  ⟨before ++ pat, (splitOnce_eq_some h).symm⟩

/-- A character is found behind a text it does not occur in. -/
theorem splitOnce_singleton {c : Char} {s : Text} (h : c ∉ s) (t : Text) :
    splitOnce [c] (s ++ c :: t) = some (s, t) := by
  induction s with
  | nil => exact splitOnce_append (List.cons_ne_nil _ _) t
  | cons d ds ih =>
      rw [List.mem_cons, not_or] at h
      have hno : ([c] : Text).isPrefixOf (d :: (ds ++ c :: t)) = false := by
        rw [List.isPrefixOf, beq_eq_false_iff_ne.mpr h.1, Bool.false_and]
      rw [List.cons_append, splitOnce, if_neg (by rw [hno]; exact Bool.false_ne_true), ih h.2]
      rfl

/-- A single character is found exactly when it occurs. -/
theorem splitOnce_singleton_isSome {c : Char} {t : Text} :
    (splitOnce [c] t).isSome ↔ c ∈ t := by
  induction t with
  | nil => simp only [splitOnce, List.cons_ne_self, if_false, Option.isSome_none,
      Bool.false_eq_true, List.not_mem_nil]
  | cons d ds ih =>
      simp only [splitOnce, List.isPrefixOf, Bool.and_true, List.mem_cons]
      by_cases hd : c = d
      · simp only [hd, beq_self_eq_true, if_true, Option.isSome_some, true_or]
      · have hb : (c == d) = false := beq_eq_false_iff_ne.mpr hd
        simp only [hb, Bool.false_eq_true, if_false, Option.isSome_map, ih, hd, false_or]

/-- A split at one character is at its first occurrence. -/
theorem splitOnce_singleton_eq_some {c : Char} {t before after : Text} :
    splitOnce [c] t = some (before, after) ↔ t = before ++ c :: after ∧ c ∉ before := by
  constructor
  · intro h
    have hmem : c ∈ t := splitOnce_singleton_isSome.mp (by rw [h]; rfl)
    rcases List.eq_append_cons_of_mem hmem with ⟨s, r, rfl, hs⟩
    rw [splitOnce_singleton hs, Option.some.injEq, Prod.mk.injEq] at h
    rcases h with ⟨rfl, rfl⟩
    exact ⟨rfl, hs⟩
  · intro h
    rcases h with ⟨rfl, hbefore⟩
    exact splitOnce_singleton hbefore after

/-- The first piece of a split runs up to the separator. -/
theorem head?_splitOn (c : Char) (t : Text) :
    (t.splitOn c).head? = some (t.takeWhile (· ≠ c)) := by
  induction t with
  | nil => rfl
  | cons d ds ih =>
      rw [List.splitOn_cons_eq_if_modifyHead]
      by_cases hd : d = c
      · rw [if_pos (beq_iff_eq.mpr hd), List.takeWhile_cons_of_neg (by simp only [hd, ne_eq,
          not_true_eq_false, decide_false, Bool.false_eq_true, not_false_eq_true])]
        rfl
      · rw [if_neg (by rw [beq_iff_eq]; exact hd), List.takeWhile_cons_of_pos (by
          rw [decide_eq_true_eq]; exact hd), List.head?_modifyHead, ih]
        rfl

/-- The characters of a piece are those of the text, less the separator. -/
theorem of_mem_splitOn {c d : Char} {t piece : Text} (h : piece ∈ t.splitOn c) (hd : d ∈ piece) :
    d ∈ t ∧ d ≠ c := by
  induction t generalizing piece with
  | nil =>
      rw [List.splitOn_nil, List.mem_singleton] at h
      rw [h] at hd
      exact absurd hd List.not_mem_nil
  | cons e es ih =>
      rw [List.splitOn_cons_eq_if_modifyHead] at h
      rcases hpieces : es.splitOn c with _ | ⟨first, rest⟩
      · exact absurd hpieces (List.splitOn_ne_nil c es)
      rw [hpieces] at h ih
      have hlater : ∀ {p : Text}, p ∈ first :: rest → d ∈ p → d ∈ e :: es ∧ d ≠ c := fun hp hmem =>
        ⟨List.mem_cons_of_mem e (ih hp hmem).1, (ih hp hmem).2⟩
      by_cases he : e = c
      · rw [if_pos (beq_iff_eq.mpr he), List.mem_cons] at h
        rcases h with rfl | h
        · exact absurd hd List.not_mem_nil
        · exact hlater h hd
      · -- The character joins the first piece.
        rw [if_neg (by rw [beq_iff_eq]; exact he), List.modifyHead_cons, List.mem_cons] at h
        rcases h with rfl | h
        · rcases List.mem_cons.mp hd with rfl | hd
          · exact ⟨List.mem_cons_self, he⟩
          · exact hlater List.mem_cons_self hd
        · exact hlater (List.mem_cons_of_mem first h) hd

theorem notMem_of_mem_splitOn {c : Char} {t piece : Text} (h : piece ∈ t.splitOn c) :
    c ∉ piece :=
  fun hc => (of_mem_splitOn h hc).2 rfl

section Decimal

theorem toDigit_of_isDigit {c : Char} (h : c.isDigit) :
    toDigit 10 c = some (c.toNat - '0'.toNat) := by
  have hrange : '0' ≤ c ∧ c ≤ '9' := by
    simp only [Char.isDigit, Bool.and_eq_true, decide_eq_true_eq] at h
    exact h
  have hle : c.toNat ≤ '9'.toNat := hrange.2
  have h9 : '9'.toNat = 57 := rfl
  have h0 : '0'.toNat = 48 := rfl
  unfold toDigit
  simp only [if_pos hrange]
  rw [if_pos (by omega)]

theorem le_ofDigitChars (t : Text) (acc : Nat) : acc ≤ Nat.ofDigitChars 10 t acc := by
  induction t generalizing acc with
  | nil => rw [Nat.ofDigitChars_nil]
  | cons c cs ih =>
      have hrest := ih (10 * acc + (c.toNat - '0'.toNat))
      rw [Nat.ofDigitChars_cons]
      omega

/-- Digits are read to their value, as long as that is below the bound. -/
theorem parseDigits_of_isDigit {limit : Nat} {t : Text} (hdigits : ∀ c ∈ t, c.isDigit) {acc : Nat}
    (h : Nat.ofDigitChars 10 t acc < limit) :
    parseDigits limit acc t = some (Nat.ofDigitChars 10 t acc) := by
  induction t generalizing acc with
  | nil => rw [parseDigits, Nat.ofDigitChars_nil]
  | cons c cs ih =>
      rw [Nat.ofDigitChars_cons] at h ⊢
      have hacc : acc * 10 + (c.toNat - '0'.toNat) = 10 * acc + (c.toNat - '0'.toNat) := by omega
      -- The value only grows, so no prefix of it passes the bound either.
      have hle := le_ofDigitChars cs (10 * acc + (c.toNat - '0'.toNat))
      rw [parseDigits, toDigit_of_isDigit (hdigits c List.mem_cons_self)]
      simp only [Option.bind_eq_bind, Option.bind_some]
      rw [hacc, if_pos (by omega)]
      exact ih (fun d hd => hdigits d (List.mem_cons_of_mem c hd)) h

theorem isDigit_of_mem_showNat {n : Nat} {c : Char} (h : c ∈ showNat n) : c.isDigit :=
  Nat.isDigit_of_mem_toDigits (by decide) (by decide) h

/-- A printed integer has no character that is not a digit. -/
theorem notMem_showNat {c : Char} (hc : c.isDigit = false) (n : Nat) : c ∉ showNat n := by
  intro hmem
  have hdigit := isDigit_of_mem_showNat hmem
  rw [hc] at hdigit
  cases hdigit

/-- An integer is read back from its digits. -/
theorem parseUnsigned_showNat {limit n : Nat} (h : n < limit) :
    parseUnsigned limit (showNat n) = some n := by
  have hvalue : Nat.ofDigitChars 10 (showNat n) 0 = n := Nat.ofDigitChars_ten_toDigits
  have hparse : parseDigits limit 0 (showNat n) = some n := by
    rw [parseDigits_of_isDigit (fun c hc => isDigit_of_mem_showNat hc)
      (by rw [hvalue]; exact h), hvalue]
  have hplus := notMem_showNat (c := '+') rfl n
  rcases hdigits : showNat n with _ | ⟨c, cs⟩
  · exact absurd hdigits Nat.toDigits_ne_nil
  · rw [hdigits] at hparse hplus
    have hne : c ≠ '+' := fun hc => hplus (hc ▸ List.mem_cons_self)
    -- The first two patterns of the reader ask for a plus sign.
    rw [parseUnsigned]
    · exact hparse
    · intro hc
      cases hc
    · intro hc
      cases hc
      exact hne rfl
    · intro digits hc
      cases hc
      exact hne rfl

theorem parseDigits_lt {limit acc n : Nat} {t : Text} (hacc : acc < limit)
    (h : parseDigits limit acc t = some n) : n < limit := by
  induction t generalizing acc with
  | nil =>
      cases h
      exact hacc
  | cons c cs ih =>
      simp only [parseDigits, Option.bind_eq_bind, Option.bind_eq_some_iff] at h
      rcases h with ⟨d, _, h⟩
      split at h
      · rename_i hlt
        exact ih hlt h
      · cases h

/-- What is read is below the bound. -/
theorem parseUnsigned_lt {limit n : Nat} {t : Text} (hpos : 0 < limit)
    (h : parseUnsigned limit t = some n) : n < limit := by
  unfold parseUnsigned at h
  split at h
  · cases h
  · cases h
  · exact parseDigits_lt hpos h
  · exact parseDigits_lt hpos h

end Decimal

/-- Words are read back from the blanks between them. -/
theorem splitOn_unwords {words : List Text} (hne : words ≠ []) (h : ∀ w ∈ words, ' ' ∉ w) :
    (unwords words).splitOn ' ' = words :=
  List.splitOn_intercalate ' ' h hne

/-- A character in none of the pieces is not in their join. -/
theorem notMem_intercalate {c d : Char} {pieces : List Text} (hcd : c ≠ d)
    (h : ∀ piece ∈ pieces, c ∉ piece) : c ∉ [d].intercalate pieces := by
  induction pieces with
  | nil => exact List.not_mem_nil
  | cons p ps ih =>
      have hp := h p List.mem_cons_self
      rcases ps with _ | ⟨q, qs⟩
      · rw [List.intercalate_singleton]
        exact hp
      · have hrest := ih fun piece hpiece => h piece (List.mem_cons_of_mem p hpiece)
        rw [List.intercalate_cons_cons, List.mem_append, List.mem_append, List.mem_singleton,
          not_or, not_or]
        exact ⟨⟨hp, hcd⟩, hrest⟩

/-- Terminators between lines and one behind them are one behind each. -/
theorem intercalate_crlf {ls : List Text} (h : ls ≠ []) :
    crlf.intercalate ls ++ crlf = ls.flatMap (· ++ crlf) := by
  induction ls with
  | nil => exact absurd rfl h
  | cons l ls ih =>
      rcases ls with _ | ⟨m, ms⟩
      · rw [List.intercalate_singleton, List.flatMap_cons, List.flatMap_nil, List.append_nil]
      · rw [List.intercalate_cons_cons, List.append_assoc, ih (List.cons_ne_nil m ms)]
        rfl

/-- Lines are read back from their terminators. -/
theorem lines_flatMap {ls : List Text} (h : ∀ l ∈ ls, '\n' ∉ l) :
    lines (ls.flatMap (· ++ crlf)) = ls := by
  -- Splitting gives every line with its carriage return, and an empty piece
  -- behind the last terminator.
  have hsplit : (ls.flatMap (· ++ crlf)).splitOn '\n' = ls.map (· ++ ['\r']) ++ [[]] := by
    induction ls with
    | nil => rfl
    | cons l ls ih =>
        have hl : '\n' ∉ l ++ ['\r'] := by
          rw [List.mem_append, not_or]
          exact ⟨h l List.mem_cons_self, by decide⟩
        have hfirst : l ++ crlf ++ ls.flatMap (· ++ crlf)
            = (l ++ ['\r']) ++ '\n' :: ls.flatMap (· ++ crlf) := by
          simp only [crlf, List.append_assoc, List.cons_append, List.nil_append]
        rw [List.flatMap_cons, hfirst, List.splitOn_append_cons_self_of_not_mem hl,
          ih fun m hm => h m (List.mem_cons_of_mem l hm)]
        rfl
  have hstrip : (stripCr ∘ fun l : Text => l ++ ['\r']) = id := by
    funext l
    rw [Function.comp_apply, stripCr, List.getLast?_concat, if_pos rfl, List.dropLast_concat, id]
  rw [lines, hsplit, List.dropLast_concat]
  simp only [List.getLastD_concat, if_true, List.append_nil, List.map_map]
  rw [hstrip, List.map_id]

/-- A line does not have a line feed. -/
theorem notMem_of_mem_lines {t l : Text} (h : l ∈ lines t) : '\n' ∉ l := by
  have hstrip : ∀ piece : Text, '\n' ∉ piece → '\n' ∉ stripCr piece := by
    intro piece hpiece hmem
    unfold stripCr at hmem
    split at hmem
    · exact hpiece (List.dropLast_subset piece hmem)
    · exact hpiece hmem
  rw [lines, List.mem_append] at h
  rcases h with h | h
  · rcases List.mem_map.mp h with ⟨piece, hpiece, rfl⟩
    exact hstrip piece (notMem_of_mem_splitOn (List.dropLast_subset _ hpiece))
  · split at h
    · cases h
    · -- The rest is the last piece.
      rw [List.mem_singleton] at h
      have hlast : (t.splitOn '\n').getLastD [] ∈ t.splitOn '\n' := by
        rw [List.getLastD_eq_getLast?, List.getLast?_eq_some_getLast (List.splitOn_ne_nil _ _)]
        exact List.getLast_mem _
      rw [h]
      exact notMem_of_mem_splitOn hlast

/-- An ASCII character is its own encoding. -/
theorem length_utf8EncodeChar_alphanum {c : Char} (h : c.isAlphanum) :
    (String.utf8EncodeChar c).length = 1 := by
  have hle : c.val ≤ 0x7f := by
    -- The three ranges of characters, spelled out.
    have hranges : (decide (c.val ≥ 'A'.val ∧ c.val ≤ 'Z'.val)
        || (decide (c.val ≥ 'a'.val) && decide (c.val ≤ 'z'.val))
        || (decide (c.val ≥ '0'.val) && decide (c.val ≤ '9'.val))) = true := h
    simp only [Bool.or_eq_true, Bool.and_eq_true, decide_eq_true_eq, ge_iff_le,
      UInt32.le_iff_toNat_le] at hranges
    have hZ : 'Z'.val.toNat = 90 := rfl
    have hz : 'z'.val.toNat = 122 := rfl
    have h9 : '9'.val.toNat = 57 := rfl
    have hmax : (0x7f : UInt32).toNat = 127 := rfl
    rw [UInt32.le_iff_toNat_le, hmax]
    omega
  rw [String.length_utf8EncodeChar, Char.utf8Size]
  exact if_pos hle

theorem length_utf8_alphanum {t : Text} (h : ∀ c ∈ t, c.isAlphanum) :
    (utf8 t).length = t.length := by
  induction t with
  | nil => rfl
  | cons c cs ih =>
      have hc := length_utf8EncodeChar_alphanum (h c List.mem_cons_self)
      have hcs := ih fun d hd => h d (List.mem_cons_of_mem c hd)
      simp only [utf8, List.flatMap_cons, List.length_append, List.length_cons] at hcs ⊢
      omega

end Text

end SigmaMedia
