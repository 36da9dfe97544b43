import Mathlib.Algebra.Group.Nat.Defs
import SigmaMedia.Base.Net

/-!
# Printed Addresses

IP addresses as the standard library prints them, and that the readers undo
the printing. Octets are printed in decimal between dots, segments in
hexadecimal between colons, with the first longest run of zero segments
elided when it has two or more, and an address mapped from IPv4 keeps its
dotted form.

`readNumber_toDigits` is the one fact about digits, for every radix up to
sixteen. Everything above it is about separators: a run of groups is read
until what follows is no further group, and a text without a dot is no IPv4
address, so the reader never mistakes a group for an octet.

## Main definitions

* `showIpv4`, `showIpv6`, `showIp`: Printing an address.
* `IsIpChar`: A character of an address.

## Theorems

* `readNumber_toDigits`: A printed number is read off the front.
* `isIpChar_of_parseIp`: An address has only digits, dots and colons.
* `parseIpv4_showIpv4`, `parseIpv6_showIpv6`, `parseIp_showIp`: What is
  printed is read back.
-/

namespace SigmaMedia

namespace Net

open Text

/-- Octets in decimal between dots, `Display` of `Ipv4Addr`. -/
def showOctets (octets : Bytes) : Text :=
  ['.'].intercalate (octets.map fun octet => showNat octet.toNat)

/-- An IPv4 address in dotted form. -/
def showIpv4 (ip : ByteArr 4) : Text := showOctets ip.val

/-- The 16-bit segments some octets spell. -/
def segments : Bytes → List UInt16
  | a :: b :: rest => UInt16.ofNat (a.toNat * 256 + b.toNat) :: segments rest
  | _ => []

/-- A run of positions. -/
structure Span where
  start : Nat
  len : Nat

/-- The longest run of zeros, the first of its length: one pass with the run
    that is open and the longest so far. -/
def longestZeros (i : Nat) (current longest : Span) : List UInt16 → Span
  | [] => longest
  | segment :: rest =>
      if segment = 0 then
        let current : Span :=
          { start := if current.len = 0 then i else current.start, len := current.len + 1 }
        longestZeros (i + 1) current (if longest.len < current.len then current else longest) rest
      else longestZeros (i + 1) ⟨0, 0⟩ longest rest

/-- A segment in hexadecimal. -/
def showHex (segment : UInt16) : Text := Nat.toDigits 16 segment.toNat

/-- Segments, each behind a colon. -/
def laterGroups (tail : List UInt16) : Text := tail.flatMap fun segment => ':' :: showHex segment

/-- Segments between colons. -/
def showGroups : List UInt16 → Text
  | [] => []
  | first :: tail => showHex first ++ laterGroups tail

/-- `Display` of `Ipv6Addr`. -/
def showIpv6 (ip : ByteArr 16) : Text :=
  if ip.val.take 12 = List.replicate 10 0 ++ [255, 255] then
    "::ffff:".toList ++ showOctets (ip.val.drop 12)
  else
    let groups := segments ip.val
    let zeros := longestZeros 0 ⟨0, 0⟩ ⟨0, 0⟩ groups
    if 1 < zeros.len then
      showGroups (groups.take zeros.start) ++ "::".toList
        ++ showGroups (groups.drop (zeros.start + zeros.len))
    else showGroups groups

/-- `Display` of `IpAddr`. -/
def showIp : IpAddr → Text
  | .v4 octets => showIpv4 octets
  | .v6 octets => showIpv6 octets

example : showIpv6 ⟨[254, 128, 0, 0, 0, 0, 0, 0, 0, 0, 0, 0, 0, 1, 0, 171], rfl⟩
    = "fe80::1:ab".toList := by decide +kernel

example : showIpv6 ⟨[0, 0, 0, 0, 0, 0, 0, 0, 0, 0, 255, 255, 10, 0, 0, 7], rfl⟩
    = "::ffff:10.0.0.7".toList := by decide +kernel

example : showIpv6 ⟨[0, 1, 0, 0, 0, 0, 0, 2, 0, 0, 0, 0, 0, 3, 0, 4], rfl⟩
    = "1::2:0:0:3:4".toList := by decide +kernel

section Readers

/-- A character of an address. -/
def IsIpChar (c : Char) : Prop := (toDigit 16 c).isSome = true ∨ c = '.' ∨ c = ':'

instance (c : Char) : Decidable (IsIpChar c) := inferInstanceAs (Decidable (_ ∨ _))

/-- A reader takes characters of an address off the front. -/
def TakesIpChars (t rest : Text) : Prop := ∃ taken, t = taken ++ rest ∧ ∀ c ∈ taken, IsIpChar c

theorem TakesIpChars.refl (t : Text) : TakesIpChars t t :=
  ⟨[], rfl, fun _ h => absurd h List.not_mem_nil⟩

theorem TakesIpChars.trans {t s r : Text} (h : TakesIpChars t s) (h' : TakesIpChars s r) :
    TakesIpChars t r := by
  rcases h with ⟨taken, rfl, htaken⟩
  rcases h' with ⟨taken', rfl, htaken'⟩
  refine ⟨taken ++ taken', by rw [List.append_assoc], ?_⟩
  intro c hc
  rcases List.mem_append.mp hc with hc | hc
  · exact htaken c hc
  · exact htaken' c hc

/-- A digit of a radix is a digit of every larger one. -/
theorem toDigit_mono {c : Char} {radix : Nat} (hradix : radix ≤ 16)
    (h : (toDigit radix c).isSome = true) : (toDigit 16 c).isSome = true := by
  unfold toDigit at h ⊢
  simp only at h ⊢
  generalize (if '0' ≤ c ∧ c ≤ '9' then c.toNat - '0'.toNat
    else if 'a' ≤ c ∧ c ≤ 'f' then c.toNat - 'a'.toNat + 10
    else if 'A' ≤ c ∧ c ≤ 'F' then c.toNat - 'A'.toNat + 10
    else 16) = v at h ⊢
  by_cases hlt : v < radix
  · rw [if_pos (by omega)]
    rfl
  · rw [if_neg hlt] at h
    cases h

theorem readNumber_takes {radix maxDigits limit value : Nat} {zeros : Bool} {t rest : Text}
    (hradix : radix ≤ 16) (h : readNumber radix maxDigits limit zeros t = some (value, rest)) :
    TakesIpChars t rest := by
  simp only [readNumber] at h
  -- No digit, a leading zero or too many of them, and the value out of range:
  -- nothing is taken.
  split at h
  · cases h
  split at h
  · cases h
  split at h
  · cases h
    rcases List.takeWhile_prefix (l := t) fun c => (toDigit radix c).isSome with ⟨s, hs⟩
    refine ⟨t.takeWhile fun c => (toDigit radix c).isSome, ?_, ?_⟩
    · have hdrop := @List.drop_left _ (t.takeWhile fun c => (toDigit radix c).isSome) s
      rw [hs] at hdrop
      rw [hdrop, hs]
    · intro c hc
      have hdigit : (toDigit radix c).isSome = true :=
        List.mem_takeWhile_imp (p := fun c => (toDigit radix c).isSome) hc
      exact Or.inl (toDigit_mono hradix hdigit)
  · cases h

theorem readGivenChar_takes {c : Char} {t rest : Text} (hc : IsIpChar c)
    (h : readGivenChar c t = some rest) : TakesIpChars t rest := by
  rcases t with _ | ⟨d, ds⟩
  · cases h
  · rw [readGivenChar] at h
    split at h
    · rename_i hd
      cases h
      refine ⟨[d], rfl, ?_⟩
      intro e he
      rw [List.mem_singleton.mp he, hd]
      exact hc
    · cases h

theorem readIpv4_takes {t rest : Text} {octets : ByteArr 4}
    (h : readIpv4 t = some (octets, rest)) : TakesIpChars t rest := by
  have hdot : IsIpChar '.' := by decide
  have hten : 10 ≤ 16 := by decide
  simp only [readIpv4, Option.bind_eq_bind, Option.bind_eq_some_iff, Prod.exists,
    Option.some.injEq, Prod.mk.injEq] at h
  rcases h with ⟨a, t1, h1, t2, h2, b, t3, h3, t4, h4, c, t5, h5, t6, h6, d, t7, h7, _, rfl⟩
  exact (readNumber_takes hten h1).trans <| (readGivenChar_takes hdot h2).trans <|
    (readNumber_takes hten h3).trans <| (readGivenChar_takes hdot h4).trans <|
    (readNumber_takes hten h5).trans <| (readGivenChar_takes hdot h6).trans <|
    readNumber_takes hten h7

theorem readSeparator_takes {first : Bool} {t rest : Text}
    (h : readSeparator first t = some rest) : TakesIpChars t rest := by
  unfold readSeparator at h
  split at h
  · cases h
    exact TakesIpChars.refl t
  · exact readGivenChar_takes (by decide) h

theorem readGroups_takes (first : Bool) (limit : Nat) (t : Text) :
    TakesIpChars t (readGroups first limit t).2.2 := by
  -- Over the groups that may still be read.
  induction limit generalizing first t with
  | zero => exact TakesIpChars.refl t
  | succ limit ih =>
      rw [readGroups]
      split
      · rename_i v4 rest hv4
        split at hv4
        · rcases Option.bind_eq_some_iff.mp hv4 with ⟨s, hsep, hread⟩
          exact (readSeparator_takes hsep).trans (readIpv4_takes hread)
        · cases hv4
      · split
        · exact TakesIpChars.refl t
        · rename_i group rest hgroup
          rcases Option.bind_eq_some_iff.mp hgroup with ⟨s, hsep, hread⟩
          have hfirst := (readSeparator_takes hsep).trans (readNumber_takes (by decide) hread)
          exact hfirst.trans (ih false rest)

theorem readIpv6_takes {t rest : Text} {octets : Bytes} (h : readIpv6 t = some (octets, rest)) :
    TakesIpChars t rest := by
  have hhead := readGroups_takes true 8 t
  simp only [readIpv6] at h
  -- Either eight groups, or some, two colons and the rest.
  split at h
  · cases h
    exact hhead
  · split at h
    · cases h
    · simp only [Option.bind_eq_bind, Option.bind_eq_some_iff, Option.some.injEq,
        Prod.mk.injEq] at h
      rcases h with ⟨t1, h1, t2, h2, _, rfl⟩
      exact hhead.trans <| (readGivenChar_takes (by decide) h1).trans <|
        (readGivenChar_takes (by decide) h2).trans <| readGroups_takes true _ t2

/-- An address has only digits, dots and colons. -/
theorem isIpChar_of_parseIp {t : Text} {ip : IpAddr} (h : parseIp t = some ip) {c : Char}
    (hc : c ∈ t) : IsIpChar c := by
  have htakes : TakesIpChars t [] := by
    unfold parseIp at h
    -- An address is read as IPv4 first, and as IPv6 only if that fails.
    split at h
    · rename_i octets h4
      unfold parseIpv4 at h4
      split at h4
      · rename_i hread
        exact readIpv4_takes hread
      · cases h4
    · rcases Option.map_eq_some_iff.mp h with ⟨octets, h6, _⟩
      unfold parseIpv6 at h6
      split at h6
      · rename_i hread
        exact readIpv6_takes hread
      · cases h6
  -- The reader has come to the end, so the text is what was taken.
  rcases htakes with ⟨taken, ht, htaken⟩
  rw [List.append_nil] at ht
  rw [ht] at hc
  exact htaken c hc

/-- Without a dot there is no IPv4 address at the front. -/
theorem readIpv4_of_notMem {t : Text} (h : '.' ∉ t) : readIpv4 t = none := by
  by_contra hread
  rcases Option.ne_none_iff_exists'.mp hread with ⟨r, hr⟩
  simp only [readIpv4, Option.bind_eq_bind, Option.bind_eq_some_iff, Prod.exists] at hr
  rcases hr with ⟨a, t1, h1, t2, h2, _⟩
  rcases readNumber_takes (by decide) h1 with ⟨taken, rfl, _⟩
  -- Behind the first number a dot must stand.
  rcases t1 with _ | ⟨d, ds⟩
  · cases h2
  · rw [readGivenChar] at h2
    split at h2
    · rename_i hd
      rw [hd] at h
      exact h (List.mem_append_right _ List.mem_cons_self)
    · cases h2

end Readers

section Digits

theorem toDigit_digitChar {radix : Nat} (hradix : radix ≤ 16) {n : Nat} (hn : n < radix) :
    toDigit radix (Nat.digitChar n) = some n := by
  have hall : ∀ r ≤ 16, ∀ m < r, toDigit r (Nat.digitChar m) = some m := by decide +kernel
  exact hall radix hradix n hn

/-- The digits of a number are digits, and spell it. -/
theorem toDigits_spells {radix : Nat} (hone : 1 < radix) (hradix : radix ≤ 16) (n : Nat) :
    (∀ c ∈ Nat.toDigits radix n, (toDigit radix c).isSome = true) ∧
      (Nat.toDigits radix n).foldl (fun acc c => acc * radix + (toDigit radix c).getD 0) 0 = n := by
  induction n using Nat.strongRecOn with
  | ind n ih =>
      by_cases hlt : n < radix
      · have hdigit := toDigit_digitChar hradix hlt
        rw [Nat.toDigits_of_lt_base hlt]
        refine ⟨?_, ?_⟩
        · intro c hc
          rw [List.mem_singleton.mp hc, hdigit]
          rfl
        · rw [List.foldl_cons, List.foldl_nil, hdigit, Option.getD_some]
          omega
      · -- The last digit is the remainder, the others are those of the quotient.
        have hle : radix ≤ n := by omega
        have hdiv : n / radix < n := Nat.div_lt_self (by omega) hone
        rcases ih (n / radix) hdiv with ⟨hdigits, hvalue⟩
        have hdigit := toDigit_digitChar hradix (Nat.mod_lt n (by omega))
        rw [Nat.toDigits_of_base_le hone hle]
        refine ⟨?_, ?_⟩
        · intro c hc
          rcases List.mem_append.mp hc with hc | hc
          · exact hdigits c hc
          · rw [List.mem_singleton.mp hc, hdigit]
            rfl
        · rw [List.foldl_append, hvalue, List.foldl_cons, List.foldl_nil, hdigit, Option.getD_some]
          exact Nat.div_add_mod' n radix

/-- Only zero is printed with a zero in front. -/
theorem head_toDigits {radix : Nat} (hone : 1 < radix) (n : Nat)
    (h : (Nat.toDigits radix n).head? = some '0') : n = 0 := by
  -- On the number without its last digit.
  induction n using Nat.strongRecOn with
  | ind n ih =>
      by_cases hlt : n < radix
      · rw [Nat.toDigits_of_lt_base hlt, List.head?_cons, Option.some.injEq] at h
        exact Nat.digitChar_eq_zero.mp h
      · have hle : radix ≤ n := by omega
        have hdiv : n / radix < n := Nat.div_lt_self (by omega) hone
        rw [Nat.toDigits_of_base_le hone hle,
          List.head?_append_of_ne_nil _ Nat.toDigits_ne_nil] at h
        have hzero := ih (n / radix) hdiv h
        have hpos : 0 < n / radix := Nat.div_pos hle (by omega)
        omega

/-- The next character, if there is one, is no digit of the radix. -/
def EndsNumber (radix : Nat) (rest : Text) : Prop :=
  ∀ c, rest.head? = some c → (toDigit radix c).isSome = false

/-- A printed number is read off the front, in any radix up to sixteen. -/
theorem readNumber_toDigits {radix maxDigits limit n : Nat} {zeros : Bool} {rest : Text}
    (hone : 1 < radix) (hradix : radix ≤ 16) (hrest : EndsNumber radix rest)
    (hmax : 0 < maxDigits) (hlen : n < radix ^ maxDigits) (hlimit : n < limit) :
    readNumber radix maxDigits limit zeros (Nat.toDigits radix n ++ rest) = some (n, rest) := by
  rcases toDigits_spells hone hradix n with ⟨hdigits, hvalue⟩
  -- The digits end where the rest begins.
  have htake : (Nat.toDigits radix n ++ rest).takeWhile (fun c => (toDigit radix c).isSome)
      = Nat.toDigits radix n := by
    rw [List.takeWhile_append_of_pos hdigits]
    rcases rest with _ | ⟨c, cs⟩
    · rw [List.takeWhile_nil, List.append_nil]
    · rw [List.takeWhile_cons_of_neg (by rw [hrest c rfl]; exact Bool.false_ne_true),
        List.append_nil]
  have hle : (Nat.toDigits radix n).length ≤ maxDigits :=
    (Nat.length_toDigits_le_iff hone hmax).mpr hlen
  simp only [readNumber, htake]
  rw [if_neg, if_neg, hvalue, if_pos hlimit, List.drop_left]
  · -- A leading zero is the whole number.
    rintro ⟨_, hhead, hlong⟩
    rw [head_toDigits hone n hhead, Nat.toDigits_zero] at hlong
    exact absurd hlong (by decide)
  · -- Neither no digit nor too many.
    rintro (hnil | hlong)
    · exact Nat.toDigits_ne_nil hnil
    · omega

theorem endsNumber_nil (radix : Nat) : EndsNumber radix [] := by
  intro c hc
  cases hc

theorem endsNumber_cons {radix : Nat} {c : Char} (h : (toDigit radix c).isSome = false) (t : Text) :
    EndsNumber radix (c :: t) := by
  intro d hd
  cases hd
  exact h

/-- A character that is no digit starts no number. -/
theorem readNumber_cons_eq_none {radix maxDigits limit : Nat} {zeros : Bool} {c : Char}
    (h : (toDigit radix c).isSome = false) (t : Text) :
    readNumber radix maxDigits limit zeros (c :: t) = none := by
  have htake : (c :: t).takeWhile (fun c => (toDigit radix c).isSome) = [] :=
    List.takeWhile_cons_of_neg (by rw [h]; exact Bool.false_ne_true)
  simp only [readNumber, htake, true_or, if_true]

end Digits

section Ipv4

theorem readNumber_octet (octet : UInt8) {rest : Text} (hrest : EndsNumber 10 rest) :
    readNumber 10 3 256 false (showNat octet.toNat ++ rest) = some (octet.toNat, rest) := by
  have hlt := octet.toNat_lt
  exact readNumber_toDigits (by decide) (by decide) hrest (by decide) (by omega) hlt

theorem length_showNat_octet (octet : UInt8) : (showNat octet.toNat).length ≤ 3 := by
  have hlt := octet.toNat_lt
  exact (Nat.length_toDigits_le_iff (by decide) (by decide)).mpr (by omega)

/-- A printed IPv4 address is read off the front, before anything that is no
    digit. -/
theorem readIpv4_showIpv4 (ip : ByteArr 4) {rest : Text} (hrest : EndsNumber 10 rest) :
    readIpv4 (showIpv4 ip ++ rest) = some (ip, rest) := by
  rcases ip with ⟨octets, hlen⟩
  match octets, hlen with
  | [a, b, c, d], hlen =>
      have hdot : ∀ t : Text, EndsNumber 10 ('.' :: t) := fun t => endsNumber_cons (by decide) t
      have htext : showIpv4 ⟨[a, b, c, d], hlen⟩ ++ rest = showNat a.toNat ++ '.' ::
          (showNat b.toNat ++ '.' :: (showNat c.toNat ++ '.' :: (showNat d.toNat ++ rest))) := by
        simp only [showIpv4, showOctets, List.map_cons, List.map_nil, List.intercalate,
          List.intersperse, List.flatten_cons, List.flatten_nil, List.append_nil,
          List.append_assoc, List.cons_append, List.nil_append]
      rw [htext, readIpv4, readNumber_octet a (hdot _)]
      simp only [Option.bind_eq_bind, Option.bind_some, readGivenChar, if_true,
        readNumber_octet b (hdot _), readNumber_octet c (hdot _), readNumber_octet d hrest,
        UInt8.ofNat_toNat]

theorem parseIpv4_showIpv4 (ip : ByteArr 4) : parseIpv4 (showIpv4 ip) = some ip := by
  have hread := readIpv4_showIpv4 ip (endsNumber_nil 10)
  rw [List.append_nil] at hread
  -- Four numbers of three digits at most and three dots.
  have hlen : (showIpv4 ip).length ≤ 15 := by
    rcases ip with ⟨octets, hlen⟩
    match octets, hlen with
    | [a, b, c, d], hlen =>
        have ha := length_showNat_octet a
        have hb := length_showNat_octet b
        have hc := length_showNat_octet c
        have hd := length_showNat_octet d
        simp only [showIpv4, showOctets, List.map_cons, List.map_nil, List.intercalate,
          List.intersperse, List.flatten_cons, List.flatten_nil, List.append_nil,
          List.length_append, List.length_cons, List.length_nil]
        omega
  rw [parseIpv4, hread]
  exact if_pos hlen

end Ipv4

section Ipv6

/-- Nothing follows, or the mark of an elided run. -/
def EndsGroups (rest : Text) : Prop := rest = [] ∨ ∃ t, rest = ':' :: ':' :: t

theorem EndsGroups.endsNumber {rest : Text} (h : EndsGroups rest) : EndsNumber 16 rest := by
  rcases h with rfl | ⟨t, rfl⟩
  · exact endsNumber_nil 16
  · exact endsNumber_cons (by decide) _

theorem notMem_showHex {c : Char} (hc : (toDigit 16 c).isSome = false) (segment : UInt16) :
    c ∉ showHex segment := by
  intro hmem
  have hdigit := (toDigits_spells (by decide) (Nat.le_refl 16) segment.toNat).1 c hmem
  rw [hc] at hdigit
  cases hdigit

theorem notMem_laterGroups (tail : List UInt16) : '.' ∉ laterGroups tail := by
  intro hmem
  rcases List.mem_flatMap.mp hmem with ⟨segment, _, hseg⟩
  rcases List.mem_cons.mp hseg with hc | hc
  · exact absurd hc (by decide)
  · exact notMem_showHex (by decide) segment hc

theorem endsNumber_laterGroups_append (tail : List UInt16) {rest : Text} (h : EndsGroups rest) :
    EndsNumber 16 (laterGroups tail ++ rest) := by
  rcases tail with _ | ⟨next, tail⟩
  · exact h.endsNumber
  · exact endsNumber_cons (by decide) _

theorem notMem_showGroups (groups : List UInt16) : '.' ∉ showGroups groups := by
  rcases groups with _ | ⟨first, tail⟩
  · exact List.not_mem_nil
  · rw [showGroups, List.mem_append, not_or]
    exact ⟨notMem_showHex (by decide) first, notMem_laterGroups tail⟩

/-- A group before other groups is no IPv4 address. -/
theorem readIpv4_group (segment : UInt16) (tail : List UInt16) {rest : Text} (hdot : '.' ∉ rest) :
    readIpv4 (showHex segment ++ (laterGroups tail ++ rest)) = none := by
  refine readIpv4_of_notMem ?_
  simp only [List.mem_append, not_or]
  exact ⟨notMem_showHex (by decide) segment, notMem_laterGroups tail, hdot⟩

/-- One printed segment is read off the front as a group. -/
theorem readNumber_showHex (segment : UInt16) {rest : Text} (hrest : EndsNumber 16 rest) :
    readNumber 16 4 65536 true (showHex segment ++ rest) = some (segment.toNat, rest) := by
  have hlt := segment.toNat_lt
  exact readNumber_toDigits (by decide) (Nat.le_refl 16) hrest (by decide) (by omega) hlt

theorem readIpv4_cons_eq_none {c : Char} (h : (toDigit 10 c).isSome = false) (t : Text) :
    readIpv4 (c :: t) = none := by
  rw [readIpv4, readNumber_cons_eq_none h]
  rfl

/-- A run ends where no group follows. -/
theorem readGroups_ends (first : Bool) (limit : Nat) {rest : Text} (h : EndsGroups rest) :
    readGroups first limit rest = ([], false, rest) := by
  have hcolon : ∀ t : Text, readNumber 16 4 65536 true (':' :: t) = none := fun t =>
    readNumber_cons_eq_none (by decide) t
  have hv4 : ∀ t : Text, readIpv4 (':' :: t) = none := fun t => readIpv4_cons_eq_none (by decide) t
  -- Behind the separator, if there is one, stands nothing or another colon.
  have hafter : readSeparator first rest = none ∨ readSeparator first rest = some [] ∨
      ∃ t, readSeparator first rest = some (':' :: t) := by
    rcases h with rfl | ⟨t, rfl⟩
    · cases first with
      | false => exact Or.inl rfl
      | true => exact Or.inr (Or.inl rfl)
    · cases first with
      | false => exact Or.inr (Or.inr ⟨t, rfl⟩)
      | true => exact Or.inr (Or.inr ⟨':' :: t, rfl⟩)
  rcases limit with _ | limit
  · rfl
  · rw [readGroups]
    rcases hafter with hsep | hsep | ⟨t, hsep⟩
    · simp only [hsep, Option.bind_none, ite_self]
    · have hempty : readIpv4 [] = none := rfl
      have hnumber : readNumber 16 4 65536 true [] = none := rfl
      simp only [hsep, Option.bind_some, hempty, hnumber, ite_self]
    · simp only [hsep, Option.bind_some, hv4, hcolon, ite_self]

/-- One group is read, and the run goes on behind it. -/
theorem readGroups_step {first : Bool} {limit : Nat} {t rest : Text} {segment : UInt16}
    (hsep : readSeparator first t = some (showHex segment ++ rest))
    (hv4 : readIpv4 (showHex segment ++ rest) = none) (hrest : EndsNumber 16 rest) :
    readGroups first (limit + 1) t
      = (Bytes.be16 segment ++ (readGroups false limit rest).1, (readGroups false limit rest).2.1,
        (readGroups false limit rest).2.2) := by
  rw [readGroups, hsep, Option.bind_some, hv4, ite_self, Option.bind_some,
    readNumber_showHex segment hrest]
  simp only [UInt16.ofNat_toNat]

/-- Groups behind the first are read back, up to where the run ends. -/
theorem readGroups_laterGroups {tail : List UInt16} {limit : Nat} {rest : Text}
    (hlimit : tail.length ≤ limit) (hdot : '.' ∉ rest) (hrest : EndsGroups rest) :
    readGroups false limit (laterGroups tail ++ rest) = (tail.flatMap Bytes.be16, false, rest) := by
  induction tail generalizing limit with
  | nil => exact readGroups_ends false limit hrest
  | cons segment tail ih =>
      rcases limit with _ | limit
      · exact absurd hlimit (Nat.not_succ_le_zero _)
      have hlimit' : tail.length ≤ limit := Nat.le_of_succ_le_succ hlimit
      have hsep : readSeparator false (laterGroups (segment :: tail) ++ rest)
          = some (showHex segment ++ (laterGroups tail ++ rest)) := by
        rw [← List.append_assoc]
        rfl
      rw [readGroups_step hsep (readIpv4_group segment tail hdot)
        (endsNumber_laterGroups_append tail hrest), ih hlimit', List.flatMap_cons]

/-- Printed groups are read back, up to where the run ends. -/
theorem readGroups_showGroups {groups : List UInt16} {limit : Nat} {rest : Text}
    (hlimit : groups.length ≤ limit) (hdot : '.' ∉ rest) (hrest : EndsGroups rest) :
    readGroups true limit (showGroups groups ++ rest)
      = (groups.flatMap Bytes.be16, false, rest) := by
  rcases groups with _ | ⟨segment, tail⟩
  · exact readGroups_ends true limit hrest
  rcases limit with _ | limit
  · exact absurd hlimit (Nat.not_succ_le_zero _)
  have hlimit' : tail.length ≤ limit := Nat.le_of_succ_le_succ hlimit
  have hsep : readSeparator true (showGroups (segment :: tail) ++ rest)
      = some (showHex segment ++ (laterGroups tail ++ rest)) := by
    rw [readSeparator, if_pos rfl, showGroups, List.append_assoc]
  rw [readGroups_step hsep (readIpv4_group segment tail hdot)
    (endsNumber_laterGroups_append tail hrest), readGroups_laterGroups hlimit' hdot hrest,
    List.flatMap_cons]

theorem flatMap_be16_segments {octets : Bytes} {n : Nat} (h : octets.length = 2 * n) :
    (segments octets).flatMap Bytes.be16 = octets ∧ (segments octets).length = n := by
  -- Two bytes a segment.
  induction n generalizing octets with
  | zero =>
      rw [List.length_eq_zero_iff.mp h]
      exact ⟨rfl, rfl⟩
  | succ n ih =>
      match octets, h with
      | a :: b :: rest, h =>
          have hrest : rest.length = 2 * n := by
            simp only [List.length_cons] at h
            omega
          rcases ih hrest with ⟨hbytes, hlen⟩
          rw [segments, List.flatMap_cons, hbytes, Bytes.be16_ofNat, List.length_cons, hlen]
          exact ⟨rfl, rfl⟩

/-- The positions of a run all hold zeros. -/
def IsZeros (groups : List UInt16) (run : Span) : Prop :=
  ∀ j, run.start ≤ j → j < run.start + run.len → groups[j]? = some 0

/-- The run that is open at position `i` reaches up to it. -/
theorem longestZeros_isZeros {groups pre rest : List UInt16} {current longest : Span}
    (hsplit : groups = pre ++ rest) (hcurrent : IsZeros groups current)
    (hopen : current.len = 0 ∨ current.start + current.len = pre.length)
    (hlongest : IsZeros groups longest) :
    IsZeros groups (longestZeros pre.length current longest rest) := by
  induction rest generalizing pre current longest with
  | nil => exact hlongest
  | cons segment rest ih =>
      have hsplit' : groups = (pre ++ [segment]) ++ rest := by
        rw [hsplit, List.append_assoc]
        rfl
      have hlen : (pre ++ [segment]).length = pre.length + 1 := by
        rw [List.length_append]
        rfl
      have hat : groups[pre.length]? = some segment := by
        rw [hsplit, List.getElem?_append_right (Nat.le_refl _), Nat.sub_self]
        rfl
      rw [longestZeros]
      split
      · rename_i hzero
        -- The open run grows by this position, or starts at it.
        have hgrown : IsZeros groups
            { start := if current.len = 0 then pre.length else current.start,
              len := current.len + 1 } := by
          intro j hj hj'
          by_cases hlast : j = pre.length
          · rw [hlast, hat, hzero]
          · simp only at hj hj'
            split at hj
            · rename_i hnew
              rw [if_pos hnew] at hj'
              omega
            · rename_i hold
              rw [if_neg hold] at hj'
              exact hcurrent j hj (by omega)
        have hreach : (if current.len = 0 then pre.length else current.start) + (current.len + 1)
            = (pre ++ [segment]).length := by
          split <;> omega
        rw [← hlen]
        refine ih hsplit' hgrown (Or.inr hreach) ?_
        by_cases hlonger : longest.len < current.len + 1
        · simp only [hlonger, if_true]
          exact hgrown
        · simp only [hlonger, if_false]
          exact hlongest
      · rw [← hlen]
        refine ih hsplit' ?_ (Or.inl rfl) hlongest
        intro j hj hj'
        simp only at hj hj'
        omega

/-- A run of zeros is where it says. -/
theorem IsZeros.split {groups : List UInt16} {run : Span} (h : IsZeros groups run)
    (hpos : 0 < run.len) :
    run.start + run.len ≤ groups.length ∧
      groups.take run.start ++ (List.replicate run.len 0 ++ groups.drop (run.start + run.len))
        = groups := by
  -- The last zero of the run is inside, so the run is.
  have hlast := h (run.start + run.len - 1) (by omega) (by omega)
  rw [List.getElem?_eq_some_iff] at hlast
  rcases hlast with ⟨hlt, _⟩
  have hmid : (groups.drop run.start).take run.len = List.replicate run.len 0 := by
    rw [List.eq_replicate_iff]
    refine ⟨by rw [List.length_take, List.length_drop]; omega, ?_⟩
    intro segment hmem
    rcases List.mem_iff_getElem?.mp hmem with ⟨j, hj⟩
    rw [List.getElem?_take] at hj
    split at hj
    · rw [List.getElem?_drop, h (run.start + j) (by omega) (by omega)] at hj
      cases hj
      rfl
    · cases hj
  refine ⟨by omega, ?_⟩
  rw [← hmid, ← List.drop_drop, List.take_append_drop, List.take_append_drop]

theorem flatMap_be16_zeros (n : Nat) :
    (List.replicate n (0 : UInt16)).flatMap Bytes.be16 = List.replicate (2 * n) 0 := by
  induction n with
  | zero => rfl
  | succ n ih =>
      rw [List.replicate_succ, List.flatMap_cons, ih, Nat.mul_succ, Nat.add_comm,
        List.replicate_add]
      rfl

theorem length_flatMap_be16 (groups : List UInt16) :
    (groups.flatMap Bytes.be16).length = 2 * groups.length := by
  induction groups with
  | nil => rfl
  | cons segment groups ih =>
      rw [List.flatMap_cons, List.length_append, ih, Bytes.length_be16, List.length_cons]
      omega

/-- Eight printed groups are read back. -/
theorem readIpv6_all {groups : List UInt16} (hlen : groups.length = 8) :
    readIpv6 (showGroups groups) = some (groups.flatMap Bytes.be16, []) := by
  have hread : readGroups true 8 (showGroups groups ++ [])
      = (groups.flatMap Bytes.be16, false, []) :=
    readGroups_showGroups (Nat.le_of_eq hlen) List.not_mem_nil (Or.inl rfl)
  rw [List.append_nil] at hread
  have h16 : (groups.flatMap Bytes.be16).length = 16 := by
    rw [length_flatMap_be16, hlen]
  simp only [readIpv6, hread, h16, if_true]

/-- Groups around an elided run of zeros are read back with the zeros. -/
theorem readIpv6_elided {before after : List UInt16} {n : Nat} (hn : 0 < n)
    (hlen : before.length + n + after.length = 8) :
    readIpv6 (showGroups before ++ "::".toList ++ showGroups after)
      = some (before.flatMap Bytes.be16 ++ (List.replicate n 0).flatMap Bytes.be16
          ++ after.flatMap Bytes.be16, []) := by
  have hno : '.' ∉ "::".toList ++ showGroups after := by
    rw [List.mem_append, not_or]
    exact ⟨by decide, notMem_showGroups after⟩
  -- The groups in front stop at the first colon of the gap.
  have hhead : readGroups true 8 (showGroups before ++ ("::".toList ++ showGroups after))
      = (before.flatMap Bytes.be16, false, "::".toList ++ showGroups after) :=
    readGroups_showGroups (by omega) hno (Or.inr ⟨showGroups after, rfl⟩)
  -- Those behind it run to the end, with room for one group less.
  have htail : readGroups true (8 - (2 * before.length / 2 + 1)) (showGroups after ++ [])
      = (after.flatMap Bytes.be16, false, []) :=
    readGroups_showGroups (by omega) List.not_mem_nil (Or.inl rfl)
  rw [List.append_nil] at htail
  have hshort : 2 * before.length ≠ 16 := by omega
  have hfirst : readGivenChar ':' ("::".toList ++ showGroups after)
      = some (':' :: showGroups after) := rfl
  have hsecond : readGivenChar ':' (':' :: showGroups after) = some (showGroups after) := rfl
  -- What neither side has filled is the gap.
  have hzeros : 16 - 2 * before.length - 2 * after.length = 2 * n := by omega
  rw [List.append_assoc, flatMap_be16_zeros]
  simp only [readIpv6, hhead, length_flatMap_be16, hshort, if_false, Bool.false_eq_true, hfirst,
    hsecond, Option.bind_eq_bind, Option.bind_some, htail, hzeros]

/-- Behind the mark of an elided run, a dotted address is read back. -/
theorem readIpv6_mapped (octets : ByteArr 4) :
    readIpv6 ("::ffff:".toList ++ showIpv4 octets)
      = some (List.replicate 10 0 ++ [255, 255] ++ octets.val, []) := by
  have hv4 := readIpv4_showIpv4 octets (endsNumber_nil 10)
  rw [List.append_nil] at hv4
  -- There is no group in front of the gap.
  have hhead : readGroups true 8 ("::ffff:".toList ++ showIpv4 octets)
      = ([], false, "::ffff:".toList ++ showIpv4 octets) :=
    readGroups_ends true 8 (Or.inr ⟨"ffff:".toList ++ showIpv4 octets, rfl⟩)
  have hffff : showHex 65535 = "ffff".toList := by decide +kernel
  -- Behind the prefix stands an IPv4 address, which ends the groups.
  have hlast : readGroups false 6 (':' :: showIpv4 octets) = (octets.val, true, []) := by
    have hsep : readSeparator false (':' :: showIpv4 octets) = some (showIpv4 octets) := rfl
    simp only [readGroups, Nat.zero_lt_succ, if_true, hsep, Option.bind_some, hv4]
  have hsep : readSeparator true ("ffff:".toList ++ showIpv4 octets)
      = some (showHex 65535 ++ ':' :: showIpv4 octets) := by
    rw [hffff]
    rfl
  -- The prefix itself is not one: its first character is no decimal
  -- digit.
  have hno : readIpv4 (showHex 65535 ++ ':' :: showIpv4 octets) = none := by
    rw [hffff]
    exact readIpv4_cons_eq_none (by decide) _
  have htail : readGroups true 7 ("ffff:".toList ++ showIpv4 octets)
      = ([255, 255] ++ octets.val, true, []) := by
    rw [readGroups_step hsep hno (endsNumber_cons (by decide) _), hlast]
    rfl
  have hfirst : readGivenChar ':' ("::ffff:".toList ++ showIpv4 octets)
      = some (':' :: ("ffff:".toList ++ showIpv4 octets)) := rfl
  have hsecond : readGivenChar ':' (':' :: ("ffff:".toList ++ showIpv4 octets))
      = some ("ffff:".toList ++ showIpv4 octets) := rfl
  have hlen : 16 - ([255, 255] ++ octets.val).length = 10 := by
    rw [List.length_append, octets.property]
    rfl
  have hshort : ¬ 0 = 16 := by decide
  simp only [readIpv6, hhead, List.length_nil, hshort, if_false, Bool.false_eq_true, hfirst,
    hsecond, Option.bind_eq_bind, Option.bind_some, htail, Nat.zero_div, Nat.zero_add,
    Nat.reduceSub, Nat.sub_zero, hlen, List.nil_append, List.append_assoc]

theorem readIpv6_showIpv6 (ip : ByteArr 16) : readIpv6 (showIpv6 ip) = some (ip.val, []) := by
  unfold showIpv6
  split
  · -- A mapped address is printed with its IPv4 part.
    rename_i hmapped
    have hdrop : (ip.val.drop 12).length = 4 := by
      rw [List.length_drop, ip.property]
    have hread := readIpv6_mapped ⟨ip.val.drop 12, hdrop⟩
    rw [← hmapped, List.take_append_drop] at hread
    exact hread
  · rcases flatMap_be16_segments (n := 8) ip.property with ⟨hbytes, hlen⟩
    -- What the printer has found is a run of zeros, wherever it starts.
    have hzeros : IsZeros (segments ip.val) (longestZeros 0 ⟨0, 0⟩ ⟨0, 0⟩ (segments ip.val)) := by
      have hnone : IsZeros (segments ip.val) ⟨0, 0⟩ := by
        intro j _ hj
        exact absurd hj (Nat.not_lt_zero j)
      exact longestZeros_isZeros (List.nil_append _).symm hnone (Or.inl rfl) hnone
    simp only
    generalize longestZeros 0 ⟨0, 0⟩ ⟨0, 0⟩ (segments ip.val) = run at hzeros ⊢
    split
    · -- A run of two or more is left out, and filled in again.
      rename_i hlong
      rcases hzeros.split (by omega) with ⟨hle, hsplit⟩
      rw [readIpv6_elided (n := run.len) (by omega)
        (by rw [List.length_take, List.length_drop]; omega), ← List.flatMap_append,
        ← List.flatMap_append, List.append_assoc, hsplit, hbytes]
    · rw [readIpv6_all hlen, hbytes]

theorem parseIpv6_showIpv6 (ip : ByteArr 16) : parseIpv6 (showIpv6 ip) = some ip := by
  rw [parseIpv6, readIpv6_showIpv6]
  simp only [ip.property, dif_pos]

/-- A printed IPv6 address is not taken for an IPv4 one. -/
theorem parseIpv4_showIpv6 (ip : ByteArr 16) : parseIpv4 (showIpv6 ip) = none := by
  have hread : readIpv4 (showIpv6 ip) = none := by
    unfold showIpv6
    split
    · exact readIpv4_cons_eq_none (by decide) _
    · refine readIpv4_of_notMem ?_
      simp only
      split
      · simp only [List.mem_append, not_or]
        exact ⟨⟨notMem_showGroups _, by decide⟩, notMem_showGroups _⟩
      · exact notMem_showGroups _
  rw [parseIpv4, hread]

end Ipv6

/-- What is printed is read back. -/
theorem parseIp_showIp (ip : IpAddr) : parseIp (showIp ip) = some ip := by
  cases ip with
  | v4 octets => rw [parseIp, showIp, parseIpv4_showIpv4]
  | v6 octets => rw [parseIp, showIp, parseIpv4_showIpv6, parseIpv6_showIpv6, Option.map_some]

end Net

end SigmaMedia
