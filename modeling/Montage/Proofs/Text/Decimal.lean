import Mathlib.Tactic.Common
import Montage.Fault
import Montage.Field.Read

/-!
# Decimal numerals read back

An integer travels as a decimal numeral: in labels, in arguments, in the fields of a form.  A
numeral has a digit at its start and nothing but digits after its sign, so every step of a reader
that looks for blanks, signs, zeros, points or underscores leaves it alone.

* `toDigits_injective` — different numbers have different numerals.
* `head_toDigits` — a numeral does not start with a zero, zero itself apart.
* `IsShort` — an integer that has a text; `ifShort` — what is written when some integers have one.
* **`wholeOfText_toString`** — the text of an integer is read as that integer, as long as it has no
  more digits than a reader accepts.
-/

namespace Montage

/-! ## The digits of a number -/

/-- Different numbers have different digits. -/
lemma toDigits_injective {m n : Nat} (h : Nat.toDigits 10 m = Nat.toDigits 10 n) : m = n := by
  have := congrArg (fun cs => Nat.ofDigitChars 10 cs 0) h
  simpa only [Nat.ofDigitChars_ten_toDigits] using this

/-- The digits of a number are digits. -/
lemma isDigit_of_mem_toDigits {n : Nat} {c : Char} (h : c ∈ Nat.toDigits 10 n) :
    c.isDigit = true :=
  Nat.isDigit_of_mem_toDigits (by decide) (by decide) h

/-- The first character of a numeral is a digit, and there is one. -/
lemma exists_toDigits_eq_cons (n : Nat) :
    ∃ c cs, Nat.toDigits 10 n = c :: cs ∧ c.isDigit = true := by
  cases h : Nat.toDigits 10 n with
  | nil => exact absurd h Nat.toDigits_ne_nil
  | cons c cs =>
      have hm : c ∈ Nat.toDigits 10 n := by rw [h]; exact List.mem_cons_self
      exact ⟨c, cs, rfl, isDigit_of_mem_toDigits hm⟩

/-- A positive number's numeral does not start with a zero. -/
lemma head_toDigits {n : Nat} (hn : 0 < n) : (Nat.toDigits 10 n).head? ≠ some '0' := by
  induction n using Nat.strongRecOn with
  | ind n ih =>
      rcases Nat.lt_or_ge n 10 with h | h
      · rw [Nat.toDigits_of_lt_base h]
        have : ∀ m < 10, 0 < m → [m.digitChar].head? ≠ some '0' := by decide
        exact this n h hn
      · rw [Nat.toDigits_of_base_le (by decide) h]
        have hpos : 0 < n / 10 := Nat.div_pos h (by decide)
        obtain ⟨c, cs, hc, -⟩ := exists_toDigits_eq_cons (n / 10)
        have := ih (n / 10) (Nat.div_lt_self hn (by decide)) hpos
        rw [hc] at this ⊢
        exact this

/-- A number below a power of ten has at most so many digits. -/
lemma length_toDigits_le {n limit : Nat} (positive : 0 < limit) (h : n < tenTo limit) :
    (Nat.toDigits 10 n).length ≤ limit :=
  (Nat.length_toDigits_le_iff (by decide) positive).2 h

/-! ## Integers that can be written -/

/-- An integer that can be written: in an argument, in a field of a form, in JSON. -/
def IsShort (i : Int) : Prop := i.natAbs < tenTo Text.Numeral.digitLimit

instance : DecidablePred IsShort := fun i =>
  inferInstanceAs (Decidable (i.natAbs < tenTo Text.Numeral.digitLimit))

/-- Only short integers are written, and as their numerals. -/
lemma numeral_eq_ok {i : Int} {s : String} (h : numeral i = .ok s) :
    i.natAbs < tenTo Text.Numeral.digitLimit ∧ s = toString i := by
  unfold numeral at h
  split at h
  · cases h
  · rename_i small
    cases h
    exact ⟨Nat.lt_of_not_le small, rfl⟩

/-- What is made of some integers, if each of them can be written. -/
def ifShort {α : Type} (integers : List Int) (a : α) : Except Fault α :=
  if ∀ i ∈ integers, IsShort i then .ok a else .error .longNumeral

section IfShort

variable {α β : Type} {integers more : List Int} {a b : α}

/-- A numeral is written if its integer is short. -/
lemma numeral_eq_ifShort (i : Int) : numeral i = ifShort [i] (toString i) := by
  unfold numeral ifShort IsShort
  by_cases long : tenTo Text.Numeral.digitLimit ≤ i.natAbs
  · rw [if_pos long, if_neg (by simpa using long)]
  · rw [if_neg long, if_pos (by simpa using long)]

/-- The integers of one step, and then those of the next. -/
lemma ifShort_bind {b : β} {f : α → Except Fault β} (next : f a = ifShort more b) :
    (ifShort integers a >>= f) = ifShort (integers ++ more) b := by
  unfold ifShort at next ⊢
  by_cases short : ∀ i ∈ integers, IsShort i
  · have whole : (∀ i ∈ integers ++ more, IsShort i) ↔ ∀ i ∈ more, IsShort i := by
      rw [List.forall_mem_append, and_iff_right short]
    simp only [if_pos short, whole]
    exact next
  · have long : ¬ ∀ i ∈ integers ++ more, IsShort i := fun all =>
      short (List.forall_mem_append.mp all).1
    rw [if_neg short, if_neg long]
    rfl

/-- A last step that needs no integers. -/
lemma ifShort_bind_ok {b : β} {f : α → Except Fault β} (next : f a = .ok b) :
    (ifShort integers a >>= f) = ifShort integers b := by
  unfold ifShort
  split
  · exact next
  · rfl

/-- What needs integers to be written is there when all of them are short … -/
lemma ifShort_eq_ok_iff : ifShort integers a = .ok b ↔ (∀ i ∈ integers, IsShort i) ∧ a = b := by
  unfold ifShort
  split
  · rename_i short
    rw [and_iff_right short, Except.ok.injEq]
  · rename_i long
    exact ⟨nofun, fun both => absurd both.1 long⟩

/-- … and one that is not is what it breaks at. -/
lemma ifShort_eq_error_iff {f : Fault} :
    ifShort integers a = .error f ↔ f = .longNumeral ∧ ∃ i ∈ integers, ¬ IsShort i := by
  unfold ifShort
  split
  · rename_i short
    exact ⟨nofun, fun ⟨_, i, mem, long⟩ => absurd (short i mem) long⟩
  · rename_i long
    rw [Except.error.injEq, eq_comm]
    exact (and_iff_left (by simpa using long)).symm

end IfShort

/-! ## Texts that readers leave alone -/

namespace Text

/-- The digits among the characters. -/
lemma isDigit_iff {c : Char} : c.isDigit = true ↔ 48 ≤ c.toNat ∧ c.toNat ≤ 57 := by
  simp [Char.isDigit, UInt32.le_iff_toNat_le]

/-- A character of a numeral: a digit or the sign of a negative number. -/
def IsNumeral (c : Char) : Prop := c.isDigit = true ∨ c = '-'

namespace IsNumeral

variable {c : Char}

/-- A numeral has a sign and digits only. -/
lemma toNat_mem (h : IsNumeral c) : c.toNat = 45 ∨ 48 ≤ c.toNat ∧ c.toNat ≤ 57 := by
  rcases h with h | rfl
  · exact Or.inr (isDigit_iff.1 h)
  · exact Or.inl (by decide)

/-- Characters elsewhere are not in a numeral. -/
lemma ne_of_toNat {d : Char} (h : IsNumeral c) (hd : d.toNat < 45 ∨ d.toNat = 46 ∨ 57 < d.toNat) :
    c ≠ d := by
  rintro rfl
  have := h.toNat_mem
  omega

/-- There is no blank in a numeral … -/
lemma isUnicodeBlank (h : IsNumeral c) : Text.isUnicodeBlank c = false := by
  have bounds := h.toNat_mem
  have blank : isBlank c = false := by
    simp [isBlank, inRanges, blankRanges]
    omega
  rw [Text.isUnicodeBlank, blank, Bool.false_and]

/-- … and no character as high as the halves of surrogate pairs. -/
lemma toNat_lt (h : IsNumeral c) : c.toNat < halfStart := by
  have := h.toNat_mem
  have : halfStart = 55296 := rfl
  omega

end IsNumeral

variable {cs : List Char}

/-- Where there is nothing to be trimmed, nothing is trimmed. -/
lemma trimBy_eq_self {p : Char → Bool} (h : ∀ c ∈ cs, p c = false) : trimBy p cs = cs := by
  have keep : ∀ ds : List Char, (∀ c ∈ ds, p c = false) → ds.dropWhile p = ds := by
    intro ds hds
    cases ds with
    | nil => rfl
    | cons d rest => simp [hds d List.mem_cons_self]
  have back : ∀ c ∈ cs.reverse, p c = false := fun c hc => h c (List.mem_reverse.1 hc)
  rw [trimBy, dropEndWhile, keep cs h, keep _ back, List.reverse_reverse]

/-- A text without the separator is one part. -/
lemma splitAt_eq_singleton {separator : Char} (h : ∀ c ∈ cs, c ≠ separator) :
    splitAt separator cs = [cs] := by
  induction cs with
  | nil => rfl
  | cons c rest ih =>
      have hc : c ≠ separator := h c List.mem_cons_self
      have hr := ih fun d hd => h d (List.mem_cons_of_mem c hd)
      simp [splitAt, hc, hr]

/-- A part ends at the first separator. -/
lemma splitAt_append_cons {separator : Char} {part : List Char} (h : ∀ c ∈ part, c ≠ separator)
    (rest : List Char) :
    splitAt separator (part ++ separator :: rest) = part :: splitAt separator rest := by
  induction part with
  | nil => simp [splitAt]
  | cons c part ih =>
      have hc : c ≠ separator := h c List.mem_cons_self
      rw [List.cons_append, splitAt, if_neg hc, ih fun d hd => h d (List.mem_cons_of_mem c hd)]

/-- What is put together with a separator is split there. -/
lemma splitAt_intercalate {separator : Char} {parts : List (List Char)} (some : parts ≠ [])
    (h : ∀ part ∈ parts, ∀ c ∈ part, c ≠ separator) :
    splitAt separator ([separator].intercalate parts) = parts := by
  induction parts with
  | nil => exact absurd rfl some
  | cons part rest ih =>
      have here := h part List.mem_cons_self
      cases rest with
      | nil => rw [List.intercalate_singleton, splitAt_eq_singleton here]
      | cons other rest =>
          rw [List.intercalate_cons_of_ne_nil (List.cons_ne_nil _ _), List.append_assoc,
            List.singleton_append, splitAt_append_cons here,
            ih (List.cons_ne_nil _ _) fun p hp => h p (List.mem_cons_of_mem part hp)]

/-- A separator is in none of the parts. -/
lemma ne_of_mem_splitAt {separator : Char} {part : List Char} (h : part ∈ splitAt separator cs) :
    ∀ c ∈ part, c ≠ separator := by
  induction cs generalizing part with
  | nil =>
      obtain rfl := List.mem_singleton.mp h
      exact nofun
  | cons c rest ih =>
      rw [splitAt] at h
      split at h
      · rcases List.mem_cons.mp h with rfl | h
        · exact nofun
        · exact ih h
      · rename_i hc
        cases parts : splitAt separator rest with
        | nil =>
            rw [parts] at h
            obtain rfl := List.mem_singleton.mp h
            simpa using hc
        | cons first others =>
            rw [parts] at ih h
            rcases List.mem_cons.mp h with rfl | h
            · rintro d (_ | ⟨_, hd⟩)
              · exact hc
              · exact ih List.mem_cons_self d hd
            · exact ih (List.mem_cons_of_mem first h)

/-- A text without the separator is not cut. -/
lemma cutAt_eq_self {separator : Char} (h : ∀ c ∈ cs, c ≠ separator) :
    cutAt separator cs = (cs, none) := by
  induction cs with
  | nil => rfl
  | cons c rest ih =>
      have hc : c ≠ separator := h c List.mem_cons_self
      have hr := ih fun d hd => h d (List.mem_cons_of_mem c hd)
      simp [cutAt, hc, hr]

/-- A text is cut at the first separator. -/
lemma cutAt_eq_some {separator : Char} {key value : List Char} :
    cutAt separator cs = (key, some value)
      ↔ cs = key ++ separator :: value ∧ separator ∉ key := by
  induction cs generalizing key with
  | nil => simp [cutAt]
  | cons c rest ih =>
      rw [cutAt]
      by_cases same : c = separator
      · rw [if_pos same, Prod.mk.injEq, Option.some.injEq]
        constructor
        · rintro ⟨rfl, rfl⟩
          exact ⟨congrArg (· :: rest) same, List.not_mem_nil⟩
        · rintro ⟨whole, absent⟩
          cases key with
          | nil => exact ⟨rfl, (List.cons.inj whole).2⟩
          | cons d key =>
              obtain ⟨rfl, -⟩ := List.cons.inj whole
              exact absurd (same ▸ List.mem_cons_self) absent
      · rw [if_neg same]
        constructor
        · intro cut
          obtain ⟨rfl, later⟩ := Prod.mk.inj cut
          obtain ⟨whole, absent⟩ := ih.mp (Prod.ext rfl later)
          exact ⟨congrArg (c :: ·) whole,
            fun among => (List.mem_cons.mp among).elim (fun equal => same equal.symm) absent⟩
        · rintro ⟨whole, absent⟩
          cases key with
          | nil => exact absurd (List.cons.inj whole).1 same
          | cons d key =>
              obtain ⟨rfl, after⟩ := List.cons.inj whole
              have later := ih.mpr ⟨after, fun among => absent (List.mem_cons_of_mem c among)⟩
              rw [later]

/-- Characters below the mark are their own code points. -/
lemma codes_eq_map (h : ∀ c ∈ cs, c ≠ mark) : codes cs = cs.map Char.toNat := by
  induction cs with
  | nil => rfl
  | cons c rest ih =>
      rw [codes_of_ne (h c List.mem_cons_self), List.map_cons,
        ih fun d hd => h d (List.mem_cons_of_mem c hd)]

/-- Characters below the halves of surrogate pairs spell none. -/
lemma hasHalf_ofList_eq_false (h : ∀ c ∈ cs, c.toNat < halfStart) :
    hasHalf (String.ofList cs) = false := by
  have plain : codes cs = cs.map Char.toNat := by
    refine codes_eq_map fun c hc same => ?_
    have := h c hc
    rw [same] at this
    exact absurd this (by decide)
  rw [hasHalf, String.toList_ofList, plain, List.any_eq_false]
  intro n hn
  obtain ⟨c, hc, rfl⟩ := List.mem_map.1 hn
  have below : c.toNat < 0xD800 := h c hc
  rw [isHalf_iff]
  omega

/-- The value of digits, once by the library's own reading and once by this one's. -/
lemma ofDigits_filterMap_asciiDigit (h : ∀ c ∈ cs, c.isDigit = true) (start : Nat) :
    (cs.filterMap asciiDigit?).foldl (fun n d => 10 * n + d) start
      = Nat.ofDigitChars 10 cs start := by
  induction cs generalizing start with
  | nil => rfl
  | cons c rest ih =>
      have digit : asciiDigit? c = some (c.toNat - '0'.toNat) := by
        have range : '0' ≤ c ∧ c ≤ '9' := by
          have digit := isDigit_iff.1 (h c List.mem_cons_self)
          exact ⟨UInt32.le_iff_toNat_le.2 digit.1, UInt32.le_iff_toNat_le.2 digit.2⟩
        rw [asciiDigit?, if_pos range]
      rw [List.filterMap_cons_some digit, List.foldl_cons,
        ih fun d hd => h d (List.mem_cons_of_mem c hd), Nat.ofDigitChars_cons]

end Text

namespace Read

open Text

/-- Every step of the reader leaves a numeral alone. -/
lemma wholeOfText_ofList {cs : List Char} (h : ∀ c ∈ cs, IsNumeral c) (nonempty : cs ≠ [])
    (zeros : withoutZeros cs = some cs) :
    wholeOfText (String.ofList cs)
      = plainInteger (Numeral.signed cs).1 (Numeral.signed cs).2 := by
  have trimmed : trimBy isUnicodeBlank cs = cs := trimBy_eq_self fun c hc => (h c hc).isUnicodeBlank
  obtain ⟨c, rest, rfl⟩ := List.exists_cons_of_ne_nil nonempty
  have no_plus : c ≠ '+' := (h c List.mem_cons_self).ne_of_toNat (by decide)
  have plus : withoutPlus (c :: rest) = some (c :: rest) := by simp [withoutPlus, no_plus]
  have point : ∀ d ∈ c :: rest, d ≠ '.' := fun d hd => (h d hd).ne_of_toNat (by decide)
  have fraction : withoutFraction (c :: rest) = c :: rest := by
    simp only [withoutFraction, cutAt_eq_self point]
  have mark : ∀ d ∈ c :: rest, d ≠ '_' := fun d hd => (h d hd).ne_of_toNat (by decide)
  have underscores : withoutUnderscores (c :: rest) = c :: rest := by
    have sound : soundUnderscores (c :: rest) = true := by
      simp [soundUnderscores, splitAt_eq_singleton mark]
    rw [withoutUnderscores, if_pos sound, List.filter_eq_self]
    exact fun d hd => bne_iff_ne.2 (mark d hd)
  have whole := hasHalf_ofList_eq_false fun c hc => (h c hc).toNat_lt
  simp only [wholeOfText, looked, whole, Bool.false_eq_true, if_false,
    String.toList_ofList, trimmed, plus, Option.bind_some, zeros, fraction, underscores]
  by_cases minus : c = '-'
  · rw [minus]
    rfl
  · simp [Numeral.signed, minus, no_plus]

/-- Digits are read as their number, as long as there are not too many of them. -/
lemma plainInteger_toDigits {n : Nat} (negative : Bool) (h : n < tenTo Numeral.digitLimit) :
    plainInteger negative (Nat.toDigits 10 n) = .ok (if negative then -(n : Int) else n) := by
  have digits : ∀ c ∈ Nat.toDigits 10 n, c.isDigit = true := fun c => isDigit_of_mem_toDigits
  have some_digit : (Nat.toDigits 10 n).isEmpty = false := by
    rw [List.isEmpty_eq_false_iff]
    exact Nat.toDigits_ne_nil
  have all_digits : (Nat.toDigits 10 n).all Char.isDigit = true := List.all_eq_true.2 digits
  have few : ¬ Numeral.digitLimit < ((Nat.toDigits 10 n).dropWhile (· == '0')).length := by
    have fewer := (List.dropWhile_sublist (l := Nat.toDigits 10 n) (· == '0')).length_le
    have bound := length_toDigits_le (by decide) h
    omega
  have value : ofDigits 10 ((Nat.toDigits 10 n).filterMap asciiDigit?) = n := by
    rw [ofDigits, ofDigits_filterMap_asciiDigit digits, Nat.ofDigitChars_ten_toDigits]
  simp only [plainInteger, some_digit, all_digits, few, value, Bool.not_true, Bool.or_false,
    Bool.false_eq_true, if_false]

/-- The digits of a number have no underscores or zeros to be left out. -/
lemma withoutZeros_toDigits (n : Nat) :
    withoutZeros (Nat.toDigits 10 n) = some (Nat.toDigits 10 n) := by
  rcases Nat.eq_zero_or_pos n with rfl | hn
  · rfl
  · obtain ⟨c, cs, hc, hd⟩ := exists_toDigits_eq_cons n
    have head := head_toDigits hn
    rw [hc] at head ⊢
    have nonzero : c ≠ '0' := fun h => head (by rw [h]; rfl)
    simp [withoutZeros, nonzero, hd]

/-- The digits of a number have no sign. -/
lemma signed_toDigits (n : Nat) :
    Numeral.signed (Nat.toDigits 10 n) = (false, Nat.toDigits 10 n) := by
  obtain ⟨c, cs, hc, hd⟩ := exists_toDigits_eq_cons n
  have minus : c ≠ '-' := by rintro rfl; revert hd; decide
  have plus : c ≠ '+' := by rintro rfl; revert hd; decide
  rw [hc]
  simp [Numeral.signed, minus, plus]

/-- **The text of an integer is read as that integer**, as long as it has no more digits than a
reader accepts. -/
theorem wholeOfText_toString {i : Int} (h : i.natAbs < tenTo Numeral.digitLimit) :
    wholeOfText (toString i) = .ok i := by
  cases i with
  | ofNat n =>
      have text : toString (Int.ofNat n) = String.ofList (Nat.toDigits 10 n) := by
        simp [Int.repr_eq_if, Nat.repr_eq_ofList_toDigits]
      have read := wholeOfText_ofList (fun c hc => Or.inl (isDigit_of_mem_toDigits hc))
        Nat.toDigits_ne_nil (withoutZeros_toDigits n)
      rw [text, read, signed_toDigits]
      exact plainInteger_toDigits false h
  | negSucc n =>
      have text : toString (Int.negSucc n) = String.ofList ('-' :: Nat.toDigits 10 (n + 1)) := by
        simp [Int.repr, Nat.repr_eq_ofList_toDigits]
      have chars : ∀ c ∈ '-' :: Nat.toDigits 10 (n + 1), IsNumeral c := by
        intro c hc
        rcases List.mem_cons.1 hc with rfl | hc
        · exact Or.inr rfl
        · exact Or.inl (isDigit_of_mem_toDigits hc)
      have read := wholeOfText_ofList chars (List.cons_ne_nil _ _) rfl
      rw [text, read]
      exact plainInteger_toDigits true h

end Read

end Montage
