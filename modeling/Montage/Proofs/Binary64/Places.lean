import Mathlib.Data.List.DropRight
import Montage.Proofs.Binary64.HalfUp
import Montage.Proofs.Text.Decimal

/-!
# A fixed count of places

A number is written with a fixed count of places as the multiple of the last place that is nearest
to it, a tie going to the even neighbour.  What is written is a decimal numeral: digits, perhaps a
point with more digits behind it, and perhaps a minus before everything.

* `IsHalfEven` — the integer nearest to a rational number, a half to the even one;
  `IsHalfEven.mono` — it grows with the number.
* **`isHalfEven_roundQuotient`** — rounding a quotient gives it.
* `le_iff_value`, `eq_of_value_pos` — numbers are compared by their values.
* `Text.decimal?` — the number of a decimal numeral; `Text.worth` — what the digits behind a point
  add to it.
* `Text.Tidy` — a numeral without a zero or a point at its end that could be left out.
* `Text.withPoint` — digits with others behind a point, as far as there are others;
  **`decimal?_withPoint`**, `tidy_withPoint` — what is written is read.
* `toList_pointed`, `worth_paddedDigits` — what a fixed count of places looks like and is worth.
-/

namespace Montage

/-! ## The nearest integer -/

/-- The integer nearest to a rational number; of two equally near ones the even one. -/
structure IsHalfEven (v : ℚ) (n : ℤ) : Prop where
  near : |v - n| ≤ 1 / 2
  even : |v - n| = 1 / 2 → n % 2 = 0

namespace IsHalfEven

variable {v w : ℚ} {m n : ℤ}

/-- The nearest integer grows with the number; so there is one at most. -/
lemma mono (first : IsHalfEven v m) (second : IsHalfEven w n) (h : v ≤ w) : m ≤ n := by
  by_contra less
  have next : (n : ℚ) + 1 ≤ m := by exact_mod_cast Int.not_le.mp less
  have low := (abs_le.mp first.near).1
  have high := (abs_le.mp second.near).2
  -- both numbers are the middle between the two integers, which cannot both be even
  have below : v - m = -(1 / 2) := by linarith
  have above : w - n = 1 / 2 := by linarith
  have same : (m : ℚ) = n + 1 := by linarith
  have successor : m = n + 1 := by exact_mod_cast same
  have even := first.even (by rw [below, abs_neg, abs_of_pos (by norm_num)])
  have other := second.even (by rw [above, abs_of_pos (by norm_num)])
  omega

lemma neg (h : IsHalfEven v m) : IsHalfEven (-v) (-m) := by
  have distance : |-v - ((-m : ℤ) : ℚ)| = |v - m| := by
    rw [Int.cast_neg, neg_sub_neg, abs_sub_comm]
  refine ⟨distance ▸ h.near, fun tie => ?_⟩
  have even := h.even (distance ▸ tie)
  omega

end IsHalfEven

/-- For a quotient this is said by its dividend and its divisor. -/
lemma isHalfEven_div {n k : ℤ} {d : ℕ} (pos : 0 < d) :
    IsHalfEven ((n : ℚ) / d) k
      ↔ 2 * (n - k * d).natAbs ≤ d ∧ (2 * (n - k * d).natAbs = d → k % 2 = 0) := by
  have size : (0 : ℚ) < d := by exact_mod_cast pos
  have distance : |(n : ℚ) / d - k| = (n - k * d).natAbs / d := by
    rw [div_sub' size.ne', abs_div, abs_of_pos size, Nat.cast_natAbs, mul_comm]
    push_cast
    rfl
  have near : |(n : ℚ) / d - k| ≤ 1 / 2 ↔ 2 * (n - k * d).natAbs ≤ d := by
    rw [distance, div_le_div_iff₀ size two_pos, one_mul, mul_comm]
    exact_mod_cast Iff.rfl
  have tie : |(n : ℚ) / d - k| = 1 / 2 ↔ 2 * (n - k * d).natAbs = d := by
    rw [distance, div_eq_div_iff size.ne' two_ne_zero, one_mul, mul_comm]
    exact_mod_cast Iff.rfl
  rw [← near, ← tie]
  exact ⟨fun h => ⟨h.near, h.even⟩, fun h => ⟨h.1, h.2⟩⟩

/-! ## Numerals -/

namespace Text

/-- The number of a text of digits. -/
def digits? (cs : List Char) : Option ℕ :=
  if cs.isEmpty = false ∧ cs.all Char.isDigit = true then some (Nat.ofDigitChars 10 cs 0) else none

/-- What digits behind a point are worth. -/
def worth (cs : List Char) : ℚ := Nat.ofDigitChars 10 cs 0 / 10 ^ cs.length

/-- The number of digits with a point among them, or without one. -/
def unsigned? (cs : List Char) : Option ℚ :=
  (digits? (cutAt '.' cs).1).bind fun whole =>
    (cutAt '.' cs).2.elim (some whole) fun fraction =>
      (digits? fraction).map fun _ => whole + worth fraction

/-- The number of a decimal numeral. -/
def decimal? (cs : List Char) : Option ℚ :=
  if cs.head? = some '-' then (unsigned? cs.tail).map Neg.neg else unsigned? cs

/-- Nothing can be left out at the end of the numeral: no point, and behind a point no zero. -/
structure Tidy (cs : List Char) : Prop where
  point : cs.getLast? ≠ some '.'
  zero : '.' ∈ cs → cs.getLast? ≠ some '0'

/-- The minus before a negative number. -/
def minus (negative : Bool) : List Char := if negative then ['-'] else []

/-- Digits with others behind a point, and without a point when there are no others. -/
def withPoint (whole fraction : List Char) : List Char :=
  whole ++ if fraction = [] then [] else '.' :: fraction

variable {whole fraction : List Char}

lemma digits?_eq_some {cs : List Char} (nonempty : cs ≠ []) (h : ∀ c ∈ cs, c.isDigit = true) :
    digits? cs = some (Nat.ofDigitChars 10 cs 0) :=
  if_pos ⟨List.isEmpty_eq_false_iff.mpr nonempty, List.all_eq_true.mpr h⟩

lemma ne_point_of_isDigit {c : Char} (h : c.isDigit = true) : c ≠ '.' :=
  IsNumeral.ne_of_toNat (.inl h) (by decide)

lemma unsigned?_withPoint (nonempty : whole ≠ []) (digits : ∀ c ∈ whole, c.isDigit = true)
    (others : ∀ c ∈ fraction, c.isDigit = true) :
    unsigned? (withPoint whole fraction)
      = some (Nat.ofDigitChars 10 whole 0 + worth fraction) := by
  have noPoint : ∀ c ∈ whole, c ≠ '.' := fun c hc => ne_point_of_isDigit (digits c hc)
  rcases eq_or_ne fraction [] with rfl | some_digit
  · rw [withPoint, if_pos rfl, List.append_nil, unsigned?, cutAt_eq_self noPoint]
    simp [digits?_eq_some nonempty digits, worth]
  · have cut : cutAt '.' (whole ++ '.' :: fraction) = (whole, some fraction) :=
      cutAt_eq_some.mpr ⟨rfl, fun among => noPoint '.' among rfl⟩
    rw [withPoint, if_neg some_digit, unsigned?, cut]
    simp [digits?_eq_some nonempty digits, digits?_eq_some some_digit others]

/-- **What is written is read**, with a minus before it as the opposite number. -/
lemma decimal?_withPoint (negative : Bool) (nonempty : whole ≠ [])
    (digits : ∀ c ∈ whole, c.isDigit = true) (others : ∀ c ∈ fraction, c.isDigit = true) :
    decimal? (minus negative ++ withPoint whole fraction)
      = some ((if negative then -1 else 1) * (Nat.ofDigitChars 10 whole 0 + worth fraction)) := by
  have read := unsigned?_withPoint nonempty digits others
  cases negative with
  | true =>
      rw [minus, if_pos rfl, decimal?, List.singleton_append, List.head?_cons, if_pos rfl,
        List.tail_cons, read, Option.map_some, if_pos rfl, neg_one_mul]
  | false =>
      obtain ⟨c, rest, rfl⟩ := List.exists_cons_of_ne_nil nonempty
      have unsigned : (withPoint (c :: rest) fraction).head? ≠ some '-' := by
        rw [withPoint, List.cons_append, List.head?_cons, Ne, Option.some.injEq]
        rintro rfl
        exact absurd (digits '-' List.mem_cons_self) (by decide)
      rw [minus, if_neg Bool.false_ne_true, decimal?, List.nil_append, if_neg unsigned, read,
        if_neg Bool.false_ne_true, one_mul]

/-- Digits behind a point that do not end in a zero leave nothing to be left out. -/
lemma tidy_withPoint (before : ∀ c ∈ whole, c ≠ '.')
    (behind : ∀ c ∈ fraction, c ≠ '.') (last : fraction.getLast? ≠ some '0') :
    Tidy (withPoint whole fraction) := by
  have absent : ∀ {cs : List Char}, (∀ c ∈ cs, c ≠ '.') → cs.getLast? ≠ some '.' :=
    fun h final => h '.' (List.mem_of_getLast? final) rfl
  rcases eq_or_ne fraction [] with rfl | some_digit
  · rw [withPoint, if_pos rfl, List.append_nil]
    exact ⟨absent before, fun among => absurd rfl (before '.' among)⟩
  · have ending : (withPoint whole fraction).getLast? = fraction.getLast? := by
      rw [withPoint, if_neg some_digit, List.append_cons, List.getLast?_append_of_ne_nil _ some_digit]
    exact ⟨by rw [ending]; exact absent behind, fun _ => by rw [ending]; exact last⟩

/-- A zero at the end is worth nothing. -/
lemma worth_concat_zero (cs : List Char) : worth (cs ++ ['0']) = worth cs := by
  have tenfold : Nat.ofDigitChars 10 (cs ++ ['0']) 0 = 10 * Nat.ofDigitChars 10 cs 0 := by
    rw [Nat.ofDigitChars_append, Nat.ofDigitChars_cons, Nat.ofDigitChars_nil]
    rfl
  rw [worth, worth, tenfold, List.length_append, List.length_singleton, pow_succ]
  push_cast
  field_simp

end Text

/-! ## Rounded numbers -/

namespace Binary64

open Text

/-- **A quotient is rounded to its nearest integer**, a tie to the even one. -/
theorem isHalfEven_roundQuotient (n : ℕ) {d : ℕ} (pos : 0 < d) :
    IsHalfEven ((n : ℤ) / d) (roundQuotient n d : ℕ) := by
  have whole := Nat.div_add_mod n d
  have rest := Nat.mod_lt n pos
  rw [isHalfEven_div pos, roundQuotient]
  generalize n / d = q at whole
  generalize n % d = r at whole rest
  subst whole
  have next : ((q + 1 : ℕ) : ℤ) * d = q * d + d := by
    push_cast
    ring
  have product : ((d * q + r : ℕ) : ℤ) = q * d + r := by
    push_cast
    ring
  split
  · rw [product, add_sub_cancel_left]
    omega
  · split
    · rw [product, next, add_sub_add_left_eq_sub]
      omega
    · split
      · rw [product, add_sub_cancel_left]
        omega
      · rw [product, next, add_sub_add_left_eq_sub]
        omega

/-! ### Values -/

/-- The order of finite numbers is that of their values. -/
lemma le_iff_value {x y : Binary64} (hx : x.isFinite = true) (hy : y.isFinite = true) :
    le x y = true ↔ x.value ≤ y.value := by
  cases x with
  | nan => cases hx
  | infinite s => cases hx
  | finite s m grid =>
      cases y with
      | nan => cases hy
      | infinite t => cases hy
      | finite t n other =>
          rw [le_finite, value, value, div_le_div_iff_of_pos_right cast_one_pos, Int.cast_le]

lemma value_zero : (0 : Binary64).value = 0 := by
  have zero : (0 : Binary64) = finite false (0 * one) (onGrid_ofNat (k := 0) (by decide)) :=
    ofInt_natCast (k := 0) (by decide)
  rw [zero, value, signedUnits, if_neg Bool.false_ne_true, Nat.zero_mul, Int.cast_natCast,
    Nat.cast_zero, zero_div]

lemma eq_false_of_signedUnits_pos {s : Bool} {n : ℕ} (pos : 0 < signedUnits s n) : s = false := by
  cases s with
  | false => rfl
  | true =>
      rw [signedUnits, if_pos rfl] at pos
      omega

/-- Numbers that are equal are the same, zeros apart. -/
lemma eq_of_value_pos {x y : Binary64} (finitely : x.isFinite = true) (same : eq x y = true)
    (pos : 0 < x.value) : x = y := by
  cases x with
  | nan => cases finitely
  | infinite s => cases finitely
  | finite s m grid =>
      cases y with
      | nan => cases same
      | infinite t => cases t <;> cases same
      | finite t n other =>
          have units : signedUnits s m = signedUnits t n := by
            simpa [eq, compare?] using same
          have some : 0 < signedUnits s m := by
            rw [value, div_pos_iff_of_pos_right cast_one_pos] at pos
            exact_mod_cast pos
          obtain rfl := eq_false_of_signedUnits_pos some
          obtain rfl := eq_false_of_signedUnits_pos (units ▸ some)
          obtain rfl : m = n := Int.ofNat.inj units
          rfl

/-! ### Places -/

/-- The digits of a number with so many places are its nearest ones. -/
lemma isHalfEven_toPlaces (places : ℕ) {n : ℕ} {grid : OnGrid n} :
    IsHalfEven ((finite false n grid).value * 10 ^ places) (toPlaces n places : ℕ) := by
  have scaled := isHalfEven_roundQuotient (n * tenTo places) one_pos
  have power : ((tenTo places : ℕ) : ℚ) = 10 ^ places := Nat.cast_pow 10 places
  rw [Nat.cast_mul, Int.cast_mul, Int.cast_natCast, Int.cast_natCast, power,
    mul_div_right_comm] at scaled
  exact scaled

lemma toList_withSign (negative : Bool) (text : String) :
    (withSign negative text).toList = minus negative ++ text.toList := by
  cases negative <;> simp [withSign, minus]

lemma toList_paddedDigits (width n : ℕ) : (paddedDigits width n).toList
    = List.replicate (width - (Nat.toDigits 10 n).length) '0' ++ Nat.toDigits 10 n := by
  have zeros : ∀ k, ("".pushn '0' k).toList = List.replicate k '0' := by
    intro k
    rw [String.pushn_eq_repeat_push]
    induction k with
    | zero => rfl
    | succ k ih => rw [Nat.repeat, String.toList_push, ih, List.replicate_succ']
  have text : toString n = String.ofList (Nat.toDigits 10 n) := Nat.repr_eq_ofList_toDigits
  rw [paddedDigits, text, String.toList_append, zeros, String.toList_ofList, String.length_ofList]

lemma isDigit_of_mem_paddedDigits {width n : ℕ} :
    ∀ c ∈ (paddedDigits width n).toList, c.isDigit = true := by
  intro c hc
  rw [toList_paddedDigits, List.mem_append] at hc
  rcases hc with zero | digit
  · rw [List.eq_of_mem_replicate zero]
    decide
  · exact isDigit_of_mem_toDigits digit

/-- The zeros before a number fill its places up. -/
lemma worth_paddedDigits {places n : ℕ} (pos : 0 < places) (small : n < tenTo places) :
    worth (paddedDigits places n).toList = n / 10 ^ places := by
  have short := length_toDigits_le pos small
  have length : (paddedDigits places n).toList.length = places := by
    rw [toList_paddedDigits, List.length_append, List.length_replicate]
    omega
  have digits : Nat.ofDigitChars 10 (paddedDigits places n).toList 0 = n := by
    rw [toList_paddedDigits, Nat.ofDigitChars_append, Nat.ofDigitChars_replicate_zero,
      Nat.mul_zero, Nat.ofDigitChars_ten_toDigits]
  rw [worth, length, digits]

lemma toList_pointed {places : ℕ} (pos : 0 < places) (k : ℕ) :
    (pointed k places).toList = Nat.toDigits 10 (k / tenTo places)
      ++ '.' :: (paddedDigits places (k % tenTo places)).toList := by
  have text : toString (k / tenTo places) = String.ofList (Nat.toDigits 10 (k / tenTo places)) :=
    Nat.repr_eq_ofList_toDigits
  rw [pointed, if_neg pos.ne', text]
  simp

end Binary64

end Montage
