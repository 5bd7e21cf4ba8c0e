import Mathlib.Tactic.Common
import Mathlib.Tactic.Ring
import Montage.Binary64.Decimal
import Montage.Proofs.Binary64.Range

/-!
# Rounding does not pass what needs no rounding

A number that is rounded stays on its side of every number of the grid.  So a bound that is itself
on the grid outlasts any operation, however often it is rounded.

* `roundQuotient_le`, `le_roundQuotient` — an integer is not passed.
* **`nearest_le_of_significant`**, **`le_nearest_of_significant`** — neither is a point of the grid;
  `nearest_of_significant` — so such a point is where it is.
* `le_nearest_of_odd` — from half way on a quotient is rounded up; **`ofRatio?_eq_error`** — so
  numbers end half a step past the largest one.
* `isFinite_add` — a small number added to a finite one leaves it finite.
* **`UpTo`** — a number from zero to so many units; `UpTo.add`, `UpTo.mul`, `UpTo.div`,
  `UpTo.roundPlaces` — what an operation makes of such numbers.
-/

namespace Montage.Binary64

/-! ## Integers -/

/-- A quotient that is at most an integer is rounded to at most that integer. -/
lemma roundQuotient_le {n d q : Nat} (h : n ≤ q * d) : roundQuotient n d ≤ q := by
  have below : n / d ≤ q := Nat.div_le_of_le_mul (by rwa [Nat.mul_comm])
  rcases Nat.lt_or_eq_of_le below with less | same
  · exact Nat.le_trans (roundQuotient_le_succ n d) less
  · -- the quotient is the integer itself, so nothing is left to be rounded
    have rest : n % d = 0 := by
      have whole := Nat.div_add_mod n d
      rw [same, Nat.mul_comm] at whole
      omega
    have least : roundQuotient n d = n / d := by
      unfold roundQuotient
      rcases Nat.eq_zero_or_pos d with rfl | pos
      · obtain rfl : n = 0 := Nat.le_zero.mp h
        rfl
      · simp [rest, pos]
    rw [least]
    exact below

/-- A quotient is rounded to its integer part at least. -/
lemma div_le_roundQuotient (n d : Nat) : n / d ≤ roundQuotient n d := by
  unfold roundQuotient
  dsimp only
  split
  · exact Nat.le_refl _
  · split
    · exact Nat.le_succ _
    · split
      · exact Nat.le_refl _
      · exact Nat.le_succ _

/-- Nothing divided is nothing. -/
lemma roundQuotient_zero (d : Nat) : roundQuotient 0 d = 0 :=
  Nat.le_zero.mp (roundQuotient_le (Nat.zero_le _))

/-- A quotient that is at least an integer is rounded to at least that integer. -/
lemma le_roundQuotient {n d q : Nat} (pos : 0 < d) (h : q * d ≤ n) : q ≤ roundQuotient n d :=
  Nat.le_trans ((Nat.le_div_iff_mul_le pos).mpr h) (div_le_roundQuotient n d)

/-- From half a step past an odd integer, a quotient is rounded up. -/
lemma lt_roundQuotient_of_odd {n d k : Nat} (odd : k % 2 = 1) (quotient : n / d = k) :
    k < roundQuotient n d ↔ (2 * k + 1) * d ≤ 2 * n := by
  have whole := Nat.div_add_mod n d
  have half : (2 * k + 1) * d = 2 * (d * k) + d := by
    rw [Nat.add_mul, Nat.one_mul, Nat.mul_assoc, Nat.mul_comm k]
  rw [quotient] at whole
  unfold roundQuotient
  dsimp only
  rw [quotient, half]
  split
  · omega
  · split
    · omega
    · rw [if_neg (by omega)]
      omega

/-! ## Points of the grid -/

/-- A point of the grid is a multiple of the step at a quotient, or it lies below all numbers that
have this step. -/
lemma dvd_or_lt_of_significant {n d g : Nat} (significant : Significant g) :
    twoTo (stepExponent n d) ∣ g ∨ g < twoTo (52 + stepExponent n d)
      ∧ twoTo (52 + stepExponent n d) ≤ n / d := by
  obtain ⟨m, e, small, rfl⟩ := significant
  rcases Nat.lt_or_ge e (stepExponent n d) with less | more
  · right
    have log : (n / d).log2 = 52 + stepExponent n d := by
      have : 0 < stepExponent n d := Nat.lt_of_le_of_lt (Nat.zero_le e) less
      unfold stepExponent at this ⊢
      omega
    have large : n / d ≠ 0 := by
      intro zero
      rw [zero, Nat.log2_zero] at log
      omega
    constructor
    · calc m * twoTo e < twoTo 53 * twoTo e := Nat.mul_lt_mul_of_pos_right small (twoTo_pos e)
        _ = twoTo (53 + e) := (twoTo_add 53 e).symm
        _ ≤ twoTo (52 + stepExponent n d) := twoTo_le (by omega)
    · rw [← log]
      exact twoTo_log_le large
  · left
    obtain ⟨rest, rfl⟩ := Nat.exists_eq_add_of_le more
    rw [twoTo_add]
    exact ⟨m * twoTo rest, Nat.mul_left_comm _ _ _⟩

/-- **What is at most a point of the grid is rounded to at most that point.** -/
theorem nearest_le_of_significant {n d g : Nat} (significant : Significant g) (h : n ≤ g * d) :
    nearest n d ≤ g := by
  rcases dvd_or_lt_of_significant (n := n) (d := d) significant with ⟨k, rfl⟩ | ⟨less, large⟩
  · rw [nearest, Nat.mul_comm (twoTo _) k]
    refine Nat.mul_le_mul_right _ (roundQuotient_le (Nat.le_trans h (Nat.le_of_eq ?_)))
    rw [Nat.mul_comm (twoTo _) k, Nat.mul_assoc, Nat.mul_comm (twoTo _) d]
  · have below : n / d ≤ g := Nat.div_le_of_le_mul (by rwa [Nat.mul_comm])
    omega

/-- **What is at least a point of the grid is rounded to at least that point.** -/
theorem le_nearest_of_significant {n d g : Nat} (pos : 0 < d) (significant : Significant g)
    (h : g * d ≤ n) : g ≤ nearest n d := by
  have step := Nat.mul_pos pos (twoTo_pos (stepExponent n d))
  rcases dvd_or_lt_of_significant (n := n) (d := d) significant with ⟨k, rfl⟩ | ⟨less, large⟩
  · rw [nearest, Nat.mul_comm (twoTo _) k]
    refine Nat.mul_le_mul_right _ (le_roundQuotient step (Nat.le_trans (Nat.le_of_eq ?_) h))
    rw [Nat.mul_comm (twoTo _) k, Nat.mul_assoc, Nat.mul_comm (twoTo _) d]
  · have kept : twoTo 52 ≤ n / (d * twoTo (stepExponent n d)) := by
      rw [← Nat.div_div_eq_div_mul, Nat.le_div_iff_mul_le (twoTo_pos _), ← twoTo_add]
      exact large
    calc g ≤ twoTo (52 + stepExponent n d) := Nat.le_of_lt less
      _ = twoTo 52 * twoTo (stepExponent n d) := twoTo_add _ _
      _ ≤ nearest n d :=
          Nat.mul_le_mul_right _ (Nat.le_trans kept (div_le_roundQuotient _ _))

/-- Nothing is rounded to nothing, whatever it is divided by. -/
lemma nearest_zero (d : Nat) : nearest 0 d = 0 :=
  Nat.le_zero.mp (nearest_le_of_significant significant_zero (Nat.zero_le _))

/-- A point of the grid is where it is. -/
lemma nearest_of_significant {g : Nat} (significant : Significant g) : nearest g 1 = g :=
  Nat.le_antisymm (nearest_le_of_significant significant (Nat.le_of_eq (Nat.mul_one g).symm))
    (le_nearest_of_significant Nat.one_pos significant (Nat.le_of_eq (Nat.mul_one g)))

/-- An integer of 53 bits, shifted into the range, is a double. -/
lemma onGrid_shifted {k e : Nat} (small : k < twoTo 53) (room : 53 + e ≤ 2098) :
    OnGrid (k * twoTo e) where
  below := by
    calc k * twoTo e < twoTo 53 * twoTo e := Nat.mul_lt_mul_of_pos_right small (twoTo_pos e)
      _ = twoTo (53 + e) := (twoTo_add 53 e).symm
      _ ≤ twoTo 2098 := twoTo_le room
  significant := ⟨k, e, small, rfl⟩

/-- In particular such an integer itself. -/
lemma onGrid_ofNat {k : Nat} (small : k < twoTo 53) : OnGrid (k * one) :=
  onGrid_shifted small (by decide)

lemma one_pos : 0 < one := twoTo_pos 1074

/-- A small integer is a number as it is. -/
lemma ofInt_natCast {k : Nat} (small : k < twoTo 53) :
    ofInt k = finite false (k * one) (onGrid_ofNat small) := by
  have same : nearest (k * one) 1 = k * one := nearest_of_significant (onGrid_ofNat small).significant
  have positive : decide ((k : Int) < 0) = false := decide_eq_false (by omega)
  simp only [ofInt, positive, Int.natAbs_natCast, ofQuotient, same, (onGrid_ofNat small).below,
    dif_pos]

/-- Zero is zero at any number of places. -/
lemma toPlaces_zero (places : Nat) : toPlaces 0 places = 0 := by
  rw [toPlaces, Nat.zero_mul, roundQuotient_zero]

lemma tenTo_pos (e : Nat) : 0 < tenTo e := Nat.pow_pos (by decide)

/-- A decimal with few places is one quotient. -/
lemma ofDecimal_places {places : Nat} (few : places ≤ 400) (negative : Bool) (digits : Nat) :
    ofDecimal negative digits (-places) = ofQuotient negative (digits * one) (tenTo places) := by
  rw [ofDecimal]
  split
  · rename_i none
    rw [none, Nat.zero_mul]
    simp only [ofQuotient, nearest_zero]
  · rw [if_neg (by omega), if_neg (by omega)]
    split
    · obtain rfl : places = 0 := by omega
      rw [show tenTo (-((0 : Nat) : Int)).toNat = 1 from rfl, Nat.mul_one]
      rfl
    · rw [Int.neg_neg, Int.toNat_natCast]

/-! ## The largest number -/

/-- A quotient between two neighbouring powers of two has the step of the lower one. -/
lemma stepExponent_of_between {n d e : Nat} (low : twoTo (52 + e) ≤ n / d)
    (high : n / d < twoTo (53 + e)) : stepExponent n d = e := by
  have pos : n / d ≠ 0 := Nat.ne_of_gt (Nat.lt_of_lt_of_le (twoTo_pos _) low)
  have log : (n / d).log2 = 52 + e := (Nat.log2_eq_iff pos).mpr ⟨low, by
    rw [show 52 + e + 1 = 53 + e by omega]
    exact high⟩
  rw [stepExponent, log]
  omega

/-- What lies less than half a step above a point of the grid is rounded back to it. -/
lemma nearest_of_half_step {k e r : Nat} (low : twoTo 52 ≤ k) (small : k < twoTo 53)
    (half : 2 * r < twoTo e) : nearest (k * twoTo e + r) 1 = k * twoTo e := by
  have step : stepExponent (k * twoTo e + r) 1 = e := by
    refine stepExponent_of_between ?_ ?_
    · rw [Nat.div_one, twoTo_add]
      exact Nat.le_trans (Nat.mul_le_mul_right _ low) (Nat.le_add_right _ _)
    · rw [Nat.div_one]
      calc k * twoTo e + r < k * twoTo e + twoTo e := by omega
        _ = (k + 1) * twoTo e := (Nat.succ_mul _ _).symm
        _ ≤ twoTo 53 * twoTo e := Nat.mul_le_mul_right _ small
        _ = twoTo (53 + e) := (twoTo_add 53 e).symm
  have less : r < twoTo e := by omega
  have quotient : (k * twoTo e + r) / twoTo e = k := by
    rw [Nat.add_comm, Nat.add_mul_div_right _ _ (twoTo_pos e), Nat.div_eq_of_lt less, Nat.zero_add]
  have rest : (k * twoTo e + r) % twoTo e = r := by
    rw [Nat.add_comm, Nat.add_mul_mod_self_right, Nat.mod_eq_of_lt less]
  rw [nearest, step, Nat.one_mul, roundQuotient]
  simp only [quotient, rest, half, if_true]

/-- Up to half a step past a point of the grid, rounding stays at that point. -/
lemma nearest_le_of_half_step {n k e : Nat} (low : twoTo 52 ≤ k) (small : k < twoTo 53)
    (h : 2 * n < (2 * k + 1) * twoTo e) : nearest n 1 ≤ k * twoTo e := by
  rcases Nat.le_total n (k * twoTo e) with le | ge
  · exact nearest_le_of_significant ⟨k, e, small, rfl⟩ (by rwa [Nat.mul_one])
  · obtain ⟨r, rfl⟩ := Nat.exists_eq_add_of_le ge
    rw [Nat.add_mul, Nat.mul_assoc, Nat.mul_add, Nat.one_mul] at h
    exact Nat.le_of_eq (nearest_of_half_step low small (by omega))

/-- **The point after an odd one is reached from half way on.** -/
theorem le_nearest_of_odd {n d k e : Nat} (pos : 0 < d) (odd : k % 2 = 1) (low : twoTo 52 ≤ k)
    (small : k < twoTo 53) :
    (k + 1) * twoTo e ≤ nearest n d ↔ (2 * k + 1) * twoTo e * d ≤ 2 * n := by
  have half : (2 * k + 1) * twoTo e * d = 2 * (k * twoTo e * d) + twoTo e * d := by
    simp only [Nat.add_mul, Nat.one_mul, Nat.mul_assoc]
  have next : (k + 1) * twoTo e * d = k * twoTo e * d + twoTo e * d := by
    rw [Nat.add_mul, Nat.add_mul, Nat.one_mul]
  have step : 0 < twoTo e * d := Nat.mul_pos (twoTo_pos e) pos
  rcases Nat.lt_or_ge n (k * twoTo e * d) with below | above
  · have stays := nearest_le_of_significant ⟨k, e, small, rfl⟩ (Nat.le_of_lt below)
    have less : k * twoTo e < (k + 1) * twoTo e :=
      Nat.mul_lt_mul_of_pos_right k.lt_succ_self (twoTo_pos e)
    omega
  rcases Nat.lt_or_ge n ((k + 1) * twoTo e * d) with within | beyond
  · -- between the two points the step is the distance of the points
    have least : k * twoTo e ≤ n / d := (Nat.le_div_iff_mul_le pos).mpr above
    have last : stepExponent n d = e := by
      refine stepExponent_of_between ?_ ?_
      · rw [twoTo_add]
        exact Nat.le_trans (Nat.mul_le_mul_right _ low) least
      · rw [twoTo_add]
        exact Nat.lt_of_lt_of_le ((Nat.div_lt_iff_lt_mul pos).mpr within)
          (Nat.mul_le_mul_right _ small)
    have quotient : n / (d * twoTo e) = k := by
      refine Nat.div_eq_of_lt_le ?_ ?_
      · rwa [Nat.mul_comm d, ← Nat.mul_assoc]
      · rwa [Nat.mul_comm d, ← Nat.mul_assoc]
    rw [nearest, last, Nat.mul_le_mul_right_iff (twoTo_pos e), Nat.mul_assoc,
      Nat.mul_comm (twoTo e)]
    exact lt_roundQuotient_of_odd odd quotient
  · have reaches : (k + 1) * twoTo e ≤ nearest n d :=
      le_nearest_of_significant pos (significant_of_le small) beyond
    omega

/-- No number of the grid below a power of two lies above the last one with 53 bits. -/
lemma le_of_significant {n k e : Nat} (low : twoTo 52 ≤ k) (significant : Significant n)
    (h : n < (k + 1) * twoTo e) : n ≤ k * twoTo e := by
  obtain ⟨m, d, small, rfl⟩ := significant
  rcases Nat.lt_or_ge d e with less | more
  · obtain ⟨c, rfl⟩ := Nat.exists_eq_add_of_lt less
    calc m * twoTo d ≤ twoTo 53 * twoTo d := Nat.mul_le_mul_right _ (Nat.le_of_lt small)
      _ = twoTo 52 * twoTo (d + 1) := by
          rw [twoTo_succ 52, twoTo_succ d, Nat.mul_assoc, Nat.mul_comm 2]
      _ ≤ k * twoTo (d + c + 1) := Nat.mul_le_mul low (twoTo_le (by omega))
  · obtain ⟨c, rfl⟩ := Nat.exists_eq_add_of_le more
    rw [twoTo_add, Nat.mul_left_comm, Nat.mul_comm (twoTo e)] at h ⊢
    have := Nat.lt_of_mul_lt_mul_right h
    exact Nat.mul_le_mul_right _ (by omega)

/-- The bits of the largest number. -/
def fullBits : Nat := twoTo 53 - 1

lemma overflowUnits_pos : 0 < overflowUnits := twoTo_pos 2098

/-- The least magnitude that is out of range, with all bits but the last taken out. -/
lemma overflowUnits_eq : overflowUnits = (fullBits + 1) * twoTo 2045 := by
  rw [overflowUnits, fullBits, Nat.sub_add_cancel (twoTo_pos 53), ← twoTo_add]

/-- No number has more units than the largest. -/
lemma le_largest {n : Nat} (grid : OnGrid n) : n ≤ fullBits * twoTo 2045 := by
  refine le_of_significant (by decide) grid.significant ?_
  rw [← overflowUnits_eq]
  exact grid.below

/-- Numbers end half a step past the largest one. -/
lemma overflowUnits_le_nearest {n d : Nat} (pos : 0 < d) :
    overflowUnits ≤ nearest n d ↔ (2 * fullBits + 1) * twoTo 2045 * d ≤ 2 * n := by
  rw [overflowUnits_eq]
  exact le_nearest_of_odd pos (by decide) (by decide) (by decide)

/-- The least whole number that is rounded beyond the largest one: 2^1024 less half a step. -/
def leastExcess : Nat := (2 * fullBits + 1) * twoTo 970

/-- A power of two, counted in half units of the grid. -/
lemma twoTo_units (e : Nat) : twoTo (e + 1075) = twoTo e * one * 2 := by
  rw [twoTo_succ (e + 1074), twoTo_add]
  rfl

/-- A comparison of quotients does not depend on the unit they are counted in. -/
lemma scaled_le_scaled {bits scale u d n : Nat} (pos : 0 < u) :
    bits * (scale * u * 2) * d ≤ 2 * (n * u) ↔ bits * scale * d ≤ n := by
  rw [show bits * (scale * u * 2) * d = bits * scale * d * (2 * u) by ring,
    show 2 * (n * u) = n * (2 * u) by ring, Nat.mul_le_mul_right_iff (by omega)]

/-- **A quotient is too large from the least excess on.** -/
theorem ofRatio?_eq_error {n d : Nat} {f : Fault} (pos : 0 < d) :
    ofRatio? n d = .error f ↔ leastExcess * d ≤ n ∧ f = .quotientTooLarge := by
  have large : overflowUnits ≤ nearest (n * one) d ↔ leastExcess * d ≤ n := by
    rw [overflowUnits_le_nearest pos, twoTo_units 970, scaled_le_scaled one_pos]
    rfl
  rw [← large]
  unfold ofRatio? ofRatio ofQuotient
  rw [Int.natAbs_natCast, Int.natAbs_natCast]
  split
  · rename_i below
    simp [unlessInfinite, Nat.not_le.mpr below]
  · rename_i beyond
    simp only [unlessInfinite, Except.error.injEq, Nat.not_lt.mp beyond, true_and]
    exact eq_comm

lemma four_twoTo (e : Nat) : twoTo (e + 2) = 4 * twoTo e := by
  rw [twoTo_succ, twoTo_succ]
  omega

/-- **A finite number stays finite when a quarter of its last step, or less, is added.** -/
lemma isFinite_add {x y : Binary64} (hx : x.isFinite = true) (hy : Within (twoTo 2043) y) :
    (x + y).isFinite = true := by
  obtain ⟨s, m, grid, rfl⟩ := isFinite_eq_true.mp hx
  obtain ⟨t, n, other, rfl, small⟩ := hy
  have sum := Int.natAbs_add_le (signedUnits s m) (signedUnits t n)
  rw [Within.natAbs_signedUnits, Within.natAbs_signedUnits] at sum
  have largest := le_largest grid
  have steps : twoTo 2045 = 4 * twoTo 2043 := four_twoTo 2043
  have below : nearest (signedUnits s m + signedUnits t n).natAbs 1 < overflowUnits := by
    have stays : nearest (signedUnits s m + signedUnits t n).natAbs 1 ≤ fullBits * twoTo 2045 := by
      refine nearest_le_of_half_step (by decide) (by decide) ?_
      have pos := twoTo_pos 2043
      rw [Nat.add_mul, Nat.mul_assoc, steps, Nat.one_mul]
      rw [steps] at largest
      -- only how the bounds relate matters, not the powers themselves
      generalize twoTo 2043 = u at *
      omega
    exact Nat.lt_of_le_of_lt stays (onGrid_shifted (by decide) (by decide)).below
  rw [finite_add_finite, ofUnits, ofQuotient, dif_pos below]
  rfl

/-! ## From zero to a bound -/

/-- From zero to so many units; a zero may have either sign. -/
def UpTo (b : Nat) (x : Binary64) : Prop :=
  ∃ negative n grid, x = finite negative n grid ∧ n ≤ b ∧ (negative = true → n = 0)

namespace UpTo

variable {a b c : Nat} {x y : Binary64}

/-- A number without a sign need not be zero. -/
lemma unsigned {n : Nat} (negative : false = true) : n = 0 := absurd negative Bool.false_ne_true

/-- A number up to a bound is up to any greater one. -/
lemma mono (h : UpTo a x) (le : a ≤ b) : UpTo b x := by
  obtain ⟨s, n, grid, rfl, bound, sign⟩ := h
  exact ⟨s, n, grid, rfl, Nat.le_trans bound le, sign⟩

/-- It is a number. -/
lemma isNan (h : UpTo b x) : x.isNan = false := by
  obtain ⟨s, n, grid, rfl, -⟩ := h
  rfl

/-- A quotient up to a point of the grid. -/
lemma ofQuotient {negative : Bool} {n d : Nat} (grid : OnGrid b) (h : n ≤ b * d)
    (sign : negative = true → n = 0) : UpTo b (ofQuotient negative n d) := by
  have bound : nearest n d ≤ b := nearest_le_of_significant grid.significant h
  have below : nearest n d < overflowUnits := Nat.lt_of_le_of_lt bound grid.below
  rw [Binary64.ofQuotient, dif_pos below]
  refine ⟨negative, _, _, rfl, bound, fun other => ?_⟩
  rw [sign other, nearest_zero]

/-- An integer of 53 bits is a number up to itself. -/
lemma ofNat {k : Nat} (small : k < twoTo 53) : UpTo (k * one) (ofInt k) :=
  ⟨false, _, _, ofInt_natCast small, Nat.le_refl _, unsigned⟩

/-- A number that is at least zero has as many units as it says. -/
lemma signedUnits_eq {s : Bool} {n : Nat} (sign : s = true → n = 0) : signedUnits s n = n := by
  cases s with
  | false => rfl
  | true =>
      rw [sign rfl]
      rfl

/-- A sum of two such numbers is one quotient, negative only when it is zero. -/
lemma exists_add {s t : Bool} {m n : Nat} (grid : OnGrid m) (other : OnGrid n)
    (signX : s = true → m = 0) (signY : t = true → n = 0) :
    ∃ w, finite s m grid + finite t n other = Binary64.ofQuotient w (m + n) 1
      ∧ (w = true → m + n = 0) := by
  rw [finite_add_finite, signedUnits_eq signX, signedUnits_eq signY, ofUnits]
  refine ⟨_, rfl, fun negative => ?_⟩
  by_contra nonzero
  rw [if_neg (by omega), decide_eq_true_iff] at negative
  omega

/-- A sum is at most the sum of the bounds, if that is a double. -/
lemma add (hx : UpTo a x) (hy : UpTo b y) (grid : OnGrid (a + b)) : UpTo (a + b) (x + y) := by
  obtain ⟨s, m, gridX, rfl, boundX, signX⟩ := hx
  obtain ⟨t, n, gridY, rfl, boundY, signY⟩ := hy
  obtain ⟨w, sum, sign⟩ := exists_add gridX gridY signX signY
  rw [sum]
  exact ofQuotient grid (by omega) sign

/-- A product of signs is negative only when one of the factors is. -/
lemma mul_eq_zero_of_sign {s t : Bool} {m n : Nat} (signX : s = true → m = 0)
    (signY : t = true → n = 0) (negative : (s != t) = true) : m * n = 0 := by
  cases s with
  | true => rw [signX rfl, Nat.zero_mul]
  | false =>
      cases t with
      | true => rw [signY rfl, Nat.mul_zero]
      | false => cases negative

/-- A product is at most a double that the product of the bounds does not exceed. -/
lemma mul (hx : UpTo a x) (hy : UpTo b y) (grid : OnGrid c) (h : a * b ≤ c * one) :
    UpTo c (x * y) := by
  obtain ⟨s, m, _, rfl, boundX, signX⟩ := hx
  obtain ⟨t, n, _, rfl, boundY, signY⟩ := hy
  rw [finite_mul_finite]
  exact ofQuotient grid (Nat.le_trans (Nat.mul_le_mul boundX boundY) h)
    (mul_eq_zero_of_sign signX signY)

/-- A number divided by a small integer. -/
lemma div_ofNat {k : Nat} (hx : UpTo a x) (small : k < twoTo 53) (pos : 0 < k) (grid : OnGrid c)
    (h : a ≤ c * k) : UpTo c (x / ofInt k) := by
  obtain ⟨s, m, _, rfl, bound, sign⟩ := hx
  rw [ofInt_natCast small]
  have nonzero : k * one ≠ 0 := Nat.ne_of_gt (Nat.mul_pos pos one_pos)
  show UpTo c (div (finite s m _) (finite false (k * one) _))
  rw [div, if_neg nonzero]
  refine ofQuotient grid ?_ fun negative => ?_
  · rw [← Nat.mul_assoc]
    exact Nat.mul_le_mul_right _ (Nat.le_trans bound h)
  · rw [sign (by simpa using negative), Nat.zero_mul]

/-- Places after the point do not lead past an integer. -/
lemma roundPlaces {k : Nat} (hx : UpTo (k * one) x) (small : k < twoTo 53) (places : Nat) :
    UpTo (k * one) (roundPlaces places x) := by
  obtain ⟨s, n, _, rfl, bound, sign⟩ := hx
  have grid := onGrid_ofNat small
  have zero : ∀ negative, UpTo (k * one) (Binary64.ofQuotient negative 0 1) := fun _ =>
    ofQuotient grid (Nat.zero_le _) fun _ => rfl
  have digits : toPlaces n places ≤ k * tenTo places := by
    refine roundQuotient_le ?_
    rw [Nat.mul_right_comm]
    exact Nat.mul_le_mul_right _ bound
  have none : s = true → toPlaces n places = 0 := by
    intro negative
    rw [sign negative, toPlaces_zero]
  rw [Binary64.roundPlaces, ofDecimal]
  split
  · exact zero s
  · split
    · omega
    · split
      · exact zero s
      · split
        · -- no places at all
          have whole : places = 0 := by omega
          subst whole
          refine ofQuotient grid ?_ fun negative => by rw [none negative]; simp
          simpa [tenTo] using Nat.mul_le_mul_right one digits
        · rw [Int.neg_neg, Int.toNat_natCast]
          refine ofQuotient grid ?_ fun negative => by rw [none negative, Nat.zero_mul]
          rw [Nat.mul_right_comm]
          exact Nat.mul_le_mul_right _ digits

end UpTo

end Montage.Binary64
