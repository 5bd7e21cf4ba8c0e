import Mathlib.Data.Rat.Floor
import Mathlib.Tactic.Common
import Mathlib.Tactic.FieldSimp
import Mathlib.Tactic.Linarith
import Mathlib.Tactic.Ring
import Montage.Proofs.Binary64.Monotone
import Montage.Proofs.Field.Faults

/-!
# The nearest integer, a half upward

To round a half upward, a half is added and the floor is taken.  The sum is itself rounded to the
grid, so the result can be one too large: just below a half, where the sum is rounded to one, and at
odd integers with 53 bits, where the sum lies half way between two integers and goes to the even
one.  Everywhere else the result is the nearest integer, a half upward, in exact arithmetic.

* `Binary64.value` — the rational number that a finite number is; `IsHalfUp` — the integer nearest
  to a rational number, a half upward; `existsUnique_isHalfUp` — there is one.
* `Binary64.Strays` — the numbers that are rounded to the next integer.
* `settle` — rounding a signed count of units; `settle_fraction`, `settle_whole` — a number that is
  no integer, and an integer, with a half added.
* **`roundHalfUp_eq`** — what every finite number is rounded to.
-/

namespace Montage

/-- The integer nearest to a rational number, a half upward. -/
def IsHalfUp (v : ℚ) (n : ℤ) : Prop := n - 1 / 2 ≤ v ∧ v < n + 1 / 2

/-- There is exactly one such integer. -/
lemma existsUnique_isHalfUp (v : ℚ) : ∃! n, IsHalfUp v n := by
  refine ⟨⌊v + 1 / 2⌋, ⟨?_, ?_⟩, ?_⟩
  · linarith [Int.floor_le (v + 1 / 2)]
  · linarith [Int.lt_floor_add_one (v + 1 / 2)]
  · rintro n ⟨low, high⟩
    refine (Int.floor_eq_iff.mpr ⟨?_, ?_⟩).symm
    · linarith
    · linarith

namespace Binary64

/-- The number that a finite one is; nothing is said of the others. -/
def value : Binary64 → ℚ
  | finite s n _ => (signedUnits s n : ℚ) / (one : ℕ)
  | _ => 0

/-- The numbers that are rounded too far: the last one below a half, and the odd integers that have
53 bits. -/
def Strays (x : Binary64) : Prop :=
  x.value = fullBits / twoTo 54
    ∨ ∃ i : ℤ, x.value = i ∧ i % 2 = 1 ∧ twoTo 52 < i.natAbs ∧ i.natAbs < twoTo 53

/-! ## Ties and half steps -/

/-- A point of the grid that is large enough has all its 53 bits. -/
lemma exists_bits {n f : ℕ} (significant : Significant n) (large : twoTo 52 * twoTo f ≤ n) :
    ∃ m e, twoTo 52 ≤ m ∧ m < twoTo 53 ∧ f ≤ e ∧ n = m * twoTo e := by
  obtain ⟨k, d, small, rfl⟩ := significant
  have nonzero : k ≠ 0 := by
    rintro rfl
    rw [Nat.zero_mul] at large
    exact absurd large (Nat.not_le.mpr (Nat.mul_pos (twoTo_pos _) (twoTo_pos _)))
  have log : k.log2 ≤ 52 := by
    have : k.log2 < 53 := (Nat.log2_lt nonzero).mpr small
    omega
  obtain ⟨shift, sum⟩ := Nat.exists_eq_add_of_le log
  have deep : f + shift ≤ d := by
    by_contra shallow
    have : k * twoTo d < twoTo 52 * twoTo f := by
      calc k * twoTo d < twoTo (k.log2 + 1) * twoTo d :=
            Nat.mul_lt_mul_of_pos_right (lt_twoTo_log k) (twoTo_pos d)
        _ = twoTo (k.log2 + 1 + d) := (twoTo_add _ _).symm
        _ ≤ twoTo (52 + f) := twoTo_le (by omega)
        _ = twoTo 52 * twoTo f := twoTo_add _ _
    omega
  obtain ⟨rest, rfl⟩ := Nat.exists_eq_add_of_le deep
  refine ⟨k * twoTo shift, f + rest, ?_, ?_, by omega, ?_⟩
  · calc twoTo 52 = twoTo (k.log2 + shift) := by rw [← sum]
      _ = twoTo k.log2 * twoTo shift := twoTo_add _ _
      _ ≤ k * twoTo shift := Nat.mul_le_mul_right _ (twoTo_log_le nonzero)
  · calc k * twoTo shift < twoTo (k.log2 + 1) * twoTo shift :=
          Nat.mul_lt_mul_of_pos_right (lt_twoTo_log k) (twoTo_pos _)
      _ = twoTo (k.log2 + 1 + shift) := (twoTo_add _ _).symm
      _ = twoTo 53 := by rw [show k.log2 + 1 + shift = 53 by omega]
  · rw [Nat.mul_assoc, ← twoTo_add, show shift + (f + rest) = f + shift + rest by omega]

/-- **A tie goes to the even neighbour.** -/
lemma nearest_tie {q e : ℕ} (low : twoTo 52 ≤ q) (small : q < twoTo 53) :
    nearest ((2 * q + 1) * twoTo e) 1 = (q + q % 2) * twoTo (e + 1) := by
  have sum : (2 * q + 1) * twoTo e = twoTo e + q * twoTo (e + 1) := by
    rw [twoTo_succ]
    ring
  have less : twoTo e < twoTo (e + 1) := by
    rw [twoTo_succ]
    have := twoTo_pos e
    omega
  have step : stepExponent ((2 * q + 1) * twoTo e) 1 = e + 1 := by
    refine stepExponent_of_between ?_ ?_
    · rw [Nat.div_one, sum, twoTo_add]
      exact Nat.le_trans (Nat.mul_le_mul_right _ low) (Nat.le_add_left _ _)
    · rw [Nat.div_one, sum]
      calc twoTo e + q * twoTo (e + 1) < (q + 1) * twoTo (e + 1) := by
            rw [Nat.succ_mul]
            omega
        _ ≤ twoTo 53 * twoTo (e + 1) := Nat.mul_le_mul_right _ small
        _ = twoTo (53 + (e + 1)) := (twoTo_add _ _).symm
  have quotient : (twoTo e + q * twoTo (e + 1)) / twoTo (e + 1) = q := by
    rw [Nat.add_mul_div_right _ _ (twoTo_pos _), Nat.div_eq_of_lt less, Nat.zero_add]
  have rest : (twoTo e + q * twoTo (e + 1)) % twoTo (e + 1) = twoTo e := by
    rw [Nat.add_mul_mod_self_right, Nat.mod_eq_of_lt less]
  have tie : 2 * twoTo e = twoTo (e + 1) := Nat.mul_comm _ _
  rw [nearest, step, Nat.one_mul, sum]
  congr 1
  rw [roundQuotient, quotient, rest, tie]
  simp only [Nat.lt_irrefl, if_false]
  split
  · omega
  · omega

/-- More than half a step past a point of the grid, the next point is reached. -/
lemma le_nearest_of_half_step {n k e : ℕ} (low : twoTo 52 ≤ k) (small : k < twoTo 53)
    (h : (2 * k + 1) * twoTo e < 2 * n) : (k + 1) * twoTo e ≤ nearest n 1 := by
  rcases Nat.lt_or_ge n ((k + 1) * twoTo e) with within | beyond
  · have sum : (2 * k + 1) * twoTo e = 2 * (k * twoTo e) + twoTo e := by ring
    have next : (k + 1) * twoTo e = k * twoTo e + twoTo e := Nat.succ_mul _ _
    obtain ⟨r, rfl⟩ := Nat.exists_eq_add_of_le (show k * twoTo e ≤ n by omega)
    have less : r < twoTo e := by omega
    have step : stepExponent (k * twoTo e + r) 1 = e := by
      refine stepExponent_of_between ?_ ?_
      · rw [Nat.div_one, twoTo_add]
        exact Nat.le_trans (Nat.mul_le_mul_right _ low) (Nat.le_add_right _ _)
      · rw [Nat.div_one, twoTo_add]
        exact Nat.lt_of_lt_of_le within (Nat.mul_le_mul_right _ small)
    have quotient : (k * twoTo e + r) / twoTo e = k := by
      rw [Nat.add_comm, Nat.add_mul_div_right _ _ (twoTo_pos e), Nat.div_eq_of_lt less,
        Nat.zero_add]
    have rest : (k * twoTo e + r) % twoTo e = r := by
      rw [Nat.add_comm, Nat.add_mul_mod_self_right, Nat.mod_eq_of_lt less]
    rw [nearest, step, Nat.one_mul, roundQuotient, quotient, rest, if_neg (by omega),
      if_pos (by omega)]
  · exact le_nearest_of_significant Nat.one_pos (significant_of_le small)
      (by rwa [Nat.mul_one])

/-! ## Signed counts -/

/-- The number of units in a half. -/
def halfUnits : ℕ := twoTo 1073

/-- Half a unit, twice. -/
lemma one_eq : one = 2 * halfUnits := by
  rw [one, twoTo_succ 1073, Nat.mul_comm, halfUnits]

lemma halfUnits_pos : 0 < halfUnits := twoTo_pos 1073

/-- One half is a double. -/
lemma onGrid_half : OnGrid halfUnits := by
  have shifted := onGrid_shifted (k := 1) (e := 1073) (by decide) (by decide)
  rwa [Nat.one_mul] at shifted

lemma half_eq : half = finite false halfUnits onGrid_half := by
  have same : nearest ((1 : ℤ).natAbs * one) (2 : ℤ).natAbs = halfUnits := by
    have units : (1 : ℤ).natAbs * one = halfUnits * (2 : ℤ).natAbs := by
      have two : (2 : ℤ).natAbs = 2 := rfl
      rw [two, Int.natAbs_one, Nat.one_mul, one_eq, Nat.mul_comm]
    exact Nat.le_antisymm (nearest_le_of_significant onGrid_half.significant (Nat.le_of_eq units))
      (le_nearest_of_significant (by decide) onGrid_half.significant (Nat.le_of_eq units.symm))
  simp only [half, ofRatio, ofQuotient, same, onGrid_half.below, dif_pos]
  rfl

/-- A signed count of units, rounded to the grid. -/
def settle (i : ℤ) : ℤ := signedUnits (i < 0) (nearest i.natAbs 1)

/-- To settle a whole number is to round it to the nearest double. -/
lemma settle_natCast (n : ℕ) : settle n = nearest n 1 := by
  have positive : decide ((n : ℤ) < 0) = false := decide_eq_false (by omega)
  rw [settle, positive, Int.natAbs_natCast]
  rfl

lemma settle_neg (n : ℕ) : settle (-n) = -(nearest n 1 : ℤ) := by
  rcases Nat.eq_zero_or_pos n with rfl | pos
  · rw [Int.natCast_zero, Int.neg_zero, ← Int.natCast_zero, settle_natCast, nearest_zero]
    rfl
  · have negative : decide (-(n : ℤ) < 0) = true := decide_eq_true (by omega)
    rw [settle, negative, Int.natAbs_neg, Int.natAbs_natCast]
    rfl

/-- Rounding keeps the order. -/
lemma settle_mono {i j : ℤ} (h : i ≤ j) : settle i ≤ settle j := by
  obtain ⟨m, rfl | rfl⟩ := i.eq_nat_or_neg
  · obtain ⟨n, rfl⟩ := Int.eq_ofNat_of_zero_le (Int.le_trans (Int.natCast_nonneg m) h)
    rw [settle_natCast, settle_natCast]
    exact Int.ofNat_le.mpr (nearest_mono Nat.one_pos (Int.ofNat_le.mp h))
  · obtain ⟨n, rfl | rfl⟩ := j.eq_nat_or_neg
    · rw [settle_neg, settle_natCast]
      omega
    · have := nearest_mono Nat.one_pos (show n ≤ m by omega)
      rw [settle_neg, settle_neg]
      omega

/-- What is a double already stays as it is. -/
lemma settle_of_significant {i : ℤ} (significant : Significant i.natAbs) : settle i = i := by
  obtain ⟨n, rfl | rfl⟩ := i.eq_nat_or_neg
  · rw [Int.natAbs_natCast] at significant
    rw [settle_natCast, nearest_of_significant significant]
  · rw [Int.natAbs_neg, Int.natAbs_natCast] at significant
    rw [settle_neg, nearest_of_significant significant]

/-- Adding a half to a finite number and taking the floor. -/
lemma roundHalfUp_finite (s : Bool) (n : ℕ) (grid : OnGrid n) :
    roundHalfUp (finite s n grid)
      = .ok ((settle (signedUnits s n + halfUnits)).fdiv one) := by
  have units : signedUnits false halfUnits = halfUnits := rfl
  have stays : (finite s n grid + half).isFinite = true := isFinite_add rfl within_half
  rw [half_eq, finite_add_finite, units] at stays
  rw [roundHalfUp, half_eq, finite_add_finite, units]
  generalize signedUnits s n + halfUnits = i at stays ⊢
  unfold ofUnits ofQuotient at stays ⊢
  split
  · rename_i below
    rw [floor?, floorUnits, settle]
    split
    · rename_i zero
      rw [zero, Int.natAbs_zero, nearest_zero]
      cases s <;> rfl
    · rfl
  · rename_i beyond
    rw [dif_neg beyond] at stays
    cases stays

/-! ## A number that is no integer -/

/-- The largest whole number that is not above a value. -/
lemma fdiv_one {a n : ℤ} (low : n * one ≤ a) (high : a < n * one + one) : a.fdiv one = n := by
  have pos : (0 : ℤ) < one := by exact_mod_cast one_pos
  have least : n ≤ a / one := (Int.le_ediv_iff_mul_le pos).mpr low
  have most : a / one < n + 1 := (Int.ediv_lt_iff_lt_mul pos).mpr (by linarith)
  rw [Int.fdiv_eq_ediv_of_nonneg _ (Int.le_of_lt pos)]
  omega

lemma fdiv_one_natCast {a q : ℕ} (low : q * one ≤ a) (high : a < q * one + one) :
    (a : ℤ).fdiv one = q :=
  fdiv_one (by exact_mod_cast low) (by exact_mod_cast high)

lemma fdiv_one_neg {a q : ℕ} (low : q * one < a + one) (high : a ≤ q * one) :
    (-(a : ℤ)).fdiv one = -q := by
  refine fdiv_one ?_ ?_
  · rw [Int.neg_mul, ← Int.natCast_mul]
    omega
  · rw [Int.neg_mul, ← Int.natCast_mul]
    omega

/-- What lies between an integer and a number of the grid below the next one stays there. -/
lemma settle_between {a b n : ℤ} (low : n * one ≤ a) (most : a ≤ b) (high : b < n * one + one)
    (whole : Significant (n * one).natAbs) (grid : Significant b.natAbs) :
    (settle a).fdiv one = a.fdiv one := by
  have first := settle_mono low
  have last := settle_mono most
  rw [settle_of_significant whole] at first
  rw [settle_of_significant grid] at last
  rw [fdiv_one low (by omega), fdiv_one first (by omega)]

/-- The units of the last number below a half. -/
def lastBelowHalf : ℕ := fullBits * twoTo 1020

lemma fullBits_succ : fullBits + 1 = twoTo 53 := by decide

/-- One half, as a double with all its bits. -/
lemma halfUnits_eq : halfUnits = (fullBits + 1) * twoTo 1020 := by
  rw [fullBits_succ, ← twoTo_add, halfUnits]

lemma one_eq_twoTo : one = (fullBits + 1) * twoTo 1021 := by
  rw [fullBits_succ, ← twoTo_add, one]

/-- The last double below one half. -/
lemma lastBelowHalf_lt : lastBelowHalf < halfUnits := by
  rw [halfUnits_eq]
  exact Nat.mul_lt_mul_of_pos_right (Nat.lt_succ_self _) (twoTo_pos 1020)

/-- With a half added, the last number below a half is rounded to one. -/
lemma settle_lastBelowHalf : settle (lastBelowHalf + halfUnits) = one := by
  have sum : lastBelowHalf + halfUnits = (2 * fullBits + 1) * twoTo 1020 := by
    rw [halfUnits_eq, lastBelowHalf]
    ring
  have odd : fullBits % 2 = 1 := by decide
  rw [← Int.natCast_add, settle_natCast, sum, nearest_tie (by decide) (by decide), odd,
    one_eq_twoTo]

/-- From minus a half to a half, that number apart, nothing is rounded to one. -/
lemma settle_small {i : ℤ} (significant : Significant i.natAbs) (low : -(halfUnits : ℤ) ≤ i)
    (high : i < halfUnits) (other : i ≠ lastBelowHalf) :
    (settle (i + halfUnits)).fdiv one = (i + halfUnits).fdiv one := by
  have most : i ≤ ((fullBits - 1) * twoTo 1020 : ℕ) := by
    obtain ⟨n, rfl | rfl⟩ := i.eq_nat_or_neg
    · rw [Int.natAbs_natCast] at significant
      have last : n ≤ lastBelowHalf :=
        le_of_significant (by decide) significant (by rw [← halfUnits_eq]; omega)
      refine Int.ofNat_le.mpr (le_of_significant (by decide) significant ?_)
      rw [show fullBits - 1 + 1 = fullBits from rfl]
      change n < lastBelowHalf
      omega
    · omega
  have sum : (fullBits - 1) * twoTo 1020 + halfUnits = fullBits * twoTo 1021 := by
    have double : fullBits - 1 + (fullBits + 1) = fullBits * 2 := by decide
    rw [halfUnits_eq, ← Nat.add_mul, double, show 1021 = 1020 + 1 from rfl, twoTo_succ 1020,
      Nat.mul_assoc, Nat.mul_comm 2]
  have below : fullBits * twoTo 1021 < one := by
    rw [one_eq_twoTo]
    exact Nat.mul_lt_mul_of_pos_right (Nat.lt_succ_self _) (twoTo_pos 1021)
  refine settle_between (b := (fullBits * twoTo 1021 : ℕ)) (n := 0) ?_ ?_ ?_ ?_ ?_
  · omega
  · omega
  · omega
  · rw [Int.zero_mul]
    exact significant_zero
  · exact ⟨fullBits, 1021, by decide, rfl⟩

/-- From a half on in either direction, a number that is no integer is rounded to its nearest
integer. -/
lemma settle_fraction {i : ℤ} {m e : ℕ} (bits : i.natAbs = m * twoTo e) (small : m < twoTo 53)
    (fraction : e ≤ 1073) (far : i < -(halfUnits : ℤ) ∨ (halfUnits : ℤ) ≤ i) :
    (settle (i + halfUnits)).fdiv one = (i + halfUnits).fdiv one := by
  have deep : 1021 ≤ e := by
    by_contra shallow
    have : m * twoTo e < halfUnits := by
      calc m * twoTo e < twoTo 53 * twoTo e := Nat.mul_lt_mul_of_pos_right small (twoTo_pos e)
        _ = twoTo (53 + e) := (twoTo_add _ _).symm
        _ ≤ halfUnits := twoTo_le (by omega)
    omega
  have half : halfUnits = twoTo (1073 - e) * twoTo e := by
    rw [← twoTo_add, show 1073 - e + e = 1073 by omega, halfUnits]
  rcases far with below | above
  · -- the sum has no more bits than the number itself
    have sum : (i + halfUnits).natAbs = (m - twoTo (1073 - e)) * twoTo e := by
      rw [Nat.sub_mul, ← half, ← bits]
      omega
    rw [settle_of_significant (sum ▸ ⟨_, e, by omega, rfl⟩)]
  · have sum : i + halfUnits = ((m + twoTo (1073 - e)) * twoTo e : ℕ) := by
      rw [Nat.add_mul, ← half, ← bits]
      omega
    rcases Nat.lt_or_ge (twoTo 53) (m + twoTo (1073 - e)) with carries | fits
    · -- the sum passes a power of two, which is an integer; half way to the next one is on the grid
      have room : e ≤ 1072 := by
        by_contra last
        obtain rfl : e = 1073 := by omega
        have : twoTo (1073 - 1073) = 1 := rfl
        omega
      have power : twoTo (e - 1021) * one = twoTo 53 * twoTo e := by
        rw [one, ← twoTo_add, ← twoTo_add, show e - 1021 + 1074 = 53 + e by omega]
      have next : twoTo 53 * twoTo e + halfUnits = (twoTo (e - 1020) + 1) * halfUnits := by
        rw [Nat.add_mul, Nat.one_mul, halfUnits, ← twoTo_add, ← twoTo_add,
          show e - 1020 + 1073 = 53 + e by omega]
      have few : twoTo (e - 1020) ≤ twoTo 52 := twoTo_le (by omega)
      have less : m * twoTo e < twoTo 53 * twoTo e :=
        Nat.mul_lt_mul_of_pos_right small (twoTo_pos e)
      have more : twoTo 53 * twoTo e < (m + twoTo (1073 - e)) * twoTo e :=
        Nat.mul_lt_mul_of_pos_right carries (twoTo_pos e)
      have whole : ((twoTo (e - 1021) : ℕ) : ℤ) * one = (twoTo 53 * twoTo e : ℕ) := by
        exact_mod_cast power
      have pos := halfUnits_pos
      have double := one_eq
      refine settle_between (b := (twoTo 53 * twoTo e + halfUnits : ℕ)) (n := twoTo (e - 1021))
        ?_ ?_ ?_ ?_ ?_
      · omega
      · omega
      · omega
      · rw [whole, Int.natAbs_natCast]
        exact significant_of_le (Nat.le_refl _)
      · rw [Int.natAbs_natCast, next]
        exact ⟨_, 1073, Nat.lt_of_le_of_lt (Nat.succ_le_succ few) (by decide), rfl⟩
    · rw [settle_of_significant]
      rw [sum, Int.natAbs_natCast]
      exact significant_of_le fits

/-! ## Integers -/

/-- From here on doubles are whole numbers, and then every second one. -/
lemma longUnit : twoTo 52 * twoTo 1075 = twoTo 53 * one := by
  rw [one, ← twoTo_add, ← twoTo_add]

/-- A step of more than one is at least two. -/
lemma one_lt_twoTo {e : ℕ} (long : 1075 ≤ e) : one < twoTo e := by
  have pos := one_pos
  have double : twoTo 1075 = one * 2 := by rw [one, ← twoTo_succ]
  have least := twoTo_le long
  omega

/-- An integer of more than 53 bits stays where it is when a half is added. -/
lemma nearest_above {q : ℕ} (large : twoTo 53 ≤ q) (significant : Significant (q * one)) :
    nearest ((2 * q + 1) * halfUnits) 1 = q * one := by
  have reach : twoTo 52 * twoTo 1075 ≤ q * one := by
    rw [longUnit]
    exact Nat.mul_le_mul_right _ large
  obtain ⟨m, e, low, small, deep, same⟩ := exists_bits significant reach
  have step := one_lt_twoTo deep
  have sum : (2 * q + 1) * halfUnits = q * one + halfUnits := by
    rw [one_eq]
    ring
  have double := one_eq
  rw [sum, same, nearest_of_half_step low small (by omega)]

/-- Likewise when a half is taken away. -/
lemma nearest_below {p : ℕ} (large : twoTo 53 ≤ p) (significant : Significant ((p + 1) * one)) :
    nearest ((2 * p + 1) * halfUnits) 1 = (p + 1) * one := by
  have double := one_eq
  have pos := halfUnits_pos
  have sum : 2 * ((2 * p + 1) * halfUnits) + one = 2 * ((p + 1) * one) := by
    rw [one_eq]
    ring
  have reach : twoTo 52 * twoTo 1075 < (p + 1) * one := by
    rw [longUnit]
    exact Nat.mul_lt_mul_of_pos_right (Nat.lt_succ_of_le large) one_pos
  obtain ⟨m, e, low, small, deep, same⟩ := exists_bits significant (Nat.le_of_lt reach)
  -- the integer is the end of a step that is longer than one
  obtain ⟨k, d, least, most, long, ends⟩ : ∃ k d, twoTo 52 ≤ k ∧ k < twoTo 53 ∧ 1075 ≤ d
      ∧ m * twoTo e = (k + 1) * twoTo d := by
    rcases Nat.lt_or_eq_of_le low with above | first
    · exact ⟨m - 1, e, by omega, by omega, deep, by rw [Nat.sub_add_cancel (by omega)]⟩
    · obtain ⟨d, rfl⟩ : ∃ d, e = d + 1 := ⟨e - 1, by omega⟩
      refine ⟨fullBits, d, by decide, by decide, ?_, ?_⟩
      · rw [same, ← first] at reach
        by_contra short
        have most : twoTo (d + 1) ≤ twoTo 1075 := twoTo_le (by omega)
        exact Nat.not_le.mpr (Nat.lt_of_mul_lt_mul_left reach) most
      · rw [← first, twoTo_succ d]
        change twoTo 52 * (twoTo d * 2) = twoTo 52 * 2 * twoTo d
        ring
  have step := one_lt_twoTo long
  have next : (2 * k + 1) * twoTo d + twoTo d = 2 * ((k + 1) * twoTo d) := by ring
  rw [same, ends] at sum
  refine Nat.le_antisymm ?_ ?_
  · refine nearest_le_of_significant significant ?_
    rw [same, ends]
    omega
  · rw [same, ends]
    exact le_nearest_of_half_step least most (by omega)

/-- The middle between two neighbouring integers is a tie where they have 53 bits; before that it is
on the grid itself. -/
lemma nearest_middle {p : ℕ} (small : p < twoTo 53) :
    nearest ((2 * p + 1) * halfUnits) 1
      = if p < twoTo 52 then (2 * p + 1) * halfUnits else (p + p % 2) * one := by
  have double : twoTo 53 = 2 * twoTo 52 := by decide
  split
  · exact nearest_of_significant ⟨_, 1073, by omega, rfl⟩
  · exact nearest_tie (by omega) small

/-- **An integer with a half added** is rounded to that integer, but for the odd ones that have 53
bits. -/
lemma settle_whole {i : ℤ} (significant : Significant (i * one).natAbs) :
    (settle (i * one + halfUnits)).fdiv one
      = if i % 2 = 1 ∧ twoTo 52 < i.natAbs ∧ i.natAbs < twoTo 53 then i + 1 else i := by
  have double := one_eq
  have pos := halfUnits_pos
  have middle : ∀ p : ℕ, (2 * p + 1) * halfUnits = p * one + halfUnits := by
    intro p
    rw [one_eq]
    ring
  have next : ∀ p : ℕ, (p + 1) * one = p * one + one := fun p => Nat.succ_mul p one
  have longest : twoTo 53 = 2 * twoTo 52 := by decide
  have least : twoTo 52 % 2 = 0 := by decide
  rcases lt_or_ge i 0 with negative | positive
  · obtain ⟨p, rfl⟩ : ∃ p : ℕ, i = -((p + 1 : ℕ) : ℤ) := ⟨(-i - 1).toNat, by omega⟩
    have sum : -((p + 1 : ℕ) : ℤ) * one + halfUnits = -((2 * p + 1) * halfUnits : ℕ) := by
      rw [middle, Int.neg_mul, ← Int.natCast_mul, next]
      omega
    rw [Int.neg_mul, Int.natAbs_neg, ← Int.natCast_mul, Int.natAbs_natCast] at significant
    rw [sum, settle_neg, Int.natAbs_neg, Int.natAbs_natCast]
    rcases Nat.lt_or_ge p (twoTo 53) with small | large
    · rw [nearest_middle small]
      split
      · rw [if_neg (by omega), middle]
        exact fdiv_one_neg (by rw [next]; omega) (by rw [next]; omega)
      · rcases Nat.mod_two_eq_zero_or_one p with even | odd
        · rw [even, Nat.add_zero, if_pos (by omega), fdiv_one_neg (q := p) (by omega) (by omega)]
          omega
        · rw [odd, if_neg (by omega)]
          exact fdiv_one_neg (by omega) (Nat.le_refl _)
    · rw [nearest_below large significant, if_neg (by omega)]
      exact fdiv_one_neg (by omega) (Nat.le_refl _)
  · obtain ⟨p, rfl⟩ := Int.eq_ofNat_of_zero_le positive
    have sum : (p : ℤ) * one + halfUnits = ((2 * p + 1) * halfUnits : ℕ) := by
      rw [middle, ← Int.natCast_mul]
      omega
    rw [← Int.natCast_mul, Int.natAbs_natCast] at significant
    rw [sum, settle_natCast, Int.natAbs_natCast]
    rcases Nat.lt_or_ge p (twoTo 53) with small | large
    · rw [nearest_middle small]
      split
      · rw [if_neg (by omega), middle]
        exact fdiv_one_natCast (by omega) (by omega)
      · rcases Nat.mod_two_eq_zero_or_one p with even | odd
        · rw [even, Nat.add_zero, if_neg (by omega)]
          exact fdiv_one_natCast (Nat.le_refl _) (by omega)
        · rw [odd, if_pos (by omega), fdiv_one_natCast (q := p + 1) (Nat.le_refl _) (by omega)]
          omega
    · rw [nearest_above large significant, if_neg (by omega)]
      exact fdiv_one_natCast (Nat.le_refl _) (by omega)

/-! ## Every finite number -/

section Finite

variable {s : Bool} {k : ℕ} {grid : OnGrid k} {n : ℤ}

lemma cast_one_pos : (0 : ℚ) < (one : ℕ) := by exact_mod_cast one_pos

/-- When a double is a whole number. -/
lemma value_eq_intCast : (finite s k grid).value = n ↔ signedUnits s k = n * one := by
  rw [value, div_eq_iff cast_one_pos.ne']
  exact_mod_cast Iff.rfl

lemma value_eq_lastBelowHalf :
    (finite s k grid).value = fullBits / twoTo 54 ↔ signedUnits s k = lastBelowHalf := by
  have scale : lastBelowHalf * twoTo 54 = fullBits * one := by
    rw [lastBelowHalf, Nat.mul_assoc, ← twoTo_add, one]
  have pos : (0 : ℚ) < twoTo 54 := by exact_mod_cast twoTo_pos 54
  rw [value, div_eq_div_iff cast_one_pos.ne' pos.ne', ← Nat.cast_mul, ← scale, Nat.cast_mul,
    mul_left_inj' pos.ne']
  exact_mod_cast Iff.rfl

/-- When a whole number is the one that a double is rounded to, in the units of doubles. -/
lemma isHalfUp_value : IsHalfUp (finite s k grid).value n
    ↔ n * one ≤ signedUnits s k + halfUnits ∧ signedUnits s k + halfUnits < n * one + one := by
  have double : ((one : ℕ) : ℚ) = 2 * halfUnits := by exact_mod_cast one_eq
  rw [IsHalfUp, value, le_div_iff₀ cast_one_pos, div_lt_iff₀ cast_one_pos]
  refine and_congr ?_ ?_
  · rw [← Int.cast_le (R := ℚ)]
    push_cast
    rw [double]
    constructor <;> intro h <;> linarith
  · rw [← Int.cast_lt (R := ℚ)]
    push_cast
    rw [double]
    constructor <;> intro h <;> linarith

end Finite

/-- **What a finite number is rounded to**: to its nearest integer, a half upward, unless it is one
of those that are rounded too far. -/
theorem roundHalfUp_eq {x : Binary64} {n : ℤ} (finite : x.isFinite = true)
    (near : IsHalfUp x.value n) :
    (¬ x.Strays → x.roundHalfUp = .ok n) ∧ (x.Strays → x.roundHalfUp = .ok (n + 1)) := by
  obtain ⟨s, k, grid, rfl⟩ := isFinite_eq_true.mp finite
  obtain ⟨low, high⟩ := isHalfUp_value.mp near
  have floor := fdiv_one low high
  have significant : Significant (signedUnits s k).natAbs := by
    rw [Within.natAbs_signedUnits]
    exact grid.significant
  rw [roundHalfUp_finite, Strays, value_eq_lastBelowHalf]
  simp only [value_eq_intCast]
  generalize signedUnits s k = i at *
  have pos := halfUnits_pos
  have double := one_eq
  by_cases last : i = lastBelowHalf
  · have half := lastBelowHalf_lt
    have zero : n = 0 := by
      rw [← floor]
      exact fdiv_one (by omega) (by omega)
    have one : (settle (i + halfUnits)).fdiv one = 1 := by
      rw [last, settle_lastBelowHalf]
      exact fdiv_one (by omega) (by omega)
    exact ⟨fun steady => absurd (.inl last) steady, fun _ => by rw [one, zero]; rfl⟩
  by_cases whole : (one : ℤ) ∣ i
  · obtain ⟨j, rfl⟩ := whole
    rw [Int.mul_comm] at *
    have same : n = j := by
      rw [← floor]
      exact fdiv_one (by omega) (by omega)
    have alike : (j * one = (lastBelowHalf : ℤ)
        ∨ ∃ i : ℤ, j * one = i * one ∧ i % 2 = 1 ∧ twoTo 52 < i.natAbs ∧ i.natAbs < twoTo 53)
        ↔ j % 2 = 1 ∧ twoTo 52 < j.natAbs ∧ j.natAbs < twoTo 53 := by
      constructor
      · rintro (is | ⟨i, eq, odd⟩)
        · exact absurd is last
        · rwa [Int.eq_of_mul_eq_mul_right (by omega) eq]
      · exact fun odd => .inr ⟨j, rfl, odd⟩
    rw [settle_whole significant, same, alike]
    exact ⟨fun other => by rw [if_neg other], fun odd => by rw [if_pos odd]⟩
  · have steady : ¬ (i = lastBelowHalf
        ∨ ∃ j : ℤ, i = j * one ∧ j % 2 = 1 ∧ twoTo 52 < j.natAbs ∧ j.natAbs < twoTo 53) := by
      rintro (same | ⟨j, rfl, -⟩)
      · exact last same
      · exact whole (Int.dvd_mul_left j one)
    suffices (settle (i + halfUnits)).fdiv one = n from
      ⟨fun _ => by rw [this], fun strays => absurd strays steady⟩
    obtain ⟨m, e, small, bits⟩ := significant
    have fraction : e ≤ 1073 := by
      by_contra deep
      refine whole (Int.natCast_dvd.mpr ⟨m * twoTo (e - 1074), ?_⟩)
      rw [bits, Nat.mul_left_comm, one, ← twoTo_add, show 1074 + (e - 1074) = e by omega]
    rw [← floor]
    rcases lt_or_ge i (-(halfUnits : ℤ)) with below | near
    · exact settle_fraction bits small fraction (.inl below)
    · rcases lt_or_ge i halfUnits with within | above
      · exact settle_small ⟨m, e, small, bits⟩ near within last
      · exact settle_fraction bits small fraction (.inr above)

end Binary64

end Montage
