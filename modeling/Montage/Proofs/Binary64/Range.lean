import Mathlib.Tactic.Common
import Montage.Field.Read

/-!
# The range of binary64 numbers

Rounding at most doubles a count of units, so what stays well below the largest number stays finite
through a few operations.

* `isNan_ofQuotient`, `isNan_sub` — finite numbers never lead to a not-a-number here.
* `nearest_le` — how far rounding goes up.
* **`Within`** — a finite number of at most so many units; `Within.sub`, `Within.add` — what an
  operation makes of two such numbers; `Within.half`, `isNan_add_half` — the half that rounding adds.
-/

namespace Montage.Binary64

/-! ## Finite or infinite -/

/-- What a finite number is made of. -/
lemma isFinite_eq_true {x : Binary64} :
    x.isFinite = true ↔ ∃ negative units grid, x = finite negative units grid := by
  cases x with
  | nan => simp [isFinite]
  | infinite s => simp [isFinite]
  | finite s n grid => exact iff_of_true rfl ⟨s, n, grid, rfl⟩

/-- A quotient of integers is a number … -/
@[simp] lemma isNan_ofQuotient (negative : Bool) (n d : Nat) :
    (ofQuotient negative n d).isNan = false := by
  unfold ofQuotient
  split <;> rfl

/-- … an integer made a double is one … -/
lemma isNan_ofInt (i : Int) : (ofInt i).isNan = false := isNan_ofQuotient ..

/-- … a ratio is one … -/
lemma isNan_ofRatio (n d : Int) : (ofRatio n d).isNan = false := isNan_ofQuotient ..

/-- … and so are units. -/
lemma isNan_ofUnits (zeroSign : Bool) (i : Int) : (ofUnits zeroSign i).isNan = false :=
  isNan_ofQuotient ..

/-- A sum of finite numbers is one of integers, rounded. -/
lemma finite_add_finite (s t : Bool) (m n : Nat) (grid : OnGrid m) (other : OnGrid n) :
    finite s m grid + finite t n other
      = ofUnits (s && t) (signedUnits s m + signedUnits t n) := by
  show add (finite s m grid) (finite t n other) = _
  rw [add]

/-- To subtract is to add with the other sign. -/
lemma finite_sub_finite (s t : Bool) (m n : Nat) (grid : OnGrid m) (other : OnGrid n) :
    finite s m grid - finite t n other = finite s m grid + finite (!t) n other := rfl

/-- A product of finite numbers is one of integers, rounded. -/
lemma finite_mul_finite (s t : Bool) (m n : Nat) (grid : OnGrid m) (other : OnGrid n) :
    finite s m grid * finite t n other = ofQuotient (s != t) (m * n) one := by
  show mul (finite s m grid) (finite t n other) = _
  rw [mul]

/-- The difference of two finite numbers is a number. -/
lemma isNan_sub {x y : Binary64} (hx : x.isFinite = true) (hy : y.isFinite = true) :
    (x - y).isNan = false := by
  obtain ⟨s, m, grid, rfl⟩ := isFinite_eq_true.mp hx
  obtain ⟨t, n, other, rfl⟩ := isFinite_eq_true.mp hy
  rw [finite_sub_finite, finite_add_finite]
  exact isNan_ofUnits _ _

/-! ## How far rounding goes up -/

/-- A number is at least the power of two of its logarithm. -/
lemma twoTo_log_le {n : Nat} (h : n ≠ 0) : twoTo n.log2 ≤ n := Nat.log2_self_le h

/-- Rounding goes up by less than the count itself, or by one. -/
lemma nearest_le (n d : Nat) : nearest n d ≤ 2 * (n / d) + 1 := by
  have up : nearest n d ≤ n / d + twoTo (stepExponent n d) := by
    have quotient := roundQuotient_le_succ n (d * twoTo (stepExponent n d))
    rw [← Nat.div_div_eq_div_mul] at quotient
    calc nearest n d
        ≤ (n / d / twoTo (stepExponent n d) + 1) * twoTo (stepExponent n d) :=
          Nat.mul_le_mul_right _ quotient
      _ = n / d / twoTo (stepExponent n d) * twoTo (stepExponent n d)
            + twoTo (stepExponent n d) := Nat.succ_mul _ _
      _ ≤ n / d + twoTo (stepExponent n d) :=
          Nat.add_le_add_right (Nat.div_mul_le_self _ _) _
  have step : twoTo (stepExponent n d) ≤ n / d + 1 := by
    by_cases zero : n / d = 0
    · have : stepExponent n d = 0 := by simp [stepExponent, zero]
      rw [this, zero]
      exact Nat.le_refl 1
    · have : stepExponent n d ≤ (n / d).log2 := Nat.sub_le _ _
      have := twoTo_le this
      have := twoTo_log_le zero
      omega
  omega

/-! ## Bounds of results -/

/-- A finite number of at most `bound` units. -/
def Within (bound : Nat) (x : Binary64) : Prop :=
  ∃ negative units grid, x = finite negative units grid ∧ units ≤ bound

namespace Within

variable {a b : Nat} {x y : Binary64}

/-- A number within a bound is finite. -/
lemma isFinite (h : Within b x) : x.isFinite = true := by
  obtain ⟨s, n, grid, rfl, -⟩ := h
  rfl

/-- A quotient that is well below the largest number is finite. -/
lemma ofQuotient {n d : Nat} (negative : Bool) (h : n / d ≤ b) (room : 2 * b + 1 < overflowUnits) :
    Within (2 * b + 1) (ofQuotient negative n d) := by
  have up := nearest_le n d
  have below : nearest n d < overflowUnits := by omega
  refine ⟨negative, nearest n d, ⟨below, nearest_significant n d⟩, ?_, ?_⟩
  · simp [Binary64.ofQuotient, below]
  · omega

/-- An integer made a double is at most twice as far from zero, and a unit. -/
lemma ofInt {i : Int} (h : i.natAbs * one ≤ b) (room : 2 * b + 1 < overflowUnits) :
    Within (2 * b + 1) (ofInt i) := by
  refine ofQuotient _ ?_ room
  rw [Nat.div_one]
  exact h

/-- So is an integer divided by another. -/
lemma ofRatio {n d : Int} (h : n.natAbs * one ≤ b) (room : 2 * b + 1 < overflowUnits) :
    Within (2 * b + 1) (ofRatio n d) :=
  ofQuotient _ (Nat.le_trans (Nat.div_le_self _ _) h) room

/-- The room that two such steps need. -/
lemma four_twoTo_lt (e : Nat) : 2 * (2 * twoTo e + 1) + 1 < twoTo (e + 3) := by
  have pos := twoTo_pos e
  rw [twoTo_succ, twoTo_succ, twoTo_succ]
  omega

/-- A half is one quotient, far below the largest number. -/
lemma half : Within (2 * one + 1) half := by
  rw [Binary64.half]
  refine ofRatio (Nat.le_of_eq (by rw [Int.natAbs_one, Nat.one_mul])) ?_
  have room := four_twoTo_lt 1074
  have less : twoTo (1074 + 3) ≤ overflowUnits := twoTo_le (by decide)
  rw [one]
  omega

/-- A sign changes nothing of the magnitude. -/
lemma natAbs_signedUnits (negative : Bool) (n : Nat) : (signedUnits negative n).natAbs = n := by
  cases negative <;> simp [signedUnits]

/-- A sum is rounded once. -/
lemma add (hx : Within a x) (hy : Within b y) (room : 2 * (a + b) + 1 < overflowUnits) :
    Within (2 * (a + b) + 1) (x + y) := by
  obtain ⟨s, m, grid, rfl, hm⟩ := hx
  obtain ⟨t, n, other, rfl, hn⟩ := hy
  rw [finite_add_finite, ofUnits]
  refine ofQuotient _ ?_ room
  have := Int.natAbs_add_le (signedUnits s m) (signedUnits t n)
  rw [natAbs_signedUnits, natAbs_signedUnits] at this
  rw [Nat.div_one]
  omega

/-- Neither does a change of the sign. -/
lemma neg (h : Within b x) : Within b (-x) := by
  obtain ⟨s, n, grid, rfl, hn⟩ := h
  exact ⟨!s, n, grid, rfl, hn⟩

/-- A difference is at most twice the sum of the bounds, and a unit. -/
lemma sub (hx : Within a x) (hy : Within b y) (room : 2 * (a + b) + 1 < overflowUnits) :
    Within (2 * (a + b) + 1) (x - y) := by
  show Within _ (x + -y)
  exact add hx hy.neg room

end Within

/-- A number with a half added is a number. -/
lemma isNan_add_half {x : Binary64} (number : x.isNan = false) : (x + half).isNan = false := by
  obtain ⟨t, n, grid, eq, -⟩ := Within.half
  rw [eq]
  cases x with
  | nan => cases number
  | infinite s => rfl
  | finite s m other =>
      rw [finite_add_finite]
      exact isNan_ofUnits _ _

end Montage.Binary64
