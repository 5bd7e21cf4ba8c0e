import Montage.Binary64.Power

/-!
# Binary floating point in 64 bits

Times, durations and percentages are IEEE binary64 numbers.  Here a finite number is **a count of
units**: the unit is the least positive number, 2^-1074, and every finite number is a whole number
of units with at most 53 significant bits.  Every operation is then exact integer arithmetic
followed by one rounding.

* `Binary64` — not-a-number, the two infinities, and signed counts of units that lie on the grid.
* `nearest` — a quotient of naturals, rounded once to the grid, a tie going to the even neighbour.
* `nearest_significant` — what `nearest` returns has 53 significant bits, so rounding stays inside
  the type.
-/

namespace Montage

/-- Counts with at most 53 significant bits. -/
def Significant (n : Nat) : Prop := ∃ m e, m < twoTo 53 ∧ n = m * twoTo e

/-- The number of units in 2^1024, the first power of two that is too large. -/
def overflowUnits : Nat := twoTo 2098

/-- The counts of units that a finite number may have: 53 significant bits, below 2^1024. -/
structure OnGrid (n : Nat) : Prop where
  below : n < overflowUnits
  significant : Significant n

/-- A binary64 number.  A zero keeps its sign. -/
inductive Binary64 where
  | nan
  | infinite (negative : Bool)
  | finite (negative : Bool) (units : Nat) (grid : OnGrid units)
  deriving DecidableEq

namespace Binary64

/-! ## Rounding to the grid

A positive quotient lies between two neighbouring grid points; which power of two separates them
is read off its integer part. -/

/-- The integer nearest to `n / d`; of two equally near ones the even one. -/
def roundQuotient (n d : Nat) : Nat :=
  let q := n / d
  let r := n % d
  if 2 * r < d then q
  else if d < 2 * r then q + 1
  else if q % 2 = 0 then q
  else q + 1

/-- The exponent of the grid step at `n / d` units: 53 significant bits are kept. -/
def stepExponent (n d : Nat) : Nat := (n / d).log2 - 52

/-- The grid point nearest to `n / d` units; of two equally near ones the even one. -/
def nearest (n d : Nat) : Nat :=
  roundQuotient n (d * twoTo (stepExponent n d)) * twoTo (stepExponent n d)

theorem roundQuotient_le_succ (n d : Nat) : roundQuotient n d ≤ n / d + 1 := by
  unfold roundQuotient
  dsimp only
  split
  · omega
  · split
    · omega
    · split <;> omega

theorem significant_zero : Significant 0 := ⟨0, 0, by decide, by simp⟩

/-- Up to 2^53 times a power of two is enough: the carry out of the top bit is itself a power. -/
theorem significant_of_le {q s : Nat} (h : q ≤ twoTo 53) : Significant (q * twoTo s) := by
  rcases Nat.lt_or_ge q (twoTo 53) with hq | hq
  · exact ⟨q, s, hq, rfl⟩
  · refine ⟨twoTo 52, s + 1, by decide, ?_⟩
    rw [Nat.le_antisymm h hq, twoTo_succ 52, twoTo_succ s, Nat.mul_assoc, Nat.mul_comm 2 (twoTo s)]

/-- Scaled by its step, a quotient has fewer than 54 bits. -/
theorem div_step_lt (n d : Nat) : n / (d * twoTo (stepExponent n d)) < twoTo 53 := by
  rw [← Nat.div_div_eq_div_mul, Nat.div_lt_iff_lt_mul (twoTo_pos _), ← twoTo_add]
  refine Nat.lt_of_lt_of_le (lt_twoTo_log (n / d)) (twoTo_le ?_)
  unfold stepExponent
  omega

/-- **Rounding stays on the grid**, overflow apart. -/
theorem nearest_significant (n d : Nat) : Significant (nearest n d) :=
  significant_of_le
    (Nat.le_trans (roundQuotient_le_succ _ _) (Nat.succ_le_of_lt (div_step_lt n d)))

/-- The number nearest to `n / d` units with the given sign; beyond the largest finite number, an
infinity. -/
def ofQuotient (negative : Bool) (n d : Nat) : Binary64 :=
  if h : nearest n d < overflowUnits then
    .finite negative (nearest n d) ⟨h, nearest_significant n d⟩
  else .infinite negative

/-! ## Numbers from integers -/

/-- The number of units in one. -/
def one : Nat := twoTo 1074

/-- The number nearest to an integer, or an infinity. -/
def ofInt (i : Int) : Binary64 := ofQuotient (i < 0) (i.natAbs * one) 1

/-- The number nearest to the quotient of two integers, or an infinity.  `d` is not zero. -/
def ofRatio (n d : Int) : Binary64 :=
  ofQuotient ((n < 0) != (d < 0)) (n.natAbs * one) d.natAbs

instance (n : Nat) : OfNat Binary64 n := ⟨ofInt n⟩

instance : Inhabited Binary64 := ⟨0⟩

/-- A half. -/
def half : Binary64 := ofRatio 1 2

/-! ## Order

A not-a-number is neither equal to, nor less than, nor greater than anything. -/

/-- The signed count of units of a finite number. -/
def signedUnits (negative : Bool) (units : Nat) : Int :=
  if negative then -(units : Int) else units

/-- Whether this is no number. -/
def isNan : Binary64 → Bool
  | nan => true
  | _ => false

/-- Whether this is a finite number. -/
def isFinite : Binary64 → Bool
  | finite .. => true
  | _ => false

/-- Whether the number is a zero of either sign. -/
def isZero : Binary64 → Bool
  | finite _ 0 _ => true
  | _ => false

/-- The order of numbers; `none` when one of them is not a number. -/
def compare? : Binary64 → Binary64 → Option Ordering
  | nan, _ => none
  | _, nan => none
  | infinite a, infinite b => some (if a = b then .eq else if a then .lt else .gt)
  | infinite a, finite .. => some (if a then .lt else .gt)
  | finite .., infinite b => some (if b then .gt else .lt)
  | finite s m _, finite t n _ => some (compare (signedUnits s m) (signedUnits t n))

/-- Whether a number lies below another one; nothing lies below or above what is no number. -/
def lt (x y : Binary64) : Bool := compare? x y == some .lt

/-- Whether a number does not lie above another one; for what is no number this is false as well. -/
def le (x y : Binary64) : Bool := (compare? x y).any (· != .gt)

/-- Numerical equality: zeros of both signs are equal. -/
def eq (x y : Binary64) : Bool := compare? x y == some .eq

/-- The first of two numbers unless the second is greater. -/
def maxFirst (x y : Binary64) : Binary64 := if lt x y then y else x

/-- The first of two numbers unless the second is less. -/
def minFirst (x y : Binary64) : Binary64 := if lt y x then y else x

end Binary64

end Montage
