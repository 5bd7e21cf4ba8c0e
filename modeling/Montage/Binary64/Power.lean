/-!
# Powers

The powers of the two bases that numbers are written in.

* `twoTo`, `tenTo` — the powers; `twoTo_add` — exponents add up.
-/

namespace Montage

/-- The powers of two, in whose multiples every double is written. -/
def twoTo (e : Nat) : Nat := Nat.pow 2 e

/-- The powers of ten, in whose multiples numbers are printed and read. -/
def tenTo (e : Nat) : Nat := Nat.pow 10 e

theorem twoTo_succ (e : Nat) : twoTo (e + 1) = twoTo e * 2 := rfl

theorem twoTo_pos (e : Nat) : 0 < twoTo e := Nat.pow_pos (by decide)

theorem twoTo_add (a b : Nat) : twoTo (a + b) = twoTo a * twoTo b := Nat.pow_add 2 a b

theorem twoTo_le {a b : Nat} (h : a ≤ b) : twoTo a ≤ twoTo b := Nat.pow_le_pow_right (by decide) h

/-- A number has fewer bits than its logarithm allows. -/
theorem lt_twoTo_log (n : Nat) : n < twoTo (n.log2 + 1) := Nat.lt_log2_self

end Montage
