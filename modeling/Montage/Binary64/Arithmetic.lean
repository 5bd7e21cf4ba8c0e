import Montage.Binary64.Basic

/-!
# Arithmetic on binary64

**Exact, then rounded once.**  A sum of two finite numbers is a sum of two integers; a product is a
product of integers counted in units of units; a quotient is a quotient of integers.  The signs of
zeros and the cases with an infinity follow IEEE 754.
-/

namespace Montage

namespace Binary64

/-! ## The four operations -/

/-- The number with the other sign; also of zero. -/
def neg : Binary64 → Binary64
  | nan => nan
  | infinite s => infinite (!s)
  | finite s n h => finite (!s) n h

/-- The number nearest to a signed count of units; `zeroSign` is the sign of a zero. -/
def ofUnits (zeroSign : Bool) (i : Int) : Binary64 :=
  ofQuotient (if i = 0 then zeroSign else i < 0) i.natAbs 1

/-- A sum.  An exact zero is negative only when both terms are. -/
def add : Binary64 → Binary64 → Binary64
  | nan, _ => nan
  | _, nan => nan
  | infinite s, infinite t => if s = t then infinite s else nan
  | infinite s, finite .. => infinite s
  | finite .., infinite t => infinite t
  | finite s m _, finite t n _ => ofUnits (s && t) (signedUnits s m + signedUnits t n)

/-- The difference, rounded once. -/
def sub (x y : Binary64) : Binary64 := add x (neg y)

/-- The product, rounded once. -/
def mul : Binary64 → Binary64 → Binary64
  | nan, _ => nan
  | _, nan => nan
  | infinite s, infinite t => infinite (s != t)
  | infinite s, finite t n _ => if n = 0 then nan else infinite (s != t)
  | finite s m _, infinite t => if m = 0 then nan else infinite (s != t)
  | finite s m _, finite t n _ => ofQuotient (s != t) (m * n) one

/-- The quotient, rounded once; a number over zero is infinite. -/
def div : Binary64 → Binary64 → Binary64
  | nan, _ => nan
  | _, nan => nan
  | infinite _, infinite _ => nan
  | infinite s, finite t _ _ => infinite (s != t)
  | finite s _ _, infinite t => ofQuotient (s != t) 0 1
  | finite s m _, finite t n _ =>
    if n = 0 then (if m = 0 then nan else infinite (s != t))
    else ofQuotient (s != t) (m * one) n

instance : Add Binary64 := ⟨add⟩
instance : Sub Binary64 := ⟨sub⟩
instance : Mul Binary64 := ⟨mul⟩
instance : Div Binary64 := ⟨div⟩
instance : Neg Binary64 := ⟨neg⟩

/-! ## Integers near a number -/

/-- The greatest integer not above a signed count of units. -/
def floorUnits (negative : Bool) (units : Nat) : Int :=
  Int.fdiv (signedUnits negative units) one

/-- The integer nearest to a signed count of units, a tie going to the even neighbour. -/
def roundUnits (negative : Bool) (units : Nat) : Int :=
  signedUnits negative (roundQuotient units one)

/-- The integer nearest to a finite number, a tie going to the even neighbour; what is not finite
counts as zero. -/
def nearestInt : Binary64 → Int
  | finite s n _ => roundUnits s n
  | _ => 0

/-- The integer that a finite number with no fraction stands for. -/
def toInt? : Binary64 → Option Int
  | finite s n _ => if n % one = 0 then some (signedUnits s (n / one)) else none
  | _ => none

end Binary64

end Montage
