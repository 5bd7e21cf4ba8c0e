import Montage.Binary64.Arithmetic

/-!
# Decimal text of binary64 numbers

Three ways to write a number in decimal, each computed on the exact value.

* `shortest` — **the fewest digits that read back**, and of those with equally few the nearest.
* `toPlaces` — a fixed number of places, a tie going to the even neighbour.
* `toSignificant` — a fixed number of significant digits, likewise.
* `ofDecimal` — the way back: the number nearest to a decimal.

A style record says how digits become text.
-/

namespace Montage

/-! ## Digits -/

/-- The number of decimal digits; zero has none. -/
def digitCount (n : Nat) : Nat :=
  if n = 0 then 0 else digitCount (n / 10) + 1
termination_by n
decreasing_by omega

namespace Binary64

/-- The number nearest to `digits * 10 ^ exponent`.  Exponents far outside the range are answered
at once. -/
def ofDecimal (negative : Bool) (digits : Nat) (exponent : Int) : Binary64 :=
  if digits = 0 then ofQuotient negative 0 1
  else if 400 < exponent then .infinite negative
  else if exponent < -400 - (digits.log2 : Int) then ofQuotient negative 0 1
  else if 0 ≤ exponent then ofQuotient negative (digits * tenTo exponent.toNat * one) 1
  else ofQuotient negative (digits * one) (tenTo (-exponent).toNat)

/-- A positive decimal: `digits * 10 ^ exponent`. -/
structure Scaled where
  digits : Nat
  exponent : Int
  deriving DecidableEq, Repr

/-- The exponent of ten of the leading digit of a positive count of units. -/
def leadingExponent (units : Nat) : Int :=
  (digitCount (units * tenTo 400 / one) : Int) - 401

/-! ## The fewest digits that read back

Everything is counted in quarter units, so that the middle between two neighbours is an integer. -/

/-- The decimals that read back as a given number: quarter units from `low` to `high`, the ends
included when `closed`. -/
structure Basin where
  low : Nat
  high : Nat
  closed : Bool

/-- Where numbers are rounded to a positive count of units.  Below a power of two the neighbour is
half as far away. -/
def basin (units : Nat) : Basin :=
  let step := twoTo (units.log2 - 52)
  let atPower := units = step * twoTo 52 ∧ step ≠ 1
  { low := 4 * units - (if atPower then step else 2 * step)
    high := 4 * units + 2 * step
    closed := (units / step) % 2 = 0 }

/-- Compares a decimal with a count of quarter units. -/
def Scaled.compareQuarters (d : Scaled) (quarters : Nat) : Ordering :=
  if 0 ≤ d.exponent then compare (d.digits * tenTo d.exponent.toNat * (4 * one)) quarters
  else compare (d.digits * (4 * one)) (quarters * tenTo (-d.exponent).toNat)

/-- Whether a decimal number is read back as the number it stands for; the ends count if the basin
is closed. -/
def Basin.holds (b : Basin) (d : Scaled) : Bool :=
  if b.closed then d.compareQuarters b.low != .lt && d.compareQuarters b.high != .gt
  else d.compareQuarters b.low == .gt && d.compareQuarters b.high == .lt

/-- The integer part of a count of units divided by a power of ten. -/
def floorScaled (units : Nat) (exponent : Int) : Nat :=
  if 0 ≤ exponent then units / (one * tenTo exponent.toNat)
  else units * tenTo (-exponent).toNat / one

/-- The decimal with this exponent that reads back as the number, if there is one: of the two
neighbours the nearer, of two equally near the even one. -/
def neighbour? (units : Nat) (exponent : Int) : Option Scaled :=
  let below : Scaled := ⟨floorScaled units exponent, exponent⟩
  let above : Scaled := ⟨below.digits + 1, exponent⟩
  let b := basin units
  match b.holds below, b.holds above with
  | false, false => none
  | true, false => some below
  | false, true => some above
  | true, true =>
    -- the middle of the two, doubled, against the doubled value
    match (Scaled.mk (2 * below.digits + 1) exponent).compareQuarters (8 * units) with
    | .gt => some below
    | .lt => some above
    | .eq => some (if below.digits % 2 = 0 then below else above)

/-- The first decimal that reads back, from `digits` digits on, among the next `left` lengths. -/
def shortestFrom (units : Nat) (digits : Nat) : Nat → Option Scaled
  | 0 => none
  | left + 1 =>
    (neighbour? units (leadingExponent units + 1 - digits)).or
      (shortestFrom units (digits + 1) left)

/-- The decimal of fewest digits that reads back as a positive count of units.  Seventeen digits
always do. -/
def shortest (units : Nat) : Scaled :=
  (shortestFrom units 1 17).getD ⟨floorScaled units 0, 0⟩

/-! ## A fixed number of digits -/

/-- A count of units rounded to an integer count of `10 ^ -places`. -/
def toPlaces (units places : Nat) : Nat := roundQuotient (units * tenTo places) one

/-- A positive count of units rounded to `count` significant digits. -/
def toSignificant (units count : Nat) : Scaled :=
  let exponent := leadingExponent units + 1 - count
  let digits :=
    if 0 ≤ exponent then roundQuotient units (one * tenTo exponent.toNat)
    else roundQuotient (units * tenTo (-exponent).toNat) one
  if digitCount digits ≤ count then ⟨digits, exponent⟩ else ⟨digits / 10, exponent + 1⟩

/-- A number rounded to a fixed number of decimal places, as the number nearest to that decimal. -/
def roundPlaces (places : Nat) : Binary64 → Binary64
  | finite s n _ => ofDecimal s (toPlaces n places) (-places)
  | x => x

/-! ## Text -/

/-- The texts that stand for what has no digits. -/
structure SpecialText where
  nan : String
  infinity : String

/-- The digits of a natural number, at least `width` of them. -/
def paddedDigits (width n : Nat) : String :=
  let text := toString n
  "".pushn '0' (width - text.length) ++ text

/-- A text with a minus sign before it, if there has to be one. -/
def withSign (negative : Bool) (text : String) : String :=
  if negative then "-" ++ text else text

/-- Digits with a point before the last `places` of them. -/
def pointed (digits places : Nat) : String :=
  if places = 0 then toString digits
  else toString (digits / tenTo places) ++ "." ++ paddedDigits places (digits % tenTo places)

/-- A number with a fixed count of places. -/
def fixedText (special : SpecialText) (places : Nat) : Binary64 → String
  | nan => special.nan
  | infinite s => withSign s special.infinity
  | finite s n _ => withSign s (pointed (toPlaces n places) places)

/-- How a decimal is written when its length is not fixed beforehand. -/
structure FloatStyle where
  /-- Exponents of the leading digit that are written without an exponent part. -/
  firstPositional : Int
  lastPositional : Int
  /-- Whether a positional whole number ends in `.0`. -/
  wholeMark : Bool
  special : SpecialText

/-- The digits of a decimal without the zeros at its end. -/
def Scaled.trimmed (d : Scaled) : Scaled :=
  if d.digits = 0 then d
  else if d.digits % 10 = 0 then Scaled.trimmed ⟨d.digits / 10, d.exponent + 1⟩
  else d
termination_by d.digits
decreasing_by omega

/-- The exponent part: a sign always, and at least two digits. -/
def exponentText (e : Int) : String :=
  "e" ++ (if e < 0 then "-" else "+") ++ paddedDigits 2 e.natAbs

/-- A positive decimal in a style. -/
def FloatStyle.decimalText (style : FloatStyle) (d : Scaled) : String :=
  let d := d.trimmed
  let count := digitCount d.digits
  let leading : Int := d.exponent + count - 1
  if style.firstPositional ≤ leading ∧ leading ≤ style.lastPositional then
    if 0 ≤ d.exponent then
      toString (d.digits * tenTo d.exponent.toNat) ++ (if style.wholeMark then ".0" else "")
    else pointed d.digits (-d.exponent).toNat
  else
    pointed d.digits (count - 1) ++ exponentText leading

/-- A number in a style, its digits given by `digits`. -/
def FloatStyle.text (style : FloatStyle) (digits : Nat → Scaled) : Binary64 → String
  | nan => style.special.nan
  | infinite s => withSign s style.special.infinity
  | finite s 0 _ => withSign s (if style.wholeMark then "0.0" else "0")
  | finite s n _ => withSign s (style.decimalText (digits n))

/-- Numbers in messages: the fewest digits, positional from 10^-4 up to 10^16. -/
def messageStyle : FloatStyle := ⟨-4, 15, true, ⟨"nan", "inf"⟩⟩

/-- The text of a number in messages. -/
def text (x : Binary64) : String := messageStyle.text shortest x

/-- Numbers with six significant digits: positional from 10^-4 up to 10^6, no mark on wholes. -/
def compactStyle : FloatStyle := ⟨-4, 5, false, ⟨"nan", "inf"⟩⟩

/-- The text of a number with six significant digits. -/
def compactText (x : Binary64) : String := compactStyle.text (toSignificant · 6) x

/-- The text of a number with a fixed count of places in messages. -/
def placesText (places : Nat) (x : Binary64) : String := fixedText ⟨"nan", "inf"⟩ places x

instance : ToString Binary64 := ⟨text⟩

end Binary64

end Montage
