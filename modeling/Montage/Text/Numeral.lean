import Montage.Binary64.Decimal
import Montage.Text.Blank
import Montage.Text.Digit

/-!
# Numerals in free text

Reading an integer or a number that a person or another program wrote.

* `Numeral.integer?` — blanks around, a sign, digits with single underscores between them.
* `Numeral.number?` — the same with a fraction and an exponent, or a name of infinity or of
  not-a-number.

The readers take the reading of a digit as an argument, because some fields know the digits of every
script and others the ASCII digits alone.
-/

namespace Montage.Text.Numeral

/-- Numerals with more digits are refused. -/
def digitLimit : Nat := 4300

/-- Why a text is no integer. -/
inductive Problem where
  | malformed
  | tooLong (digits : Nat)
  deriving DecidableEq

/-- The sign at the start of a text, and the rest. -/
def signed : List Char → Bool × List Char
  | '-' :: rest => (true, rest)
  | '+' :: rest => (false, rest)
  | cs => (false, cs)

/-- The integer that a trimmed text denotes. -/
def integerOf (value? : Char → Option Nat) (cs : List Char) : Except Problem Int :=
  let (negative, cs) := signed cs
  match digitRun value? false cs with
  | ([], _) => .error .malformed
  | (digits, []) =>
    if digits.length > digitLimit then .error (.tooLong digits.length)
    else
      let n : Int := ofDigits 10 digits
      .ok (if negative then -n else n)
  | _ => .error .malformed

/-- The integer that a text denotes, blanks around it left out, in the digits of any script. -/
def integer (cs : List Char) : Except Problem Int :=
  integerOf digitValue? (trimBy isUnicodeBlank cs)

/-- The whole number that a text stands for, if it stands for one. -/
def integer? (cs : List Char) : Option Int := (integer cs).toOption

/-! ## Numbers -/

/-- The exponent after an `e`; no exponent is zero. -/
def exponentOf? (value? : Char → Option Nat) : List Char → Option Int
  | [] => some 0
  | c :: rest =>
    if c = 'e' ∨ c = 'E' then
      let (negative, cs) := signed rest
      match digitRun value? false cs with
      | ([], _) => none
      | (digits, []) =>
        let n : Int := ofDigits 10 digits
        some (if negative then -n else n)
      | _ => none
    else none

/-- The names of numbers without digits, in lower case. -/
def namedNumber? (negative : Bool) (cs : List Char) : Option Binary64 :=
  let name := String.ofList (cs.map Char.toLower)
  if name = "inf" ∨ name = "infinity" then some (.infinite negative)
  else if name = "nan" then some .nan
  else none

/-- The number that a trimmed text denotes. -/
def numberOf? (value? : Char → Option Nat) (cs : List Char) : Option Binary64 :=
  let (negative, cs) := signed cs
  match namedNumber? negative cs with
  | some x => some x
  | none =>
    let (whole, rest) := digitRun value? false cs
    let (fraction, rest) := match rest with
      | '.' :: rest => digitRun value? false rest
      | _ => ([], rest)
    if whole.isEmpty && fraction.isEmpty then none
    else
      (exponentOf? value? rest).map fun e =>
        Binary64.ofDecimal negative (ofDigits 10 (whole ++ fraction)) (e - fraction.length)

/-- The number that a text denotes, blanks around it left out, in the digits of any script. -/
def number? (cs : List Char) : Option Binary64 := numberOf? digitValue? (trimBy isUnicodeBlank cs)

end Montage.Text.Numeral
