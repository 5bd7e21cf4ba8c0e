import Montage.Text.Digit

/-!
# Names in other scripts as ASCII

A name is written as its ASCII characters, a hyphen, and numbers that say which other characters
belong where.  The numbers have digits of varying weight, so that small ones stay short.

* `Punycode.encode` — the ASCII form of a name.
* `Punycode.decode?` — the name of an ASCII form, if it is one.
-/

namespace Montage.Punycode

/-- The base of the numbers that signs are encoded by. -/
def base : Nat := 36

/-- The least number of values that a digit may leave to the next. -/
def least : Nat := 1

/-- The greatest one. -/
def most : Nat := 26

/-- Where the adaptation begins. -/
def firstBias : Nat := 72

/-- Code points before this one stand for themselves. -/
def firstOther : Nat := 0x80

/-- The digit `n`: letters first. -/
def digit (n : Nat) : Char :=
  if n < 26 then Char.ofNat ('a'.toNat + n) else Char.ofNat ('0'.toNat + (n - 26))

/-- The value of a digit; letters of both cases count. -/
def digitValue? (c : Char) : Option Nat :=
  if c.isAlpha then some (c.toLower.toNat - 'a'.toNat)
  else (Text.asciiDigit? c).map (· + 26)

/-- How many digits count in full, after a difference was written. -/
def adapt (first : Bool) (delta count : Nat) : Nat :=
  let delta := if first then delta / 700 else delta / 2
  let delta := delta + delta / count
  shrink delta 0 delta
where
  shrink : Nat → Nat → Nat → Nat
    | 0, k, _ => k
    | fuel + 1, k, delta =>
      if (base - least) * most / 2 < delta then shrink fuel (k + base) (delta / (base - least))
      else k + (base - least + 1) * delta / (delta + 38)

/-- A number ends with a digit below this; `k` grows by the base from digit to digit. -/
def threshold (bias k : Nat) : Nat :=
  if k ≤ bias then least else if bias + most ≤ k then most else k - bias

/-! ## Encoding -/

/-- A difference as a number. -/
def number (bias : Nat) : (fuel k q : Nat) → List Char
  | 0, _, _ => []
  | fuel + 1, k, q =>
    let t := threshold bias k
    if q < t then [digit q]
    else digit (t + (q - t) % (base - t)) :: number bias fuel (k + base) ((q - t) / (base - t))

/-- The state of the encoder: the next code point, the difference so far, the bias, how many
characters are written, and what is written. -/
structure State where
  next : Nat := firstOther
  delta : Nat := 0
  bias : Nat := firstBias
  written : Nat
  output : List Char

/-- One character of the name, seen while the code point `m` is written. -/
def visit (basic m : Nat) (s : State) (n : Nat) : State :=
  if n < m then { s with delta := s.delta + 1 }
  else if n = m then
    { s with
      delta := 0
      bias := adapt (s.written == basic) s.delta (s.written + 1)
      written := s.written + 1
      output := s.output ++ number s.bias 16 base s.delta }
  else s

/-- The remaining code points, in increasing order. -/
def rounds (basic : Nat) (name : List Nat) : Nat → State → State
  | 0, s => s
  | fuel + 1, s =>
    match (name.filter (s.next ≤ ·)).min? with
    | none => s
    | some m =>
      let s := { s with delta := s.delta + (m - s.next) * (s.written + 1) }
      let s := name.foldl (visit basic m) s
      rounds basic name fuel { s with delta := s.delta + 1, next := m + 1 }

/-- The ASCII form of a name. -/
def encode (name : List Nat) : List Char :=
  let ascii := (name.filter (· < firstOther)).map Char.ofNat
  let start : State :=
    { written := ascii.length, output := if ascii.isEmpty then [] else ascii ++ ['-'] }
  (rounds ascii.length name name.length start).output

/-! ## Decoding -/

/-- The number at the start of a text, and the rest. -/
def readNumber? (bias : Nat) (k weight sum : Nat) : List Char → Option (Nat × List Char)
  | [] => none
  | c :: rest => do
    let d ← digitValue? c
    let t := threshold bias k
    let sum := sum + d * weight
    if d < t then return (sum, rest)
    else readNumber? bias (k + base) (weight * (base - t)) sum rest

/-- Inserts characters into a name as the numbers say.  `place` and `code` are where the last one
ended, `fuel` bounds the numbers. -/
def insertAll? (fuel place code bias : Nat) (first : Bool) (name : List Nat) (cs : List Char) :
    Option (List Nat) :=
  match fuel, cs with
  | _, [] => some name
  | 0, _ => none
  | fuel + 1, cs => do
    let (delta, rest) ← readNumber? bias base 1 0 cs
    let places := name.length + 1
    let code := code + (place + delta) / places
    let place := (place + delta) % places
    if 0x10FFFF < code then none
    else
      let name := name.take place ++ code :: name.drop place
      insertAll? fuel (place + 1) code (adapt first delta name.length) false name rest

/-- The name of an ASCII form.  What stands before the last hyphen is taken over. -/
def decode? (cs : List Char) : Option (List Nat) :=
  let numbers := (cs.reverse.takeWhile (· ≠ '-')).reverse
  let taken := cs.take (cs.length - numbers.length - 1)
  insertAll? numbers.length 0 firstOther firstBias true (taken.map Char.toNat) numbers

end Montage.Punycode
