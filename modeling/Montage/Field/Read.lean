import Montage.Field.Problem

/-!
# Reading fields

One reader per kind of field.  A reader takes a JSON value and gives the field's value or its error.

* `pixel` — coordinates and sizes: **rounded to the nearest integer, a half upward**.
* `whole` — integers that are not rounded.
* `seconds` — times: any number, infinite or not a number included.
* `Members.required`, `Members.optional` — a field of an object, under either of its two names.
-/

namespace Montage

/-! ## Numbers from JSON -/

namespace Binary64

/-- The greatest integer not above a number; only a finite one has such an integer. -/
def floor? : Binary64 → Except Fault Int
  | nan => .error .notANumber
  | infinite _ => .error .infiniteNumber
  | finite s n _ => .ok (floorUnits s n)

/-- The nearest integer, a half upward: the floor of the number plus a half. -/
def roundHalfUp (x : Binary64) : Except Fault Int := floor? (x + half)

/-- A number, or a fault in place of an infinity. -/
def unlessInfinite (fault : Fault) : Binary64 → Except Fault Binary64
  | infinite _ => .error fault
  | x => .ok x

/-- The number nearest to an integer, unless it is too large. -/
def ofInt? (i : Int) : Except Fault Binary64 := unlessInfinite .integerTooLarge (ofInt i)

/-- The number nearest to a quotient of integers, unless it is too large. -/
def ofRatio? (n d : Int) : Except Fault Binary64 := unlessInfinite .quotientTooLarge (ofRatio n d)

end Binary64

namespace Read

open Checked

/-- Truth values are numbers where a number is read. -/
def ofBool (b : Bool) : Int := if b then 1 else 0

/-- A text that is looked into must have no half of a surrogate pair. -/
def looked {α : Type} (read : String → Checked α) (s : String) : Checked α :=
  if Text.hasHalf s then error .notUnicode else read s

/-! ### Integers in texts -/

/-- Whether every underscore of a text stands alone and inside the text. -/
def soundUnderscores (cs : List Char) : Bool :=
  (Text.splitAt '_' cs).all fun part => !part.isEmpty

/-- A numeral from its first digit that counts: zeros and underscores at the start are skipped as
long as something follows them.  `zero` is the last character that was skipped. -/
def skipZeros (zero : Char) : List Char → Option (List Char)
  | [] => some [zero]
  | c :: rest =>
    if c = '0' ∨ c = '_' then skipZeros c rest
    else if c = '.' then some (zero :: c :: rest)
    else if c.isDigit ∨ c = '-' then some (c :: rest)
    else none

/-- A numeral without zeros at the start.  A minus sign may come before the zeros, which then count,
or after them. -/
def withoutZeros : List Char → Option (List Char)
  | [] => none
  | c :: rest =>
    if c = '0' then skipZeros c rest
    else if c.isDigit ∨ c = '-' then some (c :: rest)
    else none

/-- A numeral without a fraction of zeros. -/
def withoutFraction (cs : List Char) : List Char :=
  match Text.cutAt '.' cs with
  | (before, some after) => if !after.isEmpty && after.all (· == '0') then before else cs
  | _ => cs

/-- A numeral without its underscores, if they stand as they may. -/
def withoutUnderscores (cs : List Char) : List Char :=
  if soundUnderscores cs then cs.filter (· != '_') else cs

/-- A numeral without a plus sign; no other sign may follow it. -/
def withoutPlus : List Char → Option (List Char)
  | '+' :: '-' :: _ => none
  | '+' :: rest => some rest
  | cs => some cs

/-- An integer from its digits.  Zeros at the start do not count towards the limit. -/
def plainInteger (negative : Bool) (cs : List Char) : Checked Int :=
  if cs.isEmpty || !cs.all Char.isDigit then error .badInteger
  else if Text.Numeral.digitLimit < (cs.dropWhile (· == '0')).length then error .integerTooLong
  else
    let n : Int := Text.ofDigits 10 (cs.filterMap Text.asciiDigit?)
    ok (if negative then -n else n)

/-- The integer in a text: a point may follow, with zeros after it. -/
def wholeOfText : String → Checked Int := looked fun s =>
  match (withoutPlus (Text.trimBy Text.isUnicodeBlank s.toList)).bind withoutZeros with
  | none => error .badInteger
  | some cs =>
    match withoutUnderscores (withoutFraction cs) with
    | '-' :: cs => plainInteger true cs
    | cs => plainInteger false cs

/-! ### Pixels -/

/-- A number rounded to a pixel.  Infinity has no pixel at all. -/
def roundedPixel (x : Binary64) : Checked Int :=
  match x.roundHalfUp with
  | .ok i => ok i
  | .error .notANumber => error .pixelNotNumber
  | .error e => broken e

/-- A coordinate or size: an integer, or a number or numeral that is rounded to one.  A text that is
no number may still be read as an integer. -/
def pixel : Json → Checked Int
  | .bool b => ok (ofBool b)
  | .int i => ok i
  | .num x => roundedPixel x
  | .str s =>
    match Text.Numeral.number? s.toList with
    | none => wholeOfText s
    | some .nan => wholeOfText s
    | some x => roundedPixel x
  | _ => error .notInteger

/-- A value that must be greater than zero. -/
def positive (x : Checked Int) : Checked Int :=
  x.andThen fun i => if 0 < i then ok i else error .notPositive

/-- A size, or nothing where it may be left open. -/
def optionalSize : Json → Checked (Option Int)
  | .null => ok none
  | j => (positive (pixel j)).map some

/-- Numbers from here on are too large to be taken as integers. -/
def wholeLimit : Int := Int.ofNat (twoTo 63)

/-- An integer: a number counts when it has no fraction. -/
def whole : Json → Checked Int
  | .bool b => ok (ofBool b)
  | .int i => ok i
  | .num x =>
    if !x.isFinite then error .notFinite
    else match x.toInt? with
      | none => error .fractional
      | some i => if i.natAbs < wholeLimit.natAbs then ok i else error .integerTooLong
  | .str s => wholeOfText s
  | _ => error .notInteger

/-- The number in a text.  Blanks may surround it, or underscores may stand within it, but not
both. -/
def numberOfText? (s : String) : Option Binary64 :=
  let cs := s.toList
  if !cs.contains '_' then
    Text.Numeral.numberOf? Text.asciiDigit? (Text.trimBy Text.isUnicodeBlank cs)
  else if soundUnderscores cs then
    Text.Numeral.numberOf? Text.asciiDigit? (cs.filter (· != '_'))
  else none

/-- A time in seconds. -/
def seconds : Json → Checked Binary64
  | .bool b => ok (.ofInt (ofBool b))
  | .int i =>
    match Binary64.ofInt? i with
    | .ok x => ok x
    | .error _ => error .notNumber
  | .num x => ok x
  | .str s => looked (fun s => (numberOfText? s).elim (error .badNumber) ok) s
  | _ => error .notNumber

/-- A time that is not before zero. -/
def startSeconds (j : Json) : Checked Binary64 :=
  (seconds j).andThen fun x => if Binary64.le 0 x then ok x else error .negative

/-- Reads a text, and nothing else as a text. -/
def text : Json → Checked String
  | .str s => ok s
  | _ => error .notText

/-- Reads a text of at least one character. -/
def nonEmptyText (j : Json) : Checked String :=
  (text j).andThen (looked fun s => if s = "" then error .emptyText else ok s)

/-- The words for true and false, in lower case. -/
def trueWords : List String := ["1", "on", "t", "true", "y", "yes"]

/-- What stands for false where a truth value is read from a text. -/
def falseWords : List String := ["0", "off", "f", "false", "n", "no"]

/-- Zero and one as false and true.  Integers that are too large are not even taken for a mistake of
this kind. -/
def booleanOfWhole (fits : Bool) (i : Int) : Checked Bool :=
  if !fits then error .notBoolean
  else if i = 0 then ok false
  else if i = 1 then ok true
  else error .badBoolean

/-- Reads a truth value from a text, in any case. -/
def booleanOfText (s : String) : Checked Bool :=
  let word := s.toLower
  if trueWords.contains word then ok true
  else if falseWords.contains word then ok false
  else error .badBoolean

/-- Reads a truth value; the numbers zero and one pass for one. -/
def boolean : Json → Checked Bool
  | .bool b => ok b
  | .int i => booleanOfWhole (-wholeLimit ≤ i && i < wholeLimit) i
  | .num x =>
    match x.toInt? with
    | some i => booleanOfWhole (-wholeLimit < i && i < wholeLimit) i
    | none => error .notBoolean
  | .str s => looked booleanOfText s
  | _ => error .notBoolean

/-- The items of a list. -/
def list {α : Type} (read : Json → Checked α) : Json → Checked (List α)
  | .arr items => all read 0 items
  | _ => error .notList

end Read

/-! ## Fields of an object -/

/-- The two names of a field: the one it is written under, and a second one that is accepted. -/
structure FieldName where
  main : String
  other : String

/-- A field with a single name. -/
def FieldName.single (name : String) : FieldName := ⟨name, name⟩

namespace FieldName

/-- The value of a field and the name it was found under. -/
def find? (name : FieldName) (members : List (String × Json)) : Option (String × Json) :=
  match Json.lookup name.main members with
  | some v => some (name.main, v)
  | none => (Json.lookup name.other members).map fun v => (name.other, v)

variable {α : Type}

/-- A field that must be there. -/
def required (name : FieldName) (read : Json → Checked α) (members : List (String × Json)) :
    Checked α :=
  match name.find? members with
  | some (found, v) => (read v).under (.key found)
  | none => Checked.bad [⟨[.key name.main], .missing⟩]

/-- A field that has a value when it is left out. -/
def optional (name : FieldName) (read : Json → Checked α) (default : α)
    (members : List (String × Json)) : Checked α :=
  match name.find? members with
  | some (found, v) => (read v).under (.key found)
  | none => .ok default

end FieldName

end Montage
