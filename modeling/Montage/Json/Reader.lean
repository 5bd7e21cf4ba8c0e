import Montage.Json.Basic
import Montage.Text.Encoding
import Montage.Text.Numeral

/-!
# Reading JSON

A reader that says where and why it stopped.  Beyond the standard it accepts `NaN`, `Infinity` and
`-Infinity`; of several members with one key the last counts.

* `Json.parse` — the value of a text, or a `ReadError`.
* `Json.parseBytes` — the value of an encoded text, its encoding read off the first bytes.
* `ReadError.message` — the problem with its line, column and character number.

Every step consumes at least one character, so the number of characters bounds the recursion.
-/

namespace Montage.Json

/-- What stopped the reader. -/
inductive Problem where
  | expectingValue
  | expectingName
  | expectingColon
  | expectingComma
  | extraData
  | unterminatedString
  | controlCharacter
  | badEscape
  | badUnicodeEscape
  | byteOrderMark
  deriving DecidableEq

/-- Why a text could not be read: a problem so many characters before its end, an integer with too
many digits, or too many arrays and objects inside each other. -/
inductive Stop where
  | at (problem : Problem) (remaining : Nat)
  | longInteger (digits : Nat)
  | tooDeep (isArray : Bool)
  deriving DecidableEq

/-- Why a text could not be read, the place counted from the start. -/
inductive ReadError where
  | at (problem : Problem) (line column char : Nat)
  | longInteger (digits : Nat)
  | tooDeep (isArray : Bool)
  deriving DecidableEq

/-- What is said about a text that is no JSON. -/
def Problem.message : Problem → String
  | expectingValue => "Expecting value"
  | expectingName => "Expecting property name enclosed in double quotes"
  | expectingColon => "Expecting ':' delimiter"
  | expectingComma => "Expecting ',' delimiter"
  | extraData => "Extra data"
  | unterminatedString => "Unterminated string starting at"
  | controlCharacter => "Invalid control character at"
  | badEscape => "Invalid \\escape"
  | badUnicodeEscape => "Invalid \\uXXXX escape"
  | byteOrderMark => "Unexpected UTF-8 BOM (decode using utf-8-sig)"

/-- What is said about a text that cannot be read, with the place where this came to light. -/
def ReadError.message : ReadError → String
  | .at problem line column char =>
    s!"{problem.message}: line {line} column {column} (char {char})"
  | longInteger digits =>
    s!"Exceeds the limit ({Text.Numeral.digitLimit} digits) for integer string conversion: "
      ++ s!"value has {digits} digits; use sys.set_int_max_str_digits() to increase the limit"
  | .tooDeep isArray =>
    let kind := if isArray then "array" else "object"
    s!"maximum recursion depth exceeded while decoding a JSON {kind} from a unicode string"

/-! ## Lexical parts -/

/-- What reading comes to: a value, or where and why it stopped. -/
abbrev Read (α : Type) := Except Stop α

/-- Stops with a problem before the given rest; the place is told by how much is left. -/
def fail {α : Type} (problem : Problem) (rest : List Char) : Read α :=
  .error (.at problem rest.length)

/-- Whether a character may stand between any two parts of a text. -/
def isSpace (c : Char) : Bool := c = ' ' || c = '\t' || c = '\n' || c = '\r'

/-- A text without the blanks at its beginning. -/
def skipSpace (cs : List Char) : List Char := cs.dropWhile isSpace

/-- The value of four hexadecimal digits. -/
def hex4? : List Char → Option Nat
  | [a, b, c, d] => do
    let digits ← [a, b, c, d].mapM Text.hexValue?
    return Text.ofDigits 16 digits
  | _ => none

/-- The character after a backslash, `u` apart. -/
def simpleEscape? : Char → Option Char
  | '"' => some '"'
  | '\\' => some '\\'
  | '/' => some '/'
  | 'b' => some '\x08'
  | 'f' => some '\x0c'
  | 'n' => some '\n'
  | 'r' => some '\r'
  | 't' => some '\t'
  | _ => none

/-- The low half of a surrogate pair at the start of a text, and how many characters it takes. -/
def lowSurrogate? (cs : List Char) : Read (Option Nat) :=
  match cs with
  | '\\' :: 'u' :: rest =>
    -- the closing quote is still to come
    if rest.length ≤ 4 then .ok none
    else match hex4? (rest.take 4) with
      | none => fail .badUnicodeEscape ('u' :: rest)
      | some n => .ok (if Text.isLowSurrogate n then some n else none)
  | _ => .ok none

/-- The rest of a string and what follows its closing quote.  `opened` is how many characters were
left at the opening quote; `skip` counts characters of an escape that are already read. -/
def stringTail (opened : Nat) (acc : List Char) (skip : Nat) : List Char → Read (String × List Char)
  | [] => .error (.at .unterminatedString opened)
  | c :: rest =>
    match skip with
    | skip + 1 => stringTail opened acc skip rest
    | 0 =>
      if c = '"' then .ok (String.ofList acc.reverse, rest)
      else if c.toNat < 0x20 then fail .controlCharacter (c :: rest)
      else if c ≠ '\\' then stringTail opened (c :: acc) 0 rest
      else match rest with
        | [] => .error (.at .unterminatedString opened)
        | 'u' :: digits =>
          if digits.length ≤ 4 then fail .badUnicodeEscape rest
          else match hex4? (digits.take 4) with
            | none => fail .badUnicodeEscape rest
            | some n =>
              if Text.isHighSurrogate n then
                match lowSurrogate? (digits.drop 4) with
                | .error e => .error e
                | .ok (some low) =>
                  let joined := Text.spell (Text.joinSurrogates n low)
                  stringTail opened (joined.reverse ++ acc) 11 rest
                | .ok none => stringTail opened ((Text.spell n).reverse ++ acc) 5 rest
              else stringTail opened ((Text.spell n).reverse ++ acc) 5 rest
        | e :: _ =>
          match simpleEscape? e with
          | some x => stringTail opened (x :: acc) 1 rest
          | none => fail .badEscape (c :: rest)

/-- The digits at the start of a text. -/
def digitsOf (cs : List Char) : List Nat × List Char :=
  ((cs.takeWhile Char.isDigit).filterMap Text.asciiDigit?, cs.dropWhile Char.isDigit)

/-- The fraction at the start of a text: a point followed by a digit. -/
def fractionOf : List Char → List Nat × List Char
  | '.' :: rest =>
    match digitsOf rest with
    | ([], _) => ([], '.' :: rest)
    | r => r
  | cs => ([], cs)

/-- The exponent at the start of a text: an `e` followed by a digit, a sign in between or not. -/
def exponentOf (cs : List Char) : Option Int × List Char :=
  match cs with
  | [] => (none, [])
  | c :: rest =>
    if c = 'e' ∨ c = 'E' then
      let (negative, tail) := Text.Numeral.signed rest
      match digitsOf tail with
      | ([], _) => (none, cs)
      | (digits, left) =>
        let n : Int := Text.ofDigits 10 digits
        (some (if negative then -n else n), left)
    else (none, cs)

/-- The number at the start of a text. -/
def number (start : List Char) : Read (Json × List Char) :=
  let (negative, cs) := match start with
    | '-' :: rest => (true, rest)
    | cs => (false, cs)
  -- a leading zero stands alone
  let (whole, rest) := match cs with
    | '0' :: rest => ([0], rest)
    | cs => digitsOf cs
  if whole.isEmpty then fail .expectingValue start
  else
    let (fraction, rest) := fractionOf rest
    let (exponent, rest) := exponentOf rest
    if fraction.isEmpty && exponent.isNone then
      if whole.length > Text.Numeral.digitLimit then .error (.longInteger whole.length)
      else
        let n : Int := Text.ofDigits 10 whole
        .ok (.int (if negative then -n else n), rest)
    else
      let digits := Text.ofDigits 10 (whole ++ fraction)
      .ok (.num (.ofDecimal negative digits (exponent.getD 0 - fraction.length)), rest)

/-- The names of values, longest first where one begins another. -/
def names : List (String × Json) :=
  [("null", .null), ("true", .bool true), ("false", .bool false), ("NaN", .num .nan),
   ("Infinity", .num (.infinite false)), ("-Infinity", .num (.infinite true))]

/-- The rest of a text after a beginning. -/
def dropLeading? : List Char → List Char → Option (List Char)
  | [], cs => some cs
  | _ :: _, [] => none
  | p :: ps, c :: cs => if p = c then dropLeading? ps cs else none

/-- The value of a name such as `null`, and what follows it. -/
def named? (cs : List Char) : Option (Json × List Char) :=
  names.findSome? fun (name, value) => (dropLeading? name.toList cs).map fun rest => (value, rest)

/-! ## Values -/

/-- Arrays and objects may lie inside each other this deep.

The limit is not one of JSON.  The decoder goes one call deeper for every level and gives up where
the interpreter's stack does, at 1000 calls by default.  The number is what is left of these for a
decoder that is called from the desk or the worker; **it is an assumption about the stack**, and a
caller that is nested deeper has less.  Nothing but the end of a text that is nested too deep
depends on it. -/
def nestingLimit : Nat := 985

/-- One level further in; `levels` may still be opened. -/
def descend (isArray : Bool) : (levels : Nat) → Read Nat
  | 0 => .error (.tooDeep isArray)
  | levels + 1 => .ok levels

mutual

/-- The value at the start of a text, and the rest. -/
def readValue : (fuel levels : Nat) → List Char → Read (Json × List Char)
  | 0, _, cs => fail .expectingValue cs
  | fuel + 1, levels, cs =>
    match cs with
    | [] => fail .expectingValue cs
    | '"' :: rest => do
      let (s, rest) ← stringTail cs.length [] 0 rest
      return (.str s, rest)
    | '\x7b' :: rest => do
      let levels ← descend false levels
      match skipSpace rest with
      | '\x7d' :: rest => return (.obj [], rest)
      | rest =>
        let (members, rest) ← readMembers fuel levels rest
        return (.obj (ofMembers members), rest)
    | '[' :: rest => do
      let levels ← descend true levels
      match skipSpace rest with
      | ']' :: rest => return (.arr [], rest)
      | rest =>
        let (items, rest) ← readItems fuel levels rest
        return (.arr items, rest)
    | _ =>
      match named? cs with
      | some r => .ok r
      | none => number cs

/-- The items up to the closing bracket; there is at least one. -/
def readItems : (fuel levels : Nat) → List Char → Read (List Json × List Char)
  | 0, _, cs => fail .expectingValue cs
  | fuel + 1, levels, cs => do
    let (item, rest) ← readValue fuel levels cs
    match skipSpace rest with
    | ']' :: rest => return ([item], rest)
    | ',' :: rest =>
      let (more, rest) ← readItems fuel levels (skipSpace rest)
      return (item :: more, rest)
    | rest => fail .expectingComma rest

/-- The members up to the closing brace; there is at least one. -/
def readMembers : (fuel levels : Nat) → List Char → Read (List (String × Json) × List Char)
  | 0, _, cs => fail .expectingName cs
  | fuel + 1, levels, cs =>
    match cs with
    | '"' :: rest => do
      let (key, rest) ← stringTail cs.length [] 0 rest
      match skipSpace rest with
      | ':' :: rest =>
        let (item, rest) ← readValue fuel levels (skipSpace rest)
        match skipSpace rest with
        | '\x7d' :: rest => return ([(key, item)], rest)
        | ',' :: rest =>
          let (more, rest) ← readMembers fuel levels (skipSpace rest)
          return ((key, item) :: more, rest)
        | rest => fail .expectingComma rest
      | rest => fail .expectingColon rest
    | _ => fail .expectingName cs

end

/-- A value with nothing but space around it. -/
def document (cs : List Char) : Read Json :=
  if cs.head? = some '\uFEFF' then fail .byteOrderMark cs
  else do
    let (v, rest) ← readValue (2 * cs.length + 1) nestingLimit (skipSpace cs)
    match skipSpace rest with
    | [] => return v
    | rest => fail .extraData rest

/-- The place of a stop, counted from the start of the text. -/
def locate (cs : List Char) : Stop → ReadError
  | .longInteger digits => .longInteger digits
  | .tooDeep isArray => .tooDeep isArray
  | .at problem remaining =>
    let before := Text.codes (cs.take (cs.length - remaining))
    let newline := '\n'.toNat
    let line := before.count newline + 1
    let column := (before.reverse.takeWhile (· ≠ newline)).length + 1
    .at problem line column before.length

/-- The value of a text. -/
def parse (text : String) : Except ReadError Json :=
  let cs := text.toList
  (document cs).mapError (locate cs)

/-! ## Encoded text -/

/-- The marks that begin an encoded text and the encoding each names, a longer mark before the
shorter one it begins with. -/
def orderMarks : List (List UInt8 × (List UInt8 → Option (List Char))) :=
  [([0x00, 0x00, 0xFE, 0xFF], Text.strictUtf32? .bigEndian),
   ([0xFF, 0xFE, 0x00, 0x00], Text.strictUtf32? .littleEndian),
   ([0xFE, 0xFF], Text.strictUtf16? .bigEndian),
   ([0xFF, 0xFE], Text.strictUtf16? .littleEndian),
   ([0xEF, 0xBB, 0xBF], Text.strictUtf8?)]

/-- The characters of an encoded text without a mark: the zero bytes among the first four name its
encoding. -/
def decodeUnmarked? (bytes : List UInt8) : Option (List Char) :=
  match bytes with
  | a :: b :: c :: d :: _ =>
    if a = 0 then
      if b = 0 then Text.strictUtf32? .bigEndian bytes else Text.strictUtf16? .bigEndian bytes
    else if b = 0 then
      if c = 0 ∧ d = 0 then Text.strictUtf32? .littleEndian bytes
      else Text.strictUtf16? .littleEndian bytes
    else Text.strictUtf8? bytes
  | [a, b] =>
    if a = 0 then Text.strictUtf16? .bigEndian bytes
    else if b = 0 then Text.strictUtf16? .littleEndian bytes
    else Text.strictUtf8? bytes
  | _ => Text.strictUtf8? bytes

/-- The characters of an encoded text. -/
def decodeChars? (bytes : List UInt8) : Option (List Char) :=
  match orderMarks.find? (·.1.isPrefixOf bytes) with
  | some (mark, decode?) => decode? (bytes.drop mark.length)
  | none => decodeUnmarked? bytes

/-- The value of an encoded text, if it is one; only nesting that goes too deep is an error. -/
def parseBytes (bytes : ByteArray) : Except ReadError (Option Json) :=
  match decodeChars? bytes.toList with
  | none => .ok none
  | some cs =>
    match document cs with
    | .ok v => .ok (some v)
    | .error (.tooDeep isArray) => .error (.tooDeep isArray)
    | .error _ => .ok none

end Montage.Json
