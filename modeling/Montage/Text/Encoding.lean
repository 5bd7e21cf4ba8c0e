import Montage.Text.Half

/-!
# Bytes as text

Reading UTF-8, UTF-16 and UTF-32.

* `utf8Scan` — the code points of a UTF-8 text; each **longest ill-formed beginning** counts as one
  gap.
* `lossyText` — gaps become replacement characters.
* `strictUtf8?`, `strictUtf16?`, `strictUtf32?` — no gap is allowed.

The strict readers let halves of surrogate pairs pass.
-/

namespace Montage.Text

/-- Byte sequences are compared byte by byte. -/
instance decidableEqBytes : DecidableEq ByteArray := ByteArray.instDecidableEq

/-- The replacement character. -/
def replacement : Char := '\uFFFD'

/-! ## UTF-8 -/

/-- The inside of a sequence: how many bytes are missing, the range of the next one, and the value
so far. -/
structure Sequence where
  missing : Nat
  low : Nat
  high : Nat
  value : Nat

/-- What a byte opens: a whole code point, a sequence, or nothing (a gap).  `surrogates` lets
encoded surrogates through. -/
def utf8Open (surrogates : Bool) (b : Nat) : List (Option Nat) × Option Sequence :=
  if b < 0x80 then ([some b], none)
  else if b < 0xC2 then ([none], none)
  else if b < 0xE0 then ([], some ⟨1, 0x80, 0xBF, b % 32⟩)
  else if b = 0xE0 then ([], some ⟨2, 0xA0, 0xBF, b % 16⟩)
  else if b = 0xED then ([], some ⟨2, 0x80, if surrogates then 0xBF else 0x9F, b % 16⟩)
  else if b < 0xF0 then ([], some ⟨2, 0x80, 0xBF, b % 16⟩)
  else if b = 0xF0 then ([], some ⟨3, 0x90, 0xBF, b % 8⟩)
  else if b < 0xF4 then ([], some ⟨3, 0x80, 0xBF, b % 8⟩)
  else if b = 0xF4 then ([], some ⟨3, 0x80, 0x8F, b % 8⟩)
  else ([none], none)

/-- One byte on: a sequence goes on, is completed, or breaks off as a gap before a byte that opens
something new. -/
def utf8Step (surrogates : Bool) (inside : Option Sequence) (b : Nat) :
    List (Option Nat) × Option Sequence :=
  match inside with
  | none => utf8Open surrogates b
  | some q =>
    if q.low ≤ b ∧ b ≤ q.high then
      let value := q.value * 64 + b % 64
      if q.missing = 1 then ([some value], none)
      else ([], some ⟨q.missing - 1, 0x80, 0xBF, value⟩)
    else
      let (found, next) := utf8Open surrogates b
      (none :: found, next)

/-- The code points of a UTF-8 text, `none` standing for a gap. -/
def utf8Scan (surrogates : Bool) (inside : Option Sequence) : List UInt8 → List (Option Nat)
  | [] => if inside.isSome then [none] else []
  | b :: rest =>
    let (found, next) := utf8Step surrogates inside b.toNat
    found ++ utf8Scan surrogates next rest

/-- A UTF-8 text with gaps replaced. -/
def lossyChars (bytes : ByteArray) : List Char :=
  (utf8Scan false none bytes.toList).flatMap fun p => (p.map spell).getD [replacement]

/-- A text from its bytes; what is no character becomes the replacement character. -/
def lossyText (bytes : ByteArray) : String := String.ofList (lossyChars bytes)

/-- The characters of code points, unless there is a gap. -/
def wholeChars? : List (Option Nat) → Option (List Char)
  | [] => some []
  | none :: _ => none
  | some n :: rest => (wholeChars? rest).map (spell n ++ ·)

/-- The characters of bytes that encode nothing but characters. -/
def strictUtf8? (bytes : List UInt8) : Option (List Char) := wholeChars? (utf8Scan true none bytes)

/-! ### The first gap -/

/-- Where a UTF-8 text stops being one: the first byte of the gap and its value, how many bytes it
takes, and why. -/
structure Utf8Problem where
  place : Nat
  byte : UInt8
  width : Nat
  reason : String
  deriving DecidableEq

/-- The width of the gap at the start of a text and its cause; nothing if no gap starts there.
`inside` is the sequence that was opened, `read` how many of its bytes were read. -/
def gapFrom (inside : Sequence) (read : Nat) : List UInt8 → Option (Nat × String)
  | [] => some (read, "unexpected end of data")
  | b :: rest =>
    match utf8Step false (some inside) b.toNat with
    | ([], some next) => gapFrom next (read + 1) rest
    | (none :: _, _) => some (read, "invalid continuation byte")
    | _ => none

/-- The first gap of a text; `place` counts the bytes before it. -/
def firstGap (place : Nat) (skip : Nat) : List UInt8 → Option Utf8Problem
  | [] => none
  | b :: rest =>
    match skip with
    | skip + 1 => firstGap (place + 1) skip rest
    | 0 =>
      match utf8Open false b.toNat with
      | (_, some q) =>
        match gapFrom q 1 rest with
        | some (width, reason) => some ⟨place, b, width, reason⟩
        | none => firstGap (place + 1) q.missing rest
      | (none :: _, none) => some ⟨place, b, 1, "invalid start byte"⟩
      | _ => firstGap (place + 1) 0 rest

/-- The text of UTF-8 bytes, or where they stop being one. -/
def decodeUtf8 (bytes : ByteArray) : Except Utf8Problem String :=
  match firstGap 0 0 bytes.toList with
  | some p => .error p
  | none => .ok (lossyText bytes)

/-! ## UTF-16 and UTF-32 -/

/-- Which end of a unit comes first. -/
inductive ByteOrder where
  | bigEndian
  | littleEndian
  deriving DecidableEq

/-- The 16-bit units of a text; an odd byte at the end is a gap. -/
def units16 (order : ByteOrder) : List UInt8 → List (Option Nat)
  | [] => []
  | [_] => [none]
  | a :: b :: rest =>
    let unit := match order with
      | .bigEndian => a.toNat * 256 + b.toNat
      | .littleEndian => b.toNat * 256 + a.toNat
    some unit :: units16 order rest

/-- Whether a number is the first half of a pair. -/
def isHighSurrogate (n : Nat) : Bool := 0xD800 ≤ n && n < 0xDC00

/-- Whether a number is the second half of a pair. -/
def isLowSurrogate (n : Nat) : Bool := 0xDC00 ≤ n && n < 0xE000

/-- The code point of a pair of surrogates. -/
def joinSurrogates (high low : Nat) : Nat := 0x10000 + (high - 0xD800) * 0x400 + (low - 0xDC00)

/-- Code points from 16-bit units: a high and a low surrogate side by side are one code point. -/
def joinPairs : List (Option Nat) → List (Option Nat)
  | some h :: some l :: rest =>
    if isHighSurrogate h && isLowSurrogate l then some (joinSurrogates h l) :: joinPairs rest
    else some h :: joinPairs (some l :: rest)
  | p :: rest => p :: joinPairs rest
  | [] => []

/-- The characters of bytes in pairs, if they encode nothing but characters. -/
def strictUtf16? (order : ByteOrder) (bytes : List UInt8) : Option (List Char) :=
  wholeChars? (joinPairs (units16 order bytes))

/-- The code points of a UTF-32 text; what is left over at the end, or too large, is a gap. -/
def units32 (order : ByteOrder) : List UInt8 → List (Option Nat)
  | [] => []
  | a :: b :: c :: d :: rest =>
    let (a, b, c, d) := match order with
      | .bigEndian => (a, b, c, d)
      | .littleEndian => (d, c, b, a)
    let n := ((a.toNat * 256 + b.toNat) * 256 + c.toNat) * 256 + d.toNat
    (if n < 0x110000 then some n else none) :: units32 order rest
  | _ => [none]

/-- The characters of bytes in fours, if they encode nothing but characters. -/
def strictUtf32? (order : ByteOrder) (bytes : List UInt8) : Option (List Char) :=
  wholeChars? (units32 order bytes)

end Montage.Text
