import Montage.Text.Digit
import Montage.Text.Encoding

/-!
# Percent coding

In an address a byte may stand as `%` and two hexadecimal digits.

* `decode` — such triples as the bytes they stand for, read as UTF-8; a `%` that starts no triple
  stands for itself.
* `encode` — every character that is not allowed to stand for itself becomes triples; **triples that
  are there already are kept**.  Half of a surrogate pair has no bytes.
-/

namespace Montage.Percent

/-- The byte of two hexadecimal digits. -/
def byte? (a b : Char) : Option UInt8 := do
  let high ← Text.hexValue? a
  let low ← Text.hexValue? b
  return UInt8.ofNat (high * 16 + low)

/-! ## Decoding -/

/-- The bytes of an ASCII text, triples decoded. -/
def bytesOf : List Char → List UInt8
  | '%' :: a :: b :: rest =>
    match byte? a b with
    | some x => x :: bytesOf rest
    | none => UInt8.ofNat '%'.toNat :: bytesOf (a :: b :: rest)
  | c :: rest => UInt8.ofNat c.toNat :: bytesOf rest
  | [] => []
termination_by cs => cs.length

/-- Whether a character is one of the first 128. -/
def isAscii (c : Char) : Bool := c.toNat < 0x80

/-- The characters of a run of percent-encoded bytes; what is no character is replaced. -/
def decodeRun (run : List Char) : List Char := Text.lossyChars (bytesOf run).toByteArray

/-- Every run of ASCII characters is decoded on its own; `run` is the current one in reverse. -/
def decodeFrom (run : List Char) : List Char → List Char
  | [] => decodeRun run.reverse
  | c :: rest =>
    if isAscii c then decodeFrom (c :: run) rest
    else decodeRun run.reverse ++ c :: decodeFrom [] rest

/-- A text with its percent-encodings decoded. -/
def decode (cs : List Char) : List Char := if cs.contains '%' then decodeFrom [] cs else cs

/-! ## Encoding -/

/-- A hexadecimal digit, the letters in capitals. -/
def upperHexDigit (n : Nat) : Char :=
  if n < 10 then Char.ofNat ('0'.toNat + n) else Char.ofNat ('A'.toNat + (n - 10))

/-- A byte in its percent-encoding. -/
def triple (b : UInt8) : List Char :=
  ['%', upperHexDigit (b.toNat / 16), upperHexDigit (b.toNat % 16)]

/-- Characters that always stand for themselves. -/
def isUnreserved (c : Char) : Bool :=
  c.isAlphanum || c = '-' || c = '.' || c = '_' || c = '~'

/-- One code point, as itself or as the triples of its bytes. -/
def encodeCode (safe : Char → Bool) (n : Nat) : Except Text.EncodingProblem (List Char) :=
  let c := Char.ofNat n
  if n < 0x80 && (isUnreserved c || safe c) then .ok [c]
  else match Text.Alphabet.utf8.problem? 0 [n] with
    | some p => .error p
    | none => .ok ((Text.bytesOfCodes [n]).toList.flatMap triple)

/-- Code points whose unsafe members are triples; the next `kept` of them belong to a triple. -/
def encodeFrom (safe : Char → Bool) (kept : Nat) :
    List Nat → Except Text.EncodingProblem (List Char)
  | [] => .ok []
  | n :: rest =>
    match kept with
    | kept + 1 => (encodeFrom safe kept rest).map (Char.ofNat n :: ·)
    | 0 =>
      match n == '%'.toNat, rest with
      | true, a :: b :: _ =>
        if (byte? (Char.ofNat a) (Char.ofNat b)).isSome then
          (encodeFrom safe 2 rest).map (Char.ofNat n :: ·)
        else do return (← encodeCode safe n) ++ (← encodeFrom safe 0 rest)
      | _, _ => do return (← encodeCode safe n) ++ (← encodeFrom safe 0 rest)

/-- A text whose unsafe characters are triples. -/
def encode (safe : Char → Bool) (cs : List Char) : Except Text.EncodingProblem (List Char) :=
  encodeFrom safe 0 (Text.codes cs)

end Montage.Percent
