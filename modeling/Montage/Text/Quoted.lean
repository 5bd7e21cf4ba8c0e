import Montage.Text.Encoding
import Montage.Text.Printable

/-!
# Quoted text in messages

Names and values stand in messages between quotes.

* **Choice of quote**: single quotes, unless the text has single quotes and no double ones.
* **Escapes**: the quote in use, the backslash, `\n`, `\r`, `\t`; any other unprintable character by
  its code point, in two, four or eight hexadecimal digits.

The words about bytes that are no text, and about text that has no bytes, stand here too.
-/

namespace Montage.Text

/-- A hexadecimal digit in lower case. -/
def hexDigit (n : Nat) : Char :=
  if n < 10 then Char.ofNat ('0'.toNat + n) else Char.ofNat ('a'.toNat + (n - 10))

/-- The last `width` hexadecimal digits of a number. -/
def hexDigits : (width n : Nat) → List Char
  | 0, _ => []
  | width + 1, n => hexDigits width (n / 16) ++ [hexDigit (n % 16)]

/-- A code point as an escape of the shortest width that holds it. -/
def codePointEscape (n : Nat) : List Char :=
  if n < 0x100 then '\\' :: 'x' :: hexDigits 2 n
  else if n < 0x10000 then '\\' :: 'u' :: hexDigits 4 n
  else '\\' :: 'U' :: hexDigits 8 n

/-- One code point between quotes. -/
def quotedCode (quote : Char) (n : Nat) : List Char :=
  if n = quote.toNat ∨ n = '\\'.toNat then ['\\', Char.ofNat n]
  else if n = '\n'.toNat then ['\\', 'n']
  else if n = '\r'.toNat then ['\\', 'r']
  else if n = '\t'.toNat then ['\\', 't']
  else if isPrintable n then [Char.ofNat n]
  else codePointEscape n

/-- The quote that surrounds a text. -/
def quoteFor (ns : List Nat) : Char :=
  if ns.contains '\''.toNat && !ns.contains '"'.toNat then '"' else '\''

/-- Code points in quotes. -/
def quotedCodes (ns : List Nat) : String :=
  let quote := quoteFor ns
  String.ofList (quote :: ns.flatMap (quotedCode quote) ++ [quote])

/-- A text in quotes. -/
def quoted (text : String) : String := quotedCodes (codes text.toList)

/-! ## Problems with encodings -/

/-- What is said about bytes that are no text. -/
def Utf8Problem.message (p : Utf8Problem) : String :=
  let place :=
    if p.width = 1 then
      s!"byte 0x{String.ofList (hexDigits 2 p.byte.toNat)} in position {p.place}"
    else s!"bytes in position {p.place}-{p.place + p.width - 1}"
  s!"'utf-8' codec can't decode {place}: {p.reason}"

/-- What is said about a text that has no bytes. -/
def EncodingProblem.message (p : EncodingProblem) : String :=
  let what :=
    if p.finish = p.place + 1 then
      s!"character '{String.ofList (codePointEscape p.first)}' in position {p.place}"
    else s!"characters in position {p.place}-{p.finish - 1}"
  s!"'{p.alphabet.name}' codec can't encode {what}: {p.alphabet.reason}"

end Montage.Text
