import Montage.Fault

/-!
# Writing JSON

Metadata is written on one line, a blank after each comma and colon.  Characters beyond ASCII stand
for themselves; the escapes are the quote, the backslash and the controls.

* `Json.write` — the text of a value.
-/

namespace Montage.Json

/-- One character inside a JSON text. -/
def escapedChar (c : Char) : List Char :=
  if c = '"' then ['\\', '"']
  else if c = '\\' then ['\\', '\\']
  else if c = '\n' then ['\\', 'n']
  else if c = '\r' then ['\\', 'r']
  else if c = '\t' then ['\\', 't']
  else if c = '\x08' then ['\\', 'b']
  else if c = '\x0c' then ['\\', 'f']
  else if c.toNat < 0x20 then '\\' :: 'u' :: Text.hexDigits 4 c.toNat
  else [c]

/-- A text between quotes; what is no printable character of the first 128 is escaped. -/
def writeString (s : String) : String :=
  String.ofList ('"' :: s.toList.flatMap escapedChar ++ ['"'])

/-- Numbers in JSON: the fewest digits, and names for what has none. -/
def numberStyle : Binary64.FloatStyle :=
  { Binary64.messageStyle with special := ⟨"NaN", "Infinity"⟩ }

/-- A number that is not whole, in the fewest digits that give it back. -/
def writeNumber (x : Binary64) : String := numberStyle.text Binary64.shortest x

/-- The marks between items and between a key and its value. -/
structure Spacing where
  comma : String
  colon : String

/-- A blank after each mark. -/
def spaced : Spacing := ⟨", ", ": "⟩

/-- Nothing but the marks. -/
def compact : Spacing := ⟨",", ":"⟩

mutual

/-- The text of a value.  It has none where an integer in it has none (`numeral`): then the first
such integer breaks the writing off. -/
def writeWith (spacing : Spacing) : Json → Except Fault String
  | null => .ok "null"
  | bool b => .ok (if b then "true" else "false")
  | int i => numeral i
  | num x => .ok (writeNumber x)
  | str s => .ok (writeString s)
  | arr items => do
    let texts ← writeItems spacing items
    return "[" ++ spacing.comma.intercalate texts ++ "]"
  | obj members => do
    let texts ← writeMembers spacing members
    return "\x7b" ++ spacing.comma.intercalate texts ++ "\x7d"

/-- The texts of the items of an array, in order. -/
def writeItems (spacing : Spacing) : List Json → Except Fault (List String)
  | [] => .ok []
  | j :: rest => do
    let first ← writeWith spacing j
    let more ← writeItems spacing rest
    return first :: more

/-- The texts of the members of an object, in order, each with its key. -/
def writeMembers (spacing : Spacing) : List (String × Json) → Except Fault (List String)
  | [] => .ok []
  | (k, j) :: rest => do
    let value ← writeWith spacing j
    let more ← writeMembers spacing rest
    return (writeString k ++ spacing.colon ++ value) :: more

end

/-- The text of a value, with a blank after each comma and colon. -/
def write (j : Json) : Except Fault String := writeWith spaced j

end Montage.Json
