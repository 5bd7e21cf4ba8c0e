import Montage.Binary64.Decimal
import Montage.Text.Quoted

/-!
# JSON values

Timelines, metadata and error bodies travel as JSON.  An integer and a number with a fraction or an
exponent are different values, and the reader also accepts the names of infinity and not-a-number.

* `Json` — the values; an object is an ordered list of members with distinct keys.
* `Json.isTruthy` — whether a value counts as present: not null, false, zero or empty.
* `Json.plainText` — a value inside a message.
-/

namespace Montage

/-- A JSON value. -/
inductive Json where
  | null
  | bool (b : Bool)
  | int (i : Int)
  | num (x : Binary64)
  | str (s : String)
  | arr (items : List Json)
  | obj (members : List (String × Json))
  deriving Inhabited

namespace Json

/-- The value of a key in a list of members. -/
def lookup (key : String) : List (String × Json) → Option Json
  | [] => none
  | (k, v) :: rest => if k = key then some v else lookup key rest

/-- The value of a key; no value outside objects. -/
def get? (j : Json) (key : String) : Option Json :=
  match j with
  | obj members => lookup key members
  | _ => none

/-- Members with one more: a key already there keeps its place and takes the new value. -/
def insert (key : String) (value : Json) : List (String × Json) → List (String × Json)
  | [] => [(key, value)]
  | (k, v) :: rest => if k = key then (k, value) :: rest else (k, v) :: insert key value rest

/-- Members in order of first appearance, each with its last value. -/
def ofMembers (members : List (String × Json)) : List (String × Json) :=
  members.foldl (fun acc m => insert m.1 m.2 acc) []

/-- Whether a value is the given text. -/
def isText (j : Json) (text : String) : Bool :=
  match j with
  | str s => s == text
  | _ => false

/-- Whether a value counts as true where a condition is asked for: zero and whatever is empty do
not. -/
def isTruthy : Json → Bool
  | null => false
  | bool b => b
  | int i => i != 0
  | num x => !x.isZero
  | str s => s != ""
  | arr items => !items.isEmpty
  | obj members => !members.isEmpty

/-! ## Values inside messages -/

mutual

/-- The text of a value nested in another: texts are quoted. -/
def nestedText : Json → String
  | null => "None"
  | bool b => if b then "True" else "False"
  | int i => toString i
  | num x => x.text
  | str s => Text.quoted s
  | arr items => "[" ++ ", ".intercalate (nestedTexts items) ++ "]"
  | obj members => "\x7b" ++ ", ".intercalate (memberTexts members) ++ "\x7d"

/-- The texts of the items of an array. -/
def nestedTexts : List Json → List String
  | [] => []
  | j :: rest => nestedText j :: nestedTexts rest

/-- The texts of the members of an object. -/
def memberTexts : List (String × Json) → List String
  | [] => []
  | (k, j) :: rest => (Text.quoted k ++ ": " ++ nestedText j) :: memberTexts rest

end

/-- The text of a value in a message. -/
def plainText : Json → String
  | str s => s
  | j => nestedText j

end Json

end Montage
