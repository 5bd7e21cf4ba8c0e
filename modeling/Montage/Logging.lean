/-!
# Log levels

Which records are kept, and where they go: to the console, to a file with everything, and to a file
with what needs attention.

* `levelOf` — the level that a setting names, in either case; any other setting means `info`.
* `handlers` — the places records go to, each with its least level.
-/

namespace Montage.Logging

/-- The levels by name; two of them have two names. -/
def levels : List (String × Nat) :=
  [("CRITICAL", 50), ("FATAL", 50), ("ERROR", 40), ("WARNING", 30), ("WARN", 30), ("INFO", 20),
   ("DEBUG", 10), ("NOTSET", 0)]

/-- The level of what is told of every export. -/
def info : Nat := 20

/-- The level of what went wrong without ending anything. -/
def warning : Nat := 30

/-- The capital form of a character, as far as it consists of ASCII letters. -/
def capitals (c : Char) : List Char :=
  match c with
  | 'ı' => ['I']
  | 'ſ' => ['S']
  | 'ﬁ' => ['F', 'I']
  | 'ﬆ' => ['S', 'T']
  | 'ﬅ' => ['S', 'T']
  | c => [c.toUpper]

/-- The level that a setting names. -/
def levelOf (setting : String) : Nat :=
  (levels.lookup (String.ofList (setting.toList.flatMap capitals))).getD info

/-- Where records go. -/
inductive Target where
  | console
  | everything
  | attention
  deriving DecidableEq, Repr

/-- The targets with their least levels. -/
def handlers (level : Nat) : List (Target × Nat) :=
  [(.console, level), (.everything, level), (.attention, warning)]

end Montage.Logging
