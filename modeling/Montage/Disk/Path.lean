import Montage.Text.Blank

/-!
# Paths

A path is a root and a list of parts.  Reading one drops empty parts and `.`, but keeps `..`: what
that means depends on the disk.

* `Path.ofText`, `Path.text` — reading and writing.
* `Path.child` — one part more; `Path.name`, `Path.parent` — the last part, and the path before it.
-/

namespace Montage

/-- Where a path starts. -/
inductive PathRoot where
  /-- The working directory. -/
  | here
  | slash
  /-- Exactly two slashes: a root of its own by convention, the same place as one slash here. -/
  | doubleSlash
  deriving DecidableEq, Repr

/-- A path: where it begins, and the names of its parts. -/
structure Path where
  root : PathRoot := .here
  parts : List String
  deriving DecidableEq

namespace Path

/-- The parts of a text between slashes, without the empty ones and `.`. -/
def partsOf (cs : List Char) : List String :=
  ((Text.splitAt '/' cs).map String.ofList).filter fun p => p ≠ "" && p ≠ "."

/-- Where a path begins.  Two slashes are a beginning of their own, three are one. -/
def rootOf : List Char → PathRoot
  | '/' :: '/' :: '/' :: _ => .slash
  | '/' :: '/' :: _ => .doubleSlash
  | '/' :: _ => .slash
  | _ => .here

/-- The path of a text; empty parts and the part `.` are left out, the part `..` stays. -/
def ofText (text : String) : Path := ⟨rootOf text.toList, partsOf text.toList⟩

/-- The beginning of a path as a text. -/
def rootText : PathRoot → String
  | .here => ""
  | .slash => "/"
  | .doubleSlash => "//"

/-- A path as a text; the path of nothing is `.`. -/
def text (p : Path) : String :=
  if p.root = .here && p.parts.isEmpty then "."
  else rootText p.root ++ "/".intercalate p.parts

/-- Whether a path does not depend on the working directory. -/
def isAbsolute (p : Path) : Bool := p.root ≠ .here

/-- A path below another one; an absolute path stands for itself. -/
def join (p q : Path) : Path :=
  if q.isAbsolute then q else { p with parts := p.parts ++ q.parts }

/-- A path with a text after it. -/
def child (p : Path) (name : String) : Path := p.join (ofText name)

/-- The last part, if there is one. -/
def name (p : Path) : String := p.parts.getLast?.getD ""

/-- The path without its last part. -/
def parent (p : Path) : Path := { p with parts := p.parts.dropLast }

end Path

end Montage
