import Montage.Studio.Interface

/-!
# Scripts

In a rehearsal the programs and servers around an export follow scripts, so everything about it is
known beforehand.

* `ProgramScript` — what a program does from its start to its end.
* `ResponseScript` — what a server answers.
* `Cues` — scripts that are used one after the other; **the last one is used again and again**.

Whatever follows a script can be held: it then stops short of its end until it is released.
-/

namespace Montage

/-! ## Programs -/

/-- What a program does.  Its effects on files come before anything it writes is read. -/
structure ProgramScript where
  /-- An error number and its text: the program does not start at all. -/
  refusal : Option (Nat × String) := none
  output : ByteArray := ByteArray.empty
  errors : ByteArray := ByteArray.empty
  code : Int := 0
  held : Bool := false
  /-- Files besides the one that is asked for. -/
  extras : List (String × ByteArray) := []
  /-- What is written to the file that the last argument names. -/
  result : Option ByteArray := none
  /-- Directories, each with a file in it. -/
  directories : List String := []
  /-- Whether the working directory is removed. -/
  removesDirectory : Bool := false
  deriving DecidableEq

namespace ProgramScript

/-- A text in lines: each ends behind a line feed, the last one where the text ends. -/
def linesOf (bytes : ByteArray) : List ByteArray :=
  go bytes.toList []
where
  /-- The lines of the remaining bytes, a line having begun with the given ones, latest first. -/
  go : List UInt8 → List UInt8 → List ByteArray
    | [], [] => []
    | [], line => [⟨line.reverse.toArray⟩]
    | b :: rest, line =>
      if b = 0x0A then ⟨(b :: line).reverse.toArray⟩ :: go rest [] else go rest (b :: line)

/-- What a program writes, line by line. -/
def channels (p : ProgramScript) : Channels := ⟨linesOf p.output, linesOf p.errors⟩

/-- What a program writes, and how it ends. -/
def collected (p : ProgramScript) : Collected := ⟨p.code, p.output, p.errors⟩

/-! ### When nothing else is said -/

/-- Tells a version. -/
def speaking : ProgramScript := { output := "ffmpeg version test\nbuilt with gcc\n".toUTF8 }

/-- Tells a duration. -/
def measuring : ProgramScript := { output := "10.0\n".toUTF8 }

/-- Writes a video. -/
def rendering : ProgramScript := { result := some "rendered".toUTF8 }

end ProgramScript

/-! ## Servers -/

/-- What a server answers. -/
structure ResponseScript where
  reply : Except HttpFault Response
  /-- A held response has delivered nothing. -/
  held : Bool := false

namespace ResponseScript

/-- Nobody answers. -/
def unreachable : ResponseScript := { reply := .error ⟨.connectError, "unreachable"⟩ }

/-- Sends a video. -/
def answering : ResponseScript := { reply := .ok { chunks := ["remote-mp4".toUTF8] } }

end ResponseScript

/-! ## Order -/

/-- Scripts for one use after the other. -/
structure Cues (α : Type) where
  next : α
  later : List α := []

namespace Cues

variable {α : Type}

/-- The given scripts in order, or one for all uses if none is given. -/
def ofList (otherwise : α) : List α → Cues α
  | [] => ⟨otherwise, []⟩
  | a :: rest => ⟨a, rest⟩

/-- The cues after one use. -/
def advance (c : Cues α) : Cues α :=
  match c.later with
  | [] => c
  | a :: rest => ⟨a, rest⟩

end Cues

end Montage
