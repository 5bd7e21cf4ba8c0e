import Montage.Disk.Path
import Montage.Text.Digit

/-!
# Command-line arguments

One export is asked for by the name of a file with a timeline, and by options before or after it.

* The names are `-h`, `--help`, `-o FILE`, `--output FILE`, `--preload`.  A long name may be cut
  short **as long as only one option begins like that**; a value may be attached to its option.
* `Token.ofText?` — what an argument looks like by itself.
* `CommandLine.read` — what all arguments ask for.

After `--` everything is a value; so is an argument with a blank in it and a negative number,
unless it spells an option.
-/

namespace Montage.CommandLine

/-! ## Options -/

/-- What can be switched on a command line. -/
inductive Switch where
  | help
  | output
  | preload
  deriving DecidableEq, Repr

/-- How each switch may be written. -/
def spellings : List (String × Switch) :=
  [("-h", .help), ("--help", .help), ("-o", .output), ("--output", .output),
   ("--preload", .preload)]

/-- What an argument looks like. -/
inductive Token where
  | value (text : String)
  /-- Two hyphens by themselves. -/
  | separator
  /-- An option, perhaps with something attached; `long` tells how it was spelled. -/
  | switch (s : Switch) (long : Bool) (attached : Option String)
  | unknown
  deriving DecidableEq, Repr

namespace Token

/-- Whether a name starts with two hyphens. -/
def isLong (name : String) : Bool := name.startsWith "--"

/-- The switch of a name, if there is one, with what is attached to it. -/
def named? (name : String) (attached : Option String) : Option Token :=
  (spellings.lookup name).map fun s => .switch s (isLong name) attached

/-- The parts of an argument around the first equals sign. -/
def cutAtEquals (text : String) : String × Option String :=
  let (before, after) := Text.cutAt '=' text.toList
  (String.ofList before, after.map String.ofList)

/-- An option whose name is given in full before an equals sign. -/
def beforeEquals? (text : String) : Option Token :=
  match cutAtEquals text with
  | (name, some attached) => named? name (some attached)
  | (_, none) => none

/-- All options that an argument may be short for. -/
def candidates (text : String) : List Token :=
  if isLong text then
    let (start, attached) := cutAtEquals text
    (spellings.filter fun s => s.1.startsWith start).map fun s => .switch s.2 true attached
  else
    let cs := text.toList
    (named? (String.ofList (cs.take 2)) (some (String.ofList (cs.drop 2)))).toList

/-- Whether a character is a decimal digit of any script. -/
def isDigit (c : Char) : Bool := (Text.digitValue? c).isSome

/-- Whether a text is a negative number without an exponent.  A line feed may follow. -/
def isNegativeNumber (text : String) : Bool :=
  match text.toList with
  | '-' :: cs =>
    let cs := if cs.getLast? = some '\n' then cs.dropLast else cs
    match Text.cutAt '.' cs with
    | (whole, none) => !whole.isEmpty && whole.all isDigit
    | (whole, some places) => whole.all isDigit && !places.isEmpty && places.all isDigit
  | _ => false

/-- What an argument before `--` looks like; nothing if it may be short for several options. -/
def ofText? (text : String) : Option Token :=
  if text = "--" then some .separator
  else if !text.startsWith "-" || text = "-" then some (.value text)
  else
    match (named? text none).or (beforeEquals? text) with
    | some t => some t
    | none =>
      match candidates text with
      | [t] => some t
      | [] => some (if isNegativeNumber text || text.contains ' ' then .value text else .unknown)
      | _ => none

/-- What arguments look like; after `--` all are values. -/
def ofTexts? : List String → Option (List Token)
  | [] => some []
  | text :: rest =>
    if text = "--" then some (.separator :: rest.map .value)
    else do
      let t ← ofText? text
      let ts ← ofTexts? rest
      return t :: ts

end Token

/-! ## Plans -/

/-- An export that is asked for. -/
structure Options where
  timeline : Path
  /-- Where the video goes, if anywhere. -/
  output : Option Path
  preload : Bool
  deriving DecidableEq

/-- What arguments ask for. -/
inductive Plan where
  | run (o : Options)
  | help
  | rejected
  deriving DecidableEq

/-- Where the video goes if nothing else is said. -/
def defaultOutput : String := "artifacts/exports/final_video.mp4"

/-- What was read so far. -/
structure Draft where
  timeline : Option String := none
  output : Option String := some defaultOutput
  preload : Bool := false
  /-- Whether there was an argument too many. -/
  surplus : Bool := false

/-- The plan once all arguments are read. -/
def Draft.plan (p : Draft) : Plan :=
  match p.timeline with
  | some timeline =>
    if p.surplus then .rejected
    else .run ⟨.ofText timeline, p.output.map Path.ofText, p.preload⟩
  | none => .rejected

/-- What letters attached to `-h` ask for: each is an option by itself, and the value of `-o`
follows it. -/
def helpWith (next : Option Token) : List Char → Plan
  | 'h' :: [] => .help
  | 'h' :: rest => helpWith next rest
  | 'o' :: [] =>
    match next with
    | some (.value _) => .help
    | _ => .rejected
  | 'o' :: _ => .help
  | _ => .rejected

/-- The file that a value attached to an option names.  Two hyphens by themselves name none. -/
def attachedFile (value : String) : Option String := if value = "--" then none else some value

/-- Reads tokens in order. -/
def readTokens (p : Draft) : List Token → Plan
  | [] => p.plan
  | .switch .output _ (some value) :: rest =>
    readTokens { p with output := attachedFile value } rest
  | .switch .output _ none :: .value value :: rest =>
    readTokens { p with output := some value } rest
  | .switch .output _ none :: _ => .rejected
  | .switch .preload _ none :: rest => readTokens { p with preload := true } rest
  | .switch .preload _ (some _) :: _ => .rejected
  | .switch .help _ none :: _ => .help
  | .switch .help true (some _) :: _ => .rejected
  | .switch .help false (some letters) :: rest => helpWith rest.head? letters.toList
  | .unknown :: rest => readTokens { p with surplus := true } rest
  | .value text :: .separator :: rest =>
    if p.timeline.isNone then readTokens { p with timeline := some text } rest
    else readTokens { p with surplus := true } rest
  | .value text :: rest =>
    if p.timeline.isNone then readTokens { p with timeline := some text } rest
    else readTokens { p with surplus := true } rest
  | .separator :: .value text :: rest =>
    if p.timeline.isNone then readTokens { p with timeline := some text } rest
    else readTokens { p with surplus := true } rest
  | .separator :: rest => readTokens { p with surplus := true } rest

/-- What arguments ask for. -/
def read (arguments : List String) : Plan :=
  match Token.ofTexts? arguments with
  | some tokens => readTokens {} tokens
  | none => .rejected

end Montage.CommandLine
