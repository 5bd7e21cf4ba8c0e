import Montage.Address.NameTable
import Montage.Address.Punycode
import Montage.Text.Composed
import Montage.Text.Quoted

/-!
# Names of hosts

A name is a row of labels between dots.  In any script but ASCII it is checked label by label and
travels in an ASCII form, and a name in that form can be read again.

* `Name.encode` — the ASCII form of a name.
* `Name.decode` — the name of an ASCII form.
* `NameProblem` — why a name is refused.

A label is composed text, hyphens stand inside it only, and its characters are name characters in
surroundings that suit them.  A label with letters that run from right to left **holds no letter of
the other direction**, and its numbers are of one kind.
-/

namespace Montage

/-- Why a name is refused. -/
inductive NameProblem where
  | longName
  | emptyName
  | longLabel
  | emptyLabel
  | noContent
  | finalHyphen
  | unreadable
  | notComposed
  | doubleHyphen
  | outerHyphen
  | leadingMark
  | forbidden (code place : Nat) (label : List Nat)
  | strayJoiner (code place : Nat) (label : List Nat)
  | outOfContext (code place : Nat) (label : List Nat)
  | noDirection (place : Nat) (label : List Nat)
  | badStart (label : List Nat)
  | wrongDirection (place : Nat) (rightToLeft : Bool)
  | mixedNumbers
  | badEnd
  deriving DecidableEq

namespace NameProblem

/-- A code point in at least four hexadecimal digits. -/
def codeText (n : Nat) : String :=
  let digits := (Nat.toDigits 16 n).map Char.toUpper
  "U+" ++ String.ofList (List.replicate (4 - digits.length) '0' ++ digits)

/-- What is said about a name that cannot be looked up. -/
def message : NameProblem → String
  | longName => "Domain too long"
  | emptyName => "Empty domain"
  | longLabel => "Label too long"
  | emptyLabel => "Empty Label"
  | noContent => "Malformed A-label, no Punycode eligible content found"
  | finalHyphen => "A-label must not end with a hyphen"
  | unreadable => "Invalid A-label"
  | notComposed => "Label must be in Normalization Form C"
  | doubleHyphen => "Label has disallowed hyphens in 3rd and 4th position"
  | outerHyphen => "Label must not start or end with a hyphen"
  | leadingMark => "Label begins with an illegal combining character"
  | forbidden n place label =>
    s!"Codepoint {codeText n} at position {place} of {Text.quotedCodes label} not allowed"
  | strayJoiner n place label =>
    s!"Unknown codepoint adjacent to joiner {codeText n} at position {place} in "
      ++ Text.quotedCodes label
  | outOfContext n place label =>
    s!"Codepoint {codeText n} not allowed at position {place} in {Text.quotedCodes label}"
  | noDirection place label =>
    s!"Unknown directionality in label {Text.quotedCodes label} at position {place}"
  | badStart label =>
    s!"First codepoint in label {Text.quotedCodes label} must be directionality L, R or AL"
  | wrongDirection place rightToLeft =>
    let kind := if rightToLeft then "right-to-left" else "left-to-right"
    s!"Invalid direction for codepoint at position {place} in a {kind} label"
  | mixedNumbers => "Can not mix numeral types in a right-to-left label"
  | badEnd => "Label ends with illegal codepoint directionality"

end NameProblem

namespace Name

/-! ## Surroundings -/

/-- Whether the next letter, transparent characters left out, joins in one of two ways. -/
def meets (a b : Joining) (ns : List Nat) : Bool :=
  match (ns.map joining).find? (· ≠ some .transparent) with
  | some kind => kind = some a || kind = some b
  | none => false

/-- Whether a joiner suits its surroundings; `before` is in reverse.  It may follow a mark that
takes the vowel away, and one that keeps letters apart may stand between letters that would join. -/
def suitsJoiner (n : Nat) (before after : List Nat) : Bool :=
  match before with
  | [] => false
  | previous :: _ =>
    let cls := Text.combiningClass previous
    cls == Text.viramaClass
      || (n == nonJoiner && (cls ≠ 0 || (Direction.of? previous).isSome)
        && meets .left .both before && meets .right .both after)

/-- Whether a character that needs it has the right surroundings; `before` is in reverse. -/
def suitsContext (n : Nat) (label before after : List Nat) : Bool :=
  if n = middleDot then before.head? = some 'l'.toNat && after.head? = some 'l'.toNat
  else if n = numeralSign then after.head?.any isGreek
  else if n = geresh || n = gershayim then before.head?.any isHebrew
  else if n = katakanaDot then label.any isEastAsian
  else if isArabicDigit n then !label.any isEasternDigit
  else !label.any isArabicDigit

/-- Each character of a label where it stands; `before` is in reverse. -/
def checkCodes (label before : List Nat) : List Nat → Except NameProblem Unit
  | [] => .ok ()
  | n :: rest =>
    let place := before.length + 1
    if isPlain n then checkCodes label (n :: before) rest
    else if isJoiner n then
      if suitsJoiner n before rest then checkCodes label (n :: before) rest
      else .error (.strayJoiner n place label)
    else if needsContext n then
      if suitsContext n label before rest then checkCodes label (n :: before) rest
      else .error (.outOfContext n place label)
    else .error (.forbidden n place label)

/-! ## Directions -/

/-- The directions of a label, every character having one. -/
def directions (label : List Nat) (place : Nat) : List Nat → Except NameProblem (List Direction)
  | [] => .ok []
  | n :: rest =>
    match Direction.of? n with
    | none => .error (.noDirection place label)
    | some d => do return d :: (← directions label (place + 1) rest)

/-- Whether a direction belongs to labels that run from right to left. -/
def turnsLabel : Direction → Bool
  | .rightToLeft | .arabic | .arabicNumber => true
  | _ => false

/-- Whether a character may stand in a label of one direction. -/
def mayStand (rightToLeft : Bool) : Direction → Bool
  | .leftToRight => !rightToLeft
  | .rightToLeft | .arabic | .arabicNumber => rightToLeft
  | _ => true

/-- Whether a character may be the last one, marks apart. -/
def mayEnd (rightToLeft : Bool) : Direction → Bool
  | .leftToRight => !rightToLeft
  | .rightToLeft | .arabic | .arabicNumber => rightToLeft
  | .europeanNumber => true
  | _ => false

/-- Whether a direction is one of digits. -/
def isNumber (d : Direction) : Bool := d = .europeanNumber || d = .arabicNumber

/-- Each direction of a label; `numbers` is the kind of number that occurred. -/
def checkDirections (rightToLeft : Bool) (numbers : Option Direction) (place : Nat) :
    List Direction → Except NameProblem Unit
  | [] => .ok ()
  | d :: rest =>
    if !mayStand rightToLeft d then .error (.wrongDirection place rightToLeft)
    else if rightToLeft && isNumber d then
      if numbers.any (· ≠ d) then .error .mixedNumbers
      else checkDirections rightToLeft (some d) (place + 1) rest
    else checkDirections rightToLeft numbers (place + 1) rest

/-- A label in which something runs from right to left. -/
def checkTurned (label : List Nat) (ds : List Direction) : Except NameProblem Unit := do
  let rightToLeft ← match ds.head? with
    | some .leftToRight => pure false
    | some .rightToLeft => pure true
    | some .arabic => pure true
    | _ => .error (.badStart label)
  checkDirections rightToLeft none 1 ds
  match ds.reverse.find? (· ≠ .mark) with
  | some d => if mayEnd rightToLeft d then pure () else .error .badEnd
  | none => .error .badEnd

/-! ## Labels -/

/-- So many characters make up a name, a dot at the end apart. -/
def nameLimit : Nat := 253

/-- How many characters a label of a name may have. -/
def labelLimit : Nat := 63

/-- The sign that no label may end with. -/
def hyphen : Nat := '-'.toNat

/-- Whether a label is one. -/
def checkLabel (label : List Nat) : Except NameProblem Unit := do
  if label.isEmpty then .error .emptyLabel
  if !Text.isComposed label then .error .notComposed
  if (label.drop 2).take 2 = [hyphen, hyphen] then .error .doubleHyphen
  if label.head? = some hyphen || label.getLast? = some hyphen then .error .outerHyphen
  if label.head?.any Text.isMark then .error .leadingMark
  checkCodes label [] label
  let ds ← directions label 1 label
  if ds.any turnsLabel then checkTurned label ds

/-- How the ASCII form of a label begins. -/
def leading : List Char := "xn--".toList

/-- The label of an ASCII form; a label without that beginning stands for itself. -/
def decodeLabel (cs : List Char) : Except NameProblem (List Nat) := do
  let cs := cs.map Char.toLower
  if leading.isPrefixOf cs then
    let content := cs.drop leading.length
    if content.isEmpty then .error .noContent
    if content.getLast? = some '-' then .error .finalHyphen
    match Punycode.decode? content with
    | none => .error .unreadable
    | some label => do
      checkLabel label
      return label
  else
    let label := cs.map Char.toNat
    checkLabel label
    return label

/-- The ASCII form of a label. -/
def encodeLabel (label : List Nat) : Except NameProblem (List Char) := do
  let form ← if label.all (· < Punycode.firstOther) then do
      let form := label.map Char.ofNat
      let _ ← decodeLabel form
      pure form
    else do
      checkLabel label
      pure (leading ++ Punycode.encode label)
  if labelLimit < form.length then .error .longLabel
  return form

/-! ## Names -/

/-- The dots between labels, in all their forms. -/
def isDot (n : Nat) : Bool := n = '.'.toNat || n = 0x3002 || n = 0xFF0E || n = 0xFF61

/-- The labels between dots; one more than there are dots. -/
def labelsOf : List Nat → List (List Nat)
  | [] => [[]]
  | n :: rest =>
    if isDot n then [] :: labelsOf rest
    else match labelsOf rest with
      | label :: labels => (n :: label) :: labels
      | [] => [[n]]

/-- The labels of a name, and whether a dot follows the last one. -/
def split (name : List Nat) : Except NameProblem (List (List Nat) × Bool) := do
  if nameLimit + 1 < name.length then .error .longName
  let labels := labelsOf name
  if labels = [[]] then .error .emptyName
  return if labels.getLast? = some [] then (labels.dropLast, true) else (labels, false)

/-- The ASCII form of a name. -/
def encode (name : List Nat) : Except NameProblem (List Char) := do
  let (labels, dotted) ← split name
  let forms ← labels.mapM encodeLabel
  let text := ['.'].intercalate (if dotted then forms ++ [[]] else forms)
  if (if dotted then nameLimit + 1 else nameLimit) < text.length then .error .longName
  return text

/-- The name of an ASCII form. -/
def decode (text : List Char) : Except NameProblem (List Nat) := do
  let (labels, dotted) ← split (text.map Char.toNat)
  let names ← labels.mapM fun label => decodeLabel (label.map Char.ofNat)
  return ['.'.toNat].intercalate (if dotted then names ++ [[]] else names)

end Name

end Montage
