import Montage.Field.Read

/-!
# Forms

A request to the worker is a form: the videos, the images, the metadata and the size of the canvas.

* `Upload` — a file of a form, in the pieces in which it is read.
* `RawForm` — a form as it is sent; **an empty field counts as missing**.
* `RawForm.decode` — the form, or all that is wrong with it.
* `RawForm.read` — the same after the form itself was found to be in order.
-/

namespace Montage

/-- A file of a form, in pieces.  How it is cut makes no difference to what is stored. -/
structure Upload where
  pieces : List ByteArray
  deriving DecidableEq

namespace Upload

/-- A file is read in pieces of up to so many bytes, so that no file is ever held as a whole. -/
def pieceLimit : Nat := 1024 * 1024

/-- The content of a file from a position on, in at most `count` pieces. -/
def piecesFrom (content : ByteArray) (start : Nat) : (count : Nat) → List ByteArray
  | 0 => []
  | count + 1 =>
    if start < content.size then
      content.extract start (start + pieceLimit) :: piecesFrom content (start + pieceLimit) count
    else []

/-- An upload of a content, cut into pieces as the worker takes them. -/
def ofContent (content : ByteArray) : Upload :=
  ⟨piecesFrom content 0 (content.size / pieceLimit + 1)⟩

end Upload

/-- A form as it is sent: each field may be missing, and numbers are texts. -/
structure RawForm where
  videos : Option (List Upload)
  images : Option (List Upload)
  metadata : Option String
  canvasWidth : Option String
  canvasHeight : Option String

/-- A form that can be worked on: every field that has to be there is, and the canvas is in
numbers. -/
structure Form where
  videos : List Upload
  metadata : String
  canvasWidth : Int
  canvasHeight : Int
  images : List Upload
  deriving DecidableEq

namespace Form

/-- All files in the order of their streams. -/
def uploads (f : Form) : List Upload := f.videos ++ f.images

end Form

namespace RawForm

/-- The path to a field of a form. -/
def fieldPath (name : String) : List Step := [.key "body", .key name]

/-- The problem that a field is not there. -/
def missing {α : Type} (name : String) : Checked α := .bad [⟨fieldPath name, .missing⟩]

/-- The value of a field that must be there and not be empty.  A problem of the value is told under
the path of the field. -/
def required {α : Type} (name : String) (read : String → Checked α) : Option String → Checked α
  | none => missing name
  | some "" => missing name
  | some text => ((read text).under (.key name)).under (.key "body")

/-- The files of a field that must have at least one. -/
def requiredFiles (name : String) : Option (List Upload) → Checked (List Upload)
  | none => missing name
  | some [] => missing name
  | some files => .ok files

/-- Reads the fields of a form; problems of all fields are collected, in their order, and not only
the first. -/
def decode (f : RawForm) : Checked Form :=
  Form.mk
    <$> requiredFiles "videos" f.videos
    <*> required "metadata" .ok f.metadata
    <*> required "canvas_width" Read.wholeOfText f.canvasWidth
    <*> required "canvas_height" Read.wholeOfText f.canvasHeight
    <*> .ok (f.images.getD [])

/-! ## Before anything is looked at -/

/-- So many files may be in a form. -/
def fileLimit : Nat := 1000

/-- So many bytes a text may have in a form with files. -/
def textLimit : Nat := 1024 * 1024

/-- The fields of a form that are texts. -/
def texts (f : RawForm) : List String :=
  [f.metadata, f.canvasWidth, f.canvasHeight].filterMap id

/-- How many files a form brings, whatever their fields. -/
def fileCount (f : RawForm) : Nat := (f.videos.getD []).length + (f.images.getD []).length

end RawForm

/-- Why a form is refused as a whole. -/
inductive FormProblem where
  | longText
  | manyFiles
  deriving DecidableEq

/-- What is said about a form that breaks the limits of forms. -/
def FormProblem.message : FormProblem → String
  | longText => s!"Part exceeded maximum size of {RawForm.textLimit / 1024}KB."
  | manyFiles => s!"Too many files. Maximum number of files is {RawForm.fileLimit}."

/-- What becomes of a form: it can be worked on, it breaks a limit, its fields have problems, or it
cannot be sent at all. -/
inductive FormReading where
  | form (f : Form)
  | refused (problem : FormProblem)
  | malformed (problems : List FieldProblem)
  | broken (fault : Fault)

namespace RawForm

/-- What a form with files must not exceed. -/
def problem? (f : RawForm) : Option FormProblem :=
  if f.fileCount = 0 then none
  else if f.texts.any fun t => textLimit < Text.byteCount t then some .longText
  else if fileLimit < f.fileCount then some .manyFiles
  else none

/-- The form, or why there is none.  Its texts have to be sent as bytes first, then the limits of
forms are checked, and the fields at last. -/
def read (f : RawForm) : FormReading :=
  match f.texts.findSome? fun t => Text.Alphabet.utf8.problem? 0 (Text.codes t.toList) with
  | some p => .broken (.unencodable p)
  | none =>
    match f.problem? with
    | some p => .refused p
    | none =>
      match f.decode with
      | .ok form => .form form
      | .bad problems => .malformed problems
      | .broken fault => .broken fault

end RawForm

end Montage
