import Montage.Fault

/-!
# Problems of decoded fields

A payload is read field by field, and **every problem is reported, not only the first**.

* `FieldError` — what is wrong with one value, with its code and its words.
* `FieldProblem` — an error and the path that leads to the value.
* `Checked` — the result of reading: a value, a list of problems, or a fault that ends the reading.

`Checked` is applicative: problems of independent parts are collected in order; a fault outweighs
them all.
-/

namespace Montage

/-- A step from a value into one of its parts. -/
inductive Step where
  | key (name : String)
  | index (i : Nat)
  deriving DecidableEq

/-- What is wrong with a value. -/
inductive FieldError where
  | missing
  | notObject (model : String)
  | notList
  | notText
  | notUnicode
  | emptyText
  | badColor
  | notInteger
  | badInteger
  | integerTooLong
  | fractional
  | notFinite
  | notPositive
  | notNumber
  | badNumber
  | negative
  | badWindow (finish start : Binary64)
  | pixelNotNumber
  | badEnvironment
  | badBoolean
  | notBoolean
  deriving DecidableEq

namespace FieldError

/-- The short code of an error. -/
def code : FieldError → String
  | missing => "missing"
  | notObject _ => "model_type"
  | notList => "tuple_type"
  | notText => "string_type"
  | notUnicode => "string_unicode"
  | emptyText => "string_too_short"
  | badColor => "string_pattern_mismatch"
  | notInteger => "int_type"
  | badInteger => "int_parsing"
  | integerTooLong => "int_parsing_size"
  | fractional => "int_from_float"
  | notFinite => "finite_number"
  | notPositive => "greater_than"
  | notNumber => "float_type"
  | badNumber => "float_parsing"
  | negative => "greater_than_equal"
  | badWindow .. => "value_error"
  | pixelNotNumber => "value_error"
  | badEnvironment => "literal_error"
  | badBoolean => "bool_parsing"
  | notBoolean => "bool_type"

/-- What is said about a field. -/
def message : FieldError → String
  | missing => "Field required"
  | notObject model => "Input should be a valid dictionary or instance of " ++ model
  | notList => "Input should be a valid tuple"
  | notText => "Input should be a valid string"
  | notUnicode => "Input should be a valid string, unable to parse raw data as a unicode string"
  | emptyText => "String should have at least 1 character"
  | badColor => "String should match pattern '^#?[0-9A-Fa-f]\x7b6\x7d$'"
  | notInteger => "Input should be a valid integer"
  | badInteger => "Input should be a valid integer, unable to parse string as an integer"
  | integerTooLong => "Unable to parse input string as an integer, exceeded maximum size"
  | fractional => "Input should be a valid integer, got a number with a fractional part"
  | notFinite => "Input should be a finite number"
  | notPositive => "Input should be greater than 0"
  | notNumber => "Input should be a valid number"
  | badNumber => "Input should be a valid number, unable to parse string as a number"
  | negative => "Input should be greater than or equal to 0"
  | badWindow finish start =>
    s!"Value error, endTime ({finish}) must be greater than startTime ({start})"
  | pixelNotNumber => "Value error, " ++ Fault.notANumber.message
  | badEnvironment => "Input should be 'dev', 'staging' or 'prod'"
  | badBoolean => "Input should be a valid boolean, unable to interpret input"
  | notBoolean => "Input should be a valid boolean"

end FieldError

/-- An error and the path to the value that has it. -/
structure FieldProblem where
  path : List Step
  error : FieldError
  deriving DecidableEq

/-- The result of reading a value. -/
inductive Checked (α : Type) where
  | ok (a : α)
  | bad (problems : List FieldProblem)
  | broken (fault : Fault)

namespace Checked

variable {α β : Type}

/-- What was read, as something else. -/
def map (f : α → β) : Checked α → Checked β
  | ok a => ok (f a)
  | bad ps => bad ps
  | broken e => broken e

/-- Two independent readings: a fault outweighs problems, and problems add up in order. -/
def seq : Checked (α → β) → Checked α → Checked β
  | broken e, _ => broken e
  | _, broken e => broken e
  | bad ps, bad qs => bad (ps ++ qs)
  | bad ps, ok _ => bad ps
  | ok _, bad qs => bad qs
  | ok f, ok a => ok (f a)

instance : Applicative Checked where
  pure := ok
  seq f x := seq f (x ())

/-- A reading that needs the value of the one before. -/
def andThen (x : Checked α) (f : α → Checked β) : Checked β :=
  match x with
  | ok a => f a
  | bad ps => bad ps
  | broken e => broken e

/-- One error with the value itself. -/
def error (e : FieldError) : Checked α := bad [⟨[], e⟩]

/-- The same reading as part of a larger value. -/
def under (step : Step) : Checked α → Checked α
  | bad ps => bad (ps.map fun p => { p with path := step :: p.path })
  | x => x

/-- The reading of every item of a list, problems collected in order; `first` is the index of the
first item. -/
def all (read : β → Checked α) (first : Nat) : List β → Checked (List α)
  | [] => ok []
  | j :: rest => List.cons <$> (read j).under (.index first) <*> all read (first + 1) rest

end Checked

end Montage
