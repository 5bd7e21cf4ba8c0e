import Mathlib.Tactic.Common
import Montage.Command

/-!
# The options of a command

What the program reads and what it makes of it is said by its arguments.  An option takes the next
argument for its value, whatever that is, unless it is a switch; so a file name, a graph or a setting
is never taken for an option.  The readers here know nothing of how a command was put together.

* `optionValues` — the values of an option, in order; `inputFiles` — those of `-i`; `filterGraphs` —
  those of `-filter_complex`.
* **`inputFiles_commandArguments`** — the input files of a command are those it was made for, no
  more and no fewer.
* **`filterGraphs_commandArguments`** — it renders one graph, in its serialized form.
-/

namespace Montage

/-- An input file for each clip, and one for each image. -/
lemma Timeline.length_inputNames (t : Timeline) :
    t.inputNames.length = t.clips.length + t.images.length := by
  simp [inputNames, fileNames]

/-! ## Reading arguments -/

/-- The options without a value. -/
def switches : List String := ["-y", "-hide_banner", "-nostats"]

/-- Whether an argument is an option with a value. -/
def takesValue (argument : String) : Bool :=
  argument.toList.head? = some '-' && !switches.contains argument

/-- The values of an option among arguments, in order. -/
def optionValues (name : String) : List String → List String
  | [] => []
  | [_] => []
  | argument :: value :: rest =>
    if takesValue argument then
      if argument = name then value :: optionValues name rest else optionValues name rest
    else optionValues name (value :: rest)

/-- The files that a command reads: the values of the options `-i`, in order. -/
def inputFiles (arguments : List String) : List String := optionValues "-i" arguments

/-- The graphs that a command renders: the values of the options `-filter_complex`. -/
def filterGraphs (arguments : List String) : List String :=
  optionValues "-filter_complex" arguments

section Reading

variable {name argument value : String} {rest : List String}

/-- A switch says nothing about an option. -/
lemma optionValues_of_not_takesValue (h : takesValue argument = false) :
    optionValues name (argument :: rest) = optionValues name rest := by
  cases rest with
  | nil => rfl
  | cons value rest => simp [optionValues, h]

/-- Nor does any other option, whatever its value. -/
lemma optionValues_of_ne (h : takesValue argument = true) (other : argument ≠ name) :
    optionValues name (argument :: value :: rest) = optionValues name rest := by
  simp [optionValues, h, other]

/-- The option itself gives its value. -/
lemma optionValues_self (h : takesValue name = true) :
    optionValues name (name :: value :: rest) = value :: optionValues name rest := by
  simp [optionValues, h]

end Reading

/-! ## The arguments of a rendering -/

section Rendering

variable {name : String} (g : Graph) (inputs : List String) (output : String) (e : Encoding)
  (rest : List String)

/-- What follows the input files: the graph, what is made of it, and the result. -/
def renderingArguments : List String :=
  ["-filter_complex", g.serialize, "-map", bracketed g.outputLabel, "-map", g.audioMap,
    "-c:v", "libx264", "-preset", e.preset, "-crf", toString e.crf,
    "-c:a", "aac", "-b:a", e.audioBitrate, "-movflags", "+faststart", output]

/-- The arguments before the input files say how the program behaves, and nothing else. -/
lemma optionValues_commandArguments (other : name ≠ "-progress") :
    optionValues name (commandArguments g inputs output e)
      = optionValues name (inputArguments inputs ++ renderingArguments g output e) := by
  have overwrites : takesValue "-y" = false := by decide
  have quiet : takesValue "-hide_banner" = false := by decide
  have reports : takesValue "-progress" = true := by decide
  have still : takesValue "-nostats" = false := by decide
  unfold commandArguments
  rw [List.append_assoc, ← renderingArguments]
  cases e.reportProgress with
  | true =>
      simp [progressArguments, optionValues_of_not_takesValue, optionValues_of_ne, overwrites, quiet,
        reports, still, other.symm]
  | false => simp [optionValues_of_not_takesValue, overwrites, quiet]

/-- The input files are the values of `-i` … -/
lemma inputFiles_inputArguments :
    inputFiles (inputArguments inputs ++ rest) = inputs ++ inputFiles rest := by
  have option : takesValue "-i" = true := by decide
  induction inputs with
  | nil => rfl
  | cons file files ih =>
      show optionValues "-i" ("-i" :: file :: (inputArguments files ++ rest)) = _
      rw [optionValues_self option]
      exact congrArg (file :: ·) ih

/-- … and of no other option. -/
lemma optionValues_inputArguments (other : name ≠ "-i") :
    optionValues name (inputArguments inputs ++ rest) = optionValues name rest := by
  have option : takesValue "-i" = true := by decide
  induction inputs with
  | nil => rfl
  | cons file files ih =>
      show optionValues name ("-i" :: file :: (inputArguments files ++ rest)) = _
      rw [optionValues_of_ne option other.symm, ih]

/-- **The input files of a command are those that it was made for**, in order. -/
theorem inputFiles_commandArguments : inputFiles (commandArguments g inputs output e) = inputs := by
  have none : inputFiles (renderingArguments g output e) = [] := by
    have valued : ∀ a ∈ ["-filter_complex", "-map", "-c:v", "-preset", "-crf", "-c:a", "-b:a",
        "-movflags"], takesValue a = true ∧ a ≠ "-i" := by decide
    simp only [List.forall_mem_cons] at valued
    simp [inputFiles, renderingArguments, optionValues, valued]
  have before : inputFiles (commandArguments g inputs output e)
      = inputFiles (inputArguments inputs ++ renderingArguments g output e) :=
    optionValues_commandArguments g inputs output e (by decide)
  rw [before, inputFiles_inputArguments, none, List.append_nil]

/-- **A command renders the graph that it was made for**, and no other. -/
theorem filterGraphs_commandArguments :
    filterGraphs (commandArguments g inputs output e) = [g.serialize] := by
  have one : filterGraphs (renderingArguments g output e) = [g.serialize] := by
    have valued : ∀ a ∈ ["-map", "-c:v", "-preset", "-crf", "-c:a", "-b:a", "-movflags"],
        takesValue a = true ∧ a ≠ "-filter_complex" := by decide
    simp only [List.forall_mem_cons] at valued
    rw [filterGraphs, renderingArguments, optionValues_self (by decide)]
    simp [optionValues, valued]
  have before : filterGraphs (commandArguments g inputs output e)
      = filterGraphs (inputArguments inputs ++ renderingArguments g output e) :=
    optionValues_commandArguments g inputs output e (by decide)
  have after : filterGraphs (inputArguments inputs ++ renderingArguments g output e)
      = filterGraphs (renderingArguments g output e) :=
    optionValues_inputArguments inputs _ (by decide)
  rw [before, after, one]

/-- What is made of them is written to the last argument. -/
lemma getLast?_commandArguments : (commandArguments g inputs output e).getLast? = some output := by
  rw [commandArguments, List.getLast?_append]
  rfl

end Rendering

end Montage
