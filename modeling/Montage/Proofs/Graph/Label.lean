import Mathlib.Tactic.Common
import Montage.Graph.Compile
import Montage.Proofs.Text.Decimal

/-!
# Labels never collide

A graph is wired by texts, so two pictures with the same label would be one picture.  The labels of
a graph come from eight families, seven for the pictures that nodes make and one for the streams
that come in; five of the seven and the streams are numbered without a bound.

* `Mark` — a family and a number; `Mark.label` — its text.
* `Mark.stem` — what stands before the number.  It can be read off a label, because no stem has a
  digit (`takeWhile_label`).
* **`Mark.label_injective`** — different marks have different labels.
-/

namespace Montage

/-- What a label stands for. -/
inductive Mark where
  /-- The picture of an input file, before anything was done to it. -/
  | stream (index : Nat)
  | base
  | scaledClip (index : Nat)
  | clip (index : Nat)
  | scaledImage (index : Nat)
  | image (index : Nat)
  | text (index : Nat)
  | terminal
  deriving DecidableEq

namespace Mark

/-- The text of a mark. -/
def label : Mark → String
  | stream i => Label.stream i
  | base => Label.base
  | scaledClip i => Label.scaledClip i
  | clip i => Label.clip i
  | scaledImage i => Label.scaledImage i
  | image i => Label.image i
  | text i => Label.text i
  | terminal => terminalLabel

/-- What stands before the number of a label. -/
def stem : Mark → String
  | stream _ => ""
  | base => "base"
  | scaledClip _ => "scaled_v"
  | clip _ => "v"
  | scaledImage _ => "scaled_img"
  | image _ => "img"
  | text _ => "txt"
  | terminal => "outv"

/-- The number of a label; unnumbered labels have none. -/
def number? : Mark → Option Nat
  | stream i | scaledClip i | clip i | scaledImage i | image i | text i => some i
  | base | terminal => none

/-- What stands after the number of a label. -/
def ending : Mark → String
  | stream _ => ":v"
  | _ => ""

/-- A stem, a number and an ending: the shape of every label. -/
lemma toList_label (m : Mark) :
    m.label.toList
      = m.stem.toList ++ ((m.number?.map (Nat.toDigits 10)).getD [] ++ m.ending.toList) := by
  cases m <;>
    simp [label, stem, number?, ending, Label.stream, Label.base, Label.scaledClip, Label.clip,
      Label.scaledImage, Label.image, Label.text, terminalLabel, toString]

/-- **The stem can be read off a label**: it ends where the first digit stands. -/
lemma takeWhile_label (m : Mark) :
    m.label.toList.takeWhile (fun c => !c.isDigit) = m.stem.toList := by
  have letters : ∀ c ∈ m.stem.toList, (!c.isDigit) = true := by
    cases m <;> simp [stem]
  rw [toList_label, List.takeWhile_append_of_pos letters]
  cases m with
  | base => simp [number?, ending]
  | terminal => simp [number?, ending]
  | _ i =>
      obtain ⟨c, cs, hc, hd⟩ := exists_toDigits_eq_cons i
      simp [number?, hc, hd]

lemma stem_eq_of_label_eq {m n : Mark} (h : m.label = n.label) : m.stem = n.stem := by
  have := congrArg (fun s : String => s.toList.takeWhile fun c => !c.isDigit) h
  simp only [takeWhile_label] at this
  exact String.toList_injective this

/-- **Different marks have different labels.** -/
theorem label_injective {m n : Mark} (h : m.label = n.label) : m = n := by
  have hs := stem_eq_of_label_eq h
  have hl := congrArg String.toList h
  rw [toList_label, toList_label, hs, List.append_cancel_left_eq] at hl
  cases m <;> cases n <;>
    simp_all [stem, number?, ending] <;> exact toDigits_injective (by assumption)

end Mark

end Montage
