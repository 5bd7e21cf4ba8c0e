import Mathlib.Tactic.Common
import Montage.Proofs.Binary64.Rounding
import Montage.Proofs.Field.Checked

/-!
# What breaks a reading

A reading that breaks reports no problem: its fault comes out as it is.  Which fault that is, is
computed here from the parts, for every way in which readings are put together.  Of all kinds of
fields only a pixel breaks, and only where it is infinite.

* `Checked.fault?` — the fault of a reading that broke.
* `Checked.fault?_seq`, `Checked.fault?_all`, … — the first fault of the parts is the fault of the
  whole.
* `Json.isInfinite` — an infinity, written as a number or in words.
* **`Read.fault?_pixel`** — a pixel breaks exactly when it is infinite.
-/

namespace Montage

/-! ## Readings of many parts -/

namespace Checked

variable {α β : Type}

/-- The fault of a reading that broke. -/
def fault? : Checked α → Option Fault
  | broken f => some f
  | _ => none

/-- A value that was read broke nothing. -/
@[simp] lemma fault?_ok (a : α) : (ok a).fault? = none := rfl

/-- Problems are told; they break nothing … -/
@[simp] lemma fault?_bad (ps : List FieldProblem) : (bad ps : Checked α).fault? = none := rfl

/-- … unlike a fault. -/
@[simp] lemma fault?_broken (f : Fault) : (broken f : Checked α).fault? = some f := rfl

@[simp] lemma fault?_error (e : FieldError) : (error e : Checked α).fault? = none := rfl

/-- Of two things that are read, the first that breaks is the fault. -/
@[simp] lemma fault?_seq (f : Checked (α → β)) (x : Checked α) :
    (f <*> x).fault? = f.fault?.or x.fault? := by
  change (seq f x).fault? = _
  cases f <;> cases x <;> rfl

@[simp] lemma fault?_fmap (f : α → β) (x : Checked α) : (f <$> x).fault? = x.fault? := by
  change (seq (ok f) x).fault? = _
  cases x <;> rfl

@[simp] lemma fault?_map (f : α → β) (x : Checked α) : (x.map f).fault? = x.fault? := by
  cases x <;> rfl

/-- Where a problem is does not matter for faults. -/
@[simp] lemma fault?_under (step : Step) (x : Checked α) : (x.under step).fault? = x.fault? := by
  cases x <;> rfl

/-- A check that never breaks adds no fault. -/
lemma fault?_andThen {f : α → Checked β} (check : ∀ a, (f a).fault? = none) (x : Checked α) :
    (x.andThen f).fault? = x.fault? := by
  cases x with
  | ok a => exact check a
  | bad ps => rfl
  | broken e => rfl

/-- A list breaks where its first broken item does. -/
@[simp] lemma fault?_all (read : β → Checked α) (first : Nat) (js : List β) :
    (all read first js).fault? = js.findSome? fun j => (read j).fault? := by
  induction js generalizing first with
  | nil => rfl
  | cons j rest ih =>
      rw [all, fault?_seq, fault?_fmap, fault?_under, ih, List.findSome?_cons]
      cases (read j).fault? <;> rfl

end Checked

namespace FieldName

open Checked

variable {α : Type}

/-- A field breaks the reading only if it is there and what stands in it breaks it. -/
@[simp] lemma fault?_required (name : FieldName) (read : Json → Checked α)
    (ms : List (String × Json)) :
    (name.required read ms).fault? = (name.find? ms).bind fun found => (read found.2).fault? := by
  unfold required
  cases name.find? ms with
  | none => rfl
  | some found => exact fault?_under _ _

/-- So does one with a default. -/
@[simp] lemma fault?_optional (name : FieldName) (read : Json → Checked α) (default : α)
    (ms : List (String × Json)) :
    (name.optional read default ms).fault?
      = (name.find? ms).bind fun found => (read found.2).fault? := by
  unfold optional
  cases name.find? ms with
  | none => rfl
  | some found => exact fault?_under _ _

end FieldName

/-! ## Rounding to a pixel -/

namespace Binary64

/-- Whether a number is infinite, with either sign. -/
def isInfinite : Binary64 → Bool
  | infinite _ => true
  | _ => false

/-- One half is small enough to be added to any finite number. -/
lemma within_half : Within (twoTo 2043) half := by
  obtain ⟨s, n, grid, eq, small⟩ := Within.half
  rw [one] at small
  have room := Within.four_twoTo_lt 1074
  have less : twoTo (1074 + 3) ≤ twoTo 2043 := twoTo_le (by decide)
  exact ⟨s, n, grid, eq, by omega⟩

/-- **A number has a nearest integer exactly when it is finite.** -/
lemma roundHalfUp_cases (x : Binary64) :
    (∃ i, x.roundHalfUp = .ok i ∧ x.isFinite = true)
      ∨ (x.roundHalfUp = .error .notANumber ∧ x.isNan = true)
      ∨ x.roundHalfUp = .error .infiniteNumber ∧ x.isInfinite = true := by
  cases x with
  | nan => exact .inr (.inl ⟨rfl, rfl⟩)
  | infinite s =>
      obtain ⟨t, n, grid, eq, -⟩ := within_half
      refine .inr (.inr ⟨?_, rfl⟩)
      rw [roundHalfUp, eq]
      rfl
  | finite s n grid =>
      have finite_sum : (finite s n grid + half).isFinite = true := isFinite_add rfl within_half
      obtain ⟨t, m, other, eq⟩ := isFinite_eq_true.mp finite_sum
      refine .inl ⟨floorUnits t m, ?_, rfl⟩
      rw [roundHalfUp, eq]
      rfl

end Binary64

/-- The fault of an infinity where an integer is needed. -/
def infinityIf (infinite : Bool) : Option Fault := if infinite then some .infiniteNumber else none

/-- An infinity, written as a number or as a numeral in a text. -/
def Json.isInfinite : Json → Bool
  | .num x => x.isInfinite
  | .str s => (Text.Numeral.number? s.toList).any Binary64.isInfinite
  | _ => false

namespace Read

open Checked

/-- Rounding breaks at infinity only. -/
lemma fault?_roundedPixel (x : Binary64) : (roundedPixel x).fault? = infinityIf x.isInfinite := by
  unfold roundedPixel
  rcases x.roundHalfUp_cases with ⟨i, eq, finite⟩ | ⟨eq, nan⟩ | ⟨eq, infinite⟩
  · rw [eq]
    cases x with
    | finite => rfl
    | nan => cases finite
    | infinite => cases finite
  · rw [eq]
    cases x with
    | nan => rfl
    | finite => cases nan
    | infinite => cases nan
  · rw [eq, infinite]
    rfl

/-- A text that is only looked up breaks nothing. -/
lemma fault?_looked {α : Type} {read : String → Checked α} (h : ∀ s, (read s).fault? = none)
    (s : String) : (looked read s).fault? = none := by
  unfold looked
  split
  · rfl
  · exact h s

/-- Neither does a numeral. -/
lemma fault?_plainInteger (negative : Bool) (cs : List Char) :
    (plainInteger negative cs).fault? = none := by
  unfold plainInteger
  split
  · rfl
  · split <;> rfl

@[simp] lemma fault?_wholeOfText (s : String) : (wholeOfText s).fault? = none := by
  refine fault?_looked (fun s => ?_) s
  split
  · rfl
  · split
    · exact fault?_plainInteger _ _
    · exact fault?_plainInteger _ _

/-- **A pixel breaks exactly when it is infinite.** -/
lemma fault?_pixel (j : Json) : (pixel j).fault? = infinityIf j.isInfinite := by
  cases j with
  | num x => exact fault?_roundedPixel x
  | str s =>
      simp only [pixel, Json.isInfinite]
      cases h : Text.Numeral.number? s.toList with
      | none => exact fault?_wholeOfText s
      | some x =>
          cases x with
          | nan => exact fault?_wholeOfText s
          | infinite s => exact fault?_roundedPixel _
          | finite s n grid => exact fault?_roundedPixel _
  | null => rfl
  | bool b => rfl
  | int i => rfl
  | arr items => rfl
  | obj members => rfl

/-- A check of the sign breaks nothing. -/
lemma fault?_positive (x : Checked Int) : (positive x).fault? = x.fault? :=
  fault?_andThen (fun i => by split <;> rfl) x

/-- A size that may be missing breaks the reading at infinity only. -/
lemma fault?_optionalSize (j : Json) : (optionalSize j).fault? = infinityIf j.isInfinite := by
  unfold optionalSize
  split
  · rfl
  · rw [fault?_map, fault?_positive, fault?_pixel]

end Read

end Montage
