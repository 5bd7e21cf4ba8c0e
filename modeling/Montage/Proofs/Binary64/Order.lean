import Mathlib.Tactic.Common
import Montage.Binary64.Basic

/-!
# The order of binary64 numbers

Any two numbers compare; a not-a-number compares with nothing, so "not at most" and "greater" part
ways there and nowhere else.

* `compare?_eq_none` — when there is no comparison.
* `compare?_swap` — comparing the other way round.
* **`le_eq_false`** — what a comparison that fails says.
-/

namespace Montage.Binary64

/-- A comparison is missing when one side is not a number. -/
lemma compare?_eq_none {x y : Binary64} :
    compare? x y = none ↔ x.isNan = true ∨ y.isNan = true := by
  cases x <;> cases y <;> simp [compare?, isNan]

/-- The other way round the comparison is the other way round. -/
lemma compare?_swap (x y : Binary64) : compare? y x = (compare? x y).map Ordering.swap := by
  cases x with
  | nan => cases y <;> rfl
  | infinite a =>
      cases y with
      | nan => rfl
      | infinite b => cases a <;> cases b <;> rfl
      | finite t n grid => cases a <;> rfl
  | finite s m grid =>
      cases y with
      | nan => rfl
      | infinite b => cases b <;> rfl
      | finite t n other =>
          show some (compare (signedUnits t n) (signedUnits s m))
            = some (compare (signedUnits s m) (signedUnits t n)).swap
          rw [Int.compare_swap]

lemma lt_eq_true {x y : Binary64} : lt x y = true ↔ compare? x y = some .lt := by
  unfold lt
  rw [beq_iff_eq]

/-- What is greater than a number is a number. -/
lemma not_isNan_of_lt {x y : Binary64} (h : lt x y = true) :
    x.isNan = false ∧ y.isNan = false := by
  rw [lt_eq_true] at h
  have : compare? x y ≠ none := by
    rw [h]
    nofun
  rw [Ne, compare?_eq_none] at this
  simpa using this

lemma not_isNan_of_le {x y : Binary64} (h : le x y = true) : x.isNan = false ∧ y.isNan = false := by
  have : compare? x y ≠ none := by
    intro missing
    simp [le, missing] at h
  rw [Ne, compare?_eq_none] at this
  simpa using this

/-- **"Not at most" says "greater", or that there is nothing to compare.** -/
lemma le_eq_false {x y : Binary64} :
    le x y = false ↔ lt y x = true ∨ x.isNan = true ∨ y.isNan = true := by
  rw [lt_eq_true, compare?_swap x y, ← compare?_eq_none]
  cases h : compare? x y with
  | none => simp [le, h]
  | some order => cases order <;> simp [le, h]

/-- What is less is not at least. -/
lemma le_eq_false_of_lt {x y : Binary64} (less : lt x y = true) : le y x = false :=
  le_eq_false.mpr (.inl less)

/-- What is at most is not greater. -/
lemma lt_eq_false_of_le {x y : Binary64} (most : le x y = true) : lt y x = false := by
  by_contra greater
  rw [Bool.not_eq_false] at greater
  rw [le_eq_false_of_lt greater] at most
  cases most

/-- Among numbers, "not at most" says "greater". -/
lemma lt_iff_of_le_eq_false {x y : Binary64} (number : y.isNan = false) (h : le x y = false) :
    lt y x = true ↔ x.isNan = false := by
  constructor
  · intro less
    exact (not_isNan_of_lt less).2
  · intro other
    rcases le_eq_false.mp h with less | missing | missing
    · exact less
    · rw [other] at missing
      cases missing
    · rw [number] at missing
      cases missing

end Montage.Binary64
