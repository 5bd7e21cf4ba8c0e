import Mathlib.Data.List.Forall2
import Mathlib.Tactic.Common
import Montage.Field.Read

/-!
# When a reading succeeds

A reading of many parts succeeds when each part does.  The lemmas here say so for every way in which
readings are put together, in both directions at once.

* `Checked.seq_eq_ok`, `Checked.fmap_eq_ok`, `Checked.andThen_eq_ok` — the combinators.
* **`Checked.all_eq_ok`** — the items of a list.
* `FieldName.required_eq_ok`, `FieldName.optional_eq_ok` — the fields of an object.
-/

namespace Montage

namespace Checked

variable {α β γ : Type}

lemma seq_eq_ok {f : Checked (α → β)} {x : Checked α} {b : β} :
    (f <*> x) = ok b ↔ ∃ g a, f = ok g ∧ x = ok a ∧ g a = b := by
  change seq f x = ok b ↔ _
  cases f <;> cases x <;> simp [seq]

lemma fmap_eq_ok {f : α → β} {x : Checked α} {b : β} :
    (f <$> x) = ok b ↔ ∃ a, x = ok a ∧ f a = b := by
  change seq (ok f) x = ok b ↔ _
  cases x <;> simp [seq]

lemma andThen_eq_ok {x : Checked α} {f : α → Checked β} {b : β} :
    x.andThen f = ok b ↔ ∃ a, x = ok a ∧ f a = ok b := by
  cases x <;> simp [andThen]

@[simp] lemma under_eq_ok {step : Step} {x : Checked α} {a : α} :
    x.under step = ok a ↔ x = ok a := by
  cases x <;> simp [under]

@[simp] lemma error_ne_ok {e : FieldError} {a : α} : error e ≠ ok a := nofun

/-- A list is read when each of its items is. -/
lemma all_eq_ok {read : β → Checked α} {first : Nat} {js : List β} {as : List α} :
    all read first js = ok as ↔ List.Forall₂ (fun j a => read j = ok a) js as := by
  induction js generalizing first as with
  | nil => simp [all, eq_comm]
  | cons j rest ih =>
      simp only [all, seq_eq_ok, fmap_eq_ok, under_eq_ok, ih, List.forall₂_cons_left_iff]
      constructor
      · rintro ⟨_, as, ⟨a, ha, rfl⟩, has, rfl⟩
        exact ⟨a, as, ha, has, rfl⟩
      · rintro ⟨a, as, ha, has, rfl⟩
        exact ⟨_, as, ⟨a, ha, rfl⟩, has, rfl⟩

end Checked

namespace FieldName

open Checked

variable {α : Type} {name : FieldName} {read : Json → Checked α} {ms : List (String × Json)}

/-- A field that must be there was there and was read. -/
lemma required_eq_ok {a : α} (h : name.required read ms = ok a) : ∃ j, read j = ok a := by
  unfold required at h
  split at h
  · exact ⟨_, under_eq_ok.mp h⟩
  · cases h

/-- A field that may be left out was read or has its default. -/
lemma optional_eq_ok {a default : α} (h : name.optional read default ms = ok a) :
    (∃ j, read j = ok a) ∨ a = default := by
  unfold optional at h
  split at h
  · exact .inl ⟨_, under_eq_ok.mp h⟩
  · exact .inr (by cases h; rfl)

/-- A field under its main name. -/
lemma required_of_lookup {j : Json} (h : Json.lookup name.main ms = some j) {a : α}
    (ha : read j = ok a) : name.required read ms = ok a := by
  rw [required, find?, h]
  exact under_eq_ok.mpr ha

lemma optional_of_lookup {j : Json} (h : Json.lookup name.main ms = some j) {a default : α}
    (ha : read j = ok a) : name.optional read default ms = ok a := by
  rw [optional, find?, h]
  exact under_eq_ok.mpr ha

end FieldName

end Montage
