import Mathlib.Tactic.Common
import Montage.Json.Basic

/-!
# Equality of JSON values

A value holds lists of values, so whether two values are the same is found out for values, for lists
and for members together.

* `Json.same` — the comparison.
* `Json.same_iff` — **it tells equality**, which is decidable therefore.
-/

namespace Montage.Json

mutual

/-- Whether two values are the same, decided by going through both at once.  No equality can be
derived for values that hold lists of values, so it is written down here for values, lists and
members. -/
def same : Json → Json → Bool
  | null, null => true
  | bool a, bool b => a == b
  | int a, int b => a == b
  | num a, num b => a == b
  | str a, str b => a == b
  | arr as, arr bs => sameItems as bs
  | obj as, obj bs => sameMembers as bs
  | _, _ => false

/-- Whether two arrays have the same items. -/
def sameItems : List Json → List Json → Bool
  | [], [] => true
  | a :: as, b :: bs => same a b && sameItems as bs
  | _, _ => false

/-- Whether two objects have the same members in the same order. -/
def sameMembers : List (String × Json) → List (String × Json) → Bool
  | [], [] => true
  | (k, a) :: as, (l, b) :: bs => k == l && same a b && sameMembers as bs
  | _, _ => false

end

mutual

lemma same_iff : ∀ {a b : Json}, same a b = true ↔ a = b
  | arr as, arr bs => by rw [same, sameItems_iff, arr.injEq]
  | obj as, obj bs => by rw [same, sameMembers_iff, obj.injEq]
  | null, b => by cases b <;> simp [same]
  | bool _, b => by cases b <;> simp [same]
  | int _, b => by cases b <;> simp [same]
  | num _, b => by cases b <;> simp [same]
  | str _, b => by cases b <;> simp [same]
  | arr _, null | arr _, bool _ | arr _, int _ | arr _, num _ | arr _, str _ | arr _, obj _ => by
    simp [same]
  | obj _, null | obj _, bool _ | obj _, int _ | obj _, num _ | obj _, str _ | obj _, arr _ => by
    simp [same]

lemma sameItems_iff : ∀ {as bs : List Json}, sameItems as bs = true ↔ as = bs
  | [], [] => by simp [sameItems]
  | [], _ :: _ => by simp [sameItems]
  | _ :: _, [] => by simp [sameItems]
  | a :: as, b :: bs => by
    rw [sameItems, Bool.and_eq_true, same_iff, sameItems_iff, List.cons.injEq]

lemma sameMembers_iff : ∀ {as bs : List (String × Json)}, sameMembers as bs = true ↔ as = bs
  | [], [] => by simp [sameMembers]
  | [], _ :: _ => by simp [sameMembers]
  | _ :: _, [] => by simp [sameMembers]
  | (k, a) :: as, (l, b) :: bs => by
    rw [sameMembers, Bool.and_eq_true, Bool.and_eq_true, beq_iff_eq, same_iff, sameMembers_iff,
      List.cons.injEq, Prod.mk.injEq]

end

instance : DecidableEq Json := fun _ _ => decidable_of_iff _ same_iff

end Montage.Json
