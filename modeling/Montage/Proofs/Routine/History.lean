import Mathlib.Tactic.Common
import Montage.Routine.Notes

/-!
# Histories of routines

A routine is a tree of questions.  A history is a way down that tree: the questions that were asked
and the replies they got, whoever gave them.  What holds of all histories of a routine holds
whatever goes on around it.

* `Event`, `History` — one question with its reply; many of them.
* `Routine.Leads`, `Routine.Plays` — **a history leads from one routine to another**, or to an end.
* `plays_handle`, `plays_bind` — a history of a composed routine is one of its first part and one of
  what follows; `leads_handle` — also where it does not lead to the end.
* `noting_induction` — what a routine with notes may look like: it ends, makes a note, or goes on
  after something that has nothing to do with notes.
* `effects` — what a history does to the surroundings.
-/

namespace Montage

/-- A question with its reply, or a suspension with the exit it came to.  A history is a list of
these; with the routine it says all that one task has done and heard. -/
inductive Event (E : Interface) where
  | asked (q : Request E) (v : q.Reply)
  | awaited (s : Suspension E) (x : Exit s.Answer)

/-- Questions with their replies, in order. -/
abbrev History (E : Interface) := List (Event E)

namespace Routine

variable {E : Interface} {α β : Type}

/-- A history leads from a routine to what is left of it. -/
inductive Leads : Routine E α → History E → Routine E α → Prop
  | refl (r : Routine E α) : Leads r [] r
  | ask {q : Request E} {k : q.Reply → Routine E α} {v : q.Reply} {h : History E}
      {r : Routine E α} (rest : Leads (k v) h r) : Leads (.ask q k) (.asked q v :: h) r
  | await {s : Suspension E} {k : Exit s.Answer → Routine E α} {x : Exit s.Answer} {h : History E}
      {r : Routine E α} (rest : Leads (k x) h r) : Leads (.await s k) (.awaited s x :: h) r

/-- A history leads a routine to its end; `Leads` is the same for any point on the way. -/
abbrev Plays (r : Routine E α) (h : History E) (x : Exit α) : Prop := r.Leads h (.done x)

variable {r r' r'' : Routine E α} {h h' : History E} {x : Exit α}

lemma Leads.trans (first : Leads r h r') (second : Leads r' h' r'') : Leads r (h ++ h') r'' := by
  induction first with
  | refl r => exact second
  | ask _ ih => exact .ask (ih second)
  | await _ ih => exact .await (ih second)

/-! ## Ways through single questions -/

/-- How a routine has ended, if it has. -/
def end? : Routine E α → Option (Exit α)
  | .done x => some x
  | _ => none

/-- What is on its way still is with something after it. -/
lemma end?_handle {f : Exit α → Routine E β} (unended : r.end? = none) :
    (r.handle f).end? = none := by
  cases r with
  | done x => cases unended
  | ask q k => rfl
  | await s k => rfl

lemma leads_done : Leads (.done x) h r ↔ h = [] ∧ r = .done x := by
  constructor
  · rintro ⟨⟩
    exact ⟨rfl, rfl⟩
  · rintro ⟨rfl, rfl⟩
    exact .refl _

/-- An end is reached where it is. -/
lemma plays_done {y : Exit α} : Plays (.done x : Routine E α) h y ↔ h = [] ∧ y = x := by
  rw [Plays, leads_done, Routine.done.injEq]

lemma plays_ask {q : Request E} {k : q.Reply → Routine E α} :
    Plays (.ask q k) h x ↔ ∃ v rest, h = .asked q v :: rest ∧ Plays (k v) rest x := by
  constructor
  · rintro ⟨⟩
    exact ⟨_, _, rfl, by assumption⟩
  · rintro ⟨v, rest, rfl, plays⟩
    exact .ask plays

lemma plays_await {s : Suspension E} {k : Exit s.Answer → Routine E α} :
    Plays (.await s k) h x ↔ ∃ y rest, h = .awaited s y :: rest ∧ Plays (k y) rest x := by
  constructor
  · rintro ⟨⟩
    exact ⟨_, _, rfl, by assumption⟩
  · rintro ⟨y, rest, rfl, plays⟩
    exact .await plays

/-- A routine that never waits, so it goes from its first step to its end in one turn. -/
inductive Prompt : Routine E α → Prop
  | done (x : Exit α) : Prompt (.done x)
  | ask {q : Request E} {k : q.Reply → Routine E α} (rest : ∀ v, Prompt (k v)) : Prompt (.ask q k)

lemma Prompt.never_waits {s : Suspension E} {k : Exit s.Answer → Routine E α} (prompt : Prompt r) :
    ¬ r.Leads h (.await s k) := by
  induction prompt generalizing h with
  | done x => exact fun leads => nomatch (leads_done.mp leads).2
  | ask _ ih =>
      intro leads
      cases leads with
      | ask rest => exact ih _ rest

/-! ## Ways through composed routines -/

/-- A history of a routine with something after it is one of the routine and one of what follows its
end. -/
lemma plays_handle {f : Exit α → Routine E β} {y : Exit β} :
    Plays (r.handle f) h y ↔ ∃ first x rest, h = first ++ rest ∧ Plays r first x
      ∧ Plays (f x) rest y := by
  induction r generalizing h with
  | done x =>
      rw [handle]
      constructor
      · exact fun plays => ⟨[], x, h, rfl, .refl _, plays⟩
      · rintro ⟨first, _, rest, rfl, own, plays⟩
        obtain ⟨rfl, rfl⟩ := plays_done.mp own
        exact plays
  | ask q k ih =>
      rw [handle, plays_ask]
      constructor
      · rintro ⟨v, rest, rfl, plays⟩
        obtain ⟨first, x, last, rfl, own, plays⟩ := (ih v).mp plays
        exact ⟨.asked q v :: first, x, last, rfl, .ask own, plays⟩
      · rintro ⟨_, x, last, rfl, part, plays⟩
        obtain ⟨v, first, rfl, own⟩ := plays_ask.mp part
        exact ⟨v, first ++ last, rfl, (ih v).mpr ⟨first, x, last, rfl, own, plays⟩⟩
  | await s k ih =>
      rw [handle, plays_await]
      constructor
      · rintro ⟨v, rest, rfl, plays⟩
        obtain ⟨first, x, last, rfl, own, plays⟩ := (ih v).mp plays
        exact ⟨.awaited s v :: first, x, last, rfl, .await own, plays⟩
      · rintro ⟨_, x, last, rfl, part, plays⟩
        obtain ⟨v, first, rfl, own⟩ := plays_await.mp part
        exact ⟨v, first ++ last, rfl, (ih v).mpr ⟨first, x, last, rfl, own, plays⟩⟩

lemma handle_handle {γ : Type} {f : Exit α → Routine E β} {g : Exit β → Routine E γ} :
    (r.handle f).handle g = r.handle fun x => (f x).handle g := by
  induction r with
  | done x => rfl
  | ask q k ih => exact congrArg (Routine.ask q) (funext ih)
  | await s k ih => exact congrArg (Routine.await s) (funext ih)

/-- Where a history leads a routine with something after it: the routine is still on its way, or has
ended. -/
lemma leads_handle {f : Exit α → Routine E β} {left : Routine E β}
    (leads : (r.handle f).Leads h left) :
    (∃ own, r.Leads h own ∧ left = own.handle f ∧ own.end? = none)
      ∨ ∃ first x rest, h = first ++ rest ∧ Plays r first x ∧ (f x).Leads rest left := by
  induction r generalizing h with
  | done x => exact .inr ⟨[], x, h, rfl, .refl _, leads⟩
  | ask q k ih =>
      cases leads with
      | refl => exact .inl ⟨.ask q k, .refl _, rfl, rfl⟩
      | ask rest =>
          rcases ih _ rest with ⟨own, goes, same, unended⟩ | ⟨first, x, last, rfl, own, goes⟩
          · exact .inl ⟨own, .ask goes, same, unended⟩
          · exact .inr ⟨_ :: first, x, last, rfl, .ask own, goes⟩
  | await s k ih =>
      cases leads with
      | refl => exact .inl ⟨.await s k, .refl _, rfl, rfl⟩
      | await rest =>
          rcases ih _ rest with ⟨own, goes, same, unended⟩ | ⟨first, x, last, rfl, own, goes⟩
          · exact .inl ⟨own, .await goes, same, unended⟩
          · exact .inr ⟨_ :: first, x, last, rfl, .await own, goes⟩

/-- How a sequence of two routines may go: the first one ends without a value, or its value is gone
on with. -/
lemma plays_bind {f : α → Routine E β} {y : Exit β} :
    Plays (r.bind f) h y ↔
      (∃ a first rest, h = first ++ rest ∧ Plays r first (.returned a) ∧ Plays (f a) rest y)
      ∨ (∃ e, Plays r h (.failed e) ∧ y = .failed e)
      ∨ (Plays r h .cancelled ∧ y = .cancelled) := by
  rw [Routine.bind, plays_handle]
  constructor
  · rintro ⟨first, x, rest, rfl, own, plays⟩
    cases x with
    | returned a => exact .inl ⟨a, first, rest, rfl, own, plays⟩
    | failed e =>
        obtain ⟨rfl, rfl⟩ := plays_done.mp plays
        exact .inr (.inl ⟨e, by rwa [List.append_nil], rfl⟩)
    | cancelled =>
        obtain ⟨rfl, rfl⟩ := plays_done.mp plays
        exact .inr (.inr ⟨by rwa [List.append_nil], rfl⟩)
  · rintro (⟨a, first, rest, rfl, own, plays⟩ | ⟨e, own, rfl⟩ | ⟨own, rfl⟩)
    · exact ⟨first, .returned a, rest, rfl, own, plays⟩
    · exact ⟨h, .failed e, [], (List.append_nil h).symm, own, .refl _⟩
    · exact ⟨h, .cancelled, [], (List.append_nil h).symm, own, .refl _⟩

/-- A routine that cannot fail is gone on with. -/
lemma plays_bind_of_returns {a : History E → α → Prop} {f : α → Routine E β} {y : Exit β}
    (returns : ∀ h x, Plays r h x → ∃ v, x = .returned v ∧ a h v) (plays : Plays (r.bind f) h y) :
    ∃ v first rest, h = first ++ rest ∧ a first v ∧ Plays (f v) rest y := by
  rcases plays_bind.mp plays with ⟨v, first, rest, rfl, own, plays⟩ | ⟨e, own, rfl⟩ | ⟨own, rfl⟩
  · obtain ⟨w, same, holds⟩ := returns _ _ own
    cases same
    exact ⟨v, first, rest, rfl, holds, plays⟩
  · obtain ⟨_, same, -⟩ := returns _ _ own
    cases same
  · obtain ⟨_, same, -⟩ := returns _ _ own
    cases same

end Routine

/-! ## Routines with notes -/

section Notes

variable {E : Interface} {N α : Type}

/-- The same question and reply, asked where notes may be made. -/
def Event.noted (N : Type) : Event E → Event (E.noting N)
  | .asked (.act a) v => .asked (.act (.inr a)) v
  | .asked .get v => .asked .get v
  | .asked (.set s) v => .asked (.set s) v
  | .asked (.leave g) v => .asked (.leave g) v
  | .asked (.start j) v => .asked (.start j) v
  | .asked (.cancel t) v => .asked (.cancel t) v
  | .asked .cancelling v => .asked .cancelling v
  | .awaited (.wait w) x => .awaited (.wait w) x
  | .awaited (.enter g) x => .awaited (.enter g) x
  | .awaited (.join j t) x => .awaited (.join j t) x
  | .awaited (.watch j t) x => .awaited (.watch j t) x

namespace Routine

/-- What holds of ends, goes through notes, and goes through every question and suspension that has
nothing to do with notes, holds of every routine with notes.  Proofs about listeners use it in place
of one case for each kind of question. -/
@[elab_as_elim]
theorem noting_induction {motive : Routine (E.noting N) α → Prop} (done : ∀ x, motive (.done x))
    (note : ∀ (n : N) k, (∀ u, motive (k u)) → motive (.ask (.act (.inl n)) k))
    (question : ∀ (q : Request E) k, (∀ v, motive (k v)) →
      motive (((Interpretation.lift N E).onRequest q).bind k))
    (suspension : ∀ (s : Suspension E) k, (∀ x, motive (k x)) →
      motive (((Interpretation.lift N E).onSuspension s).handle k))
    (r : Routine (E.noting N) α) : motive r := by
  induction r with
  | done x => exact done x
  | ask q k ih =>
      cases q with
      | act a =>
          cases a with
          | inl n => exact note n k ih
          | inr a => exact question (.act a) k ih
      | get => exact question .get k ih
      | set s => exact question (.set s) k ih
      | leave g => exact question (.leave g) k ih
      | start j => exact question (.start j) k ih
      | cancel t => exact question (.cancel t) k ih
      | cancelling => exact question .cancelling k ih
  | await s k ih =>
      cases s with
      | wait w => exact suspension (.wait w) k ih
      | enter g => exact suspension (.enter g) k ih
      | join j t => exact suspension (.join j t) k ih
      | watch j t => exact suspension (.watch j t) k ih

/-- A way through a routine goes on from the reply to a question that it begins with. -/
lemma leads_question {q : Request E} {k : q.Reply → Routine (E.noting N) α} {v : q.Reply}
    {h : History (E.noting N)} {left : Routine (E.noting N) α} (leads : (k v).Leads h left) :
    (((Interpretation.lift N E).onRequest q).bind k).Leads
      ((Event.asked q v).noted N :: h) left := by
  cases q <;> exact .ask leads

/-- A way through a routine goes on from the answer to a suspension that it begins with. -/
lemma leads_suspension {s : Suspension E} {k : Exit s.Answer → Routine (E.noting N) α}
    {x : Exit s.Answer} {h : History (E.noting N)} {left : Routine (E.noting N) α}
    (leads : (k x).Leads h left) :
    (((Interpretation.lift N E).onSuspension s).handle k).Leads
      ((Event.awaited s x).noted N :: h) left := by
  cases s <;> exact .await leads

end Routine

end Notes

/-! ## Effects -/

/-- What a question does to the surroundings, as far as it is seen. -/
def Event.effect? {E : Interface} {A : Type} (sees : E.Act → Option A) :
    Event E → Option (A ⊕ E.Wait)
  | .asked (.act a) _ => (sees a).map .inl
  | .awaited (.wait w) _ => some (.inr w)
  | _ => none

/-- What a history does to the surroundings, as far as it is seen. -/
def effects {E : Interface} {A : Type} (sees : E.Act → Option A) (h : History E) :
    List (A ⊕ E.Wait) :=
  h.filterMap (Event.effect? sees)

lemma effects_append {E : Interface} {A : Type} (sees : E.Act → Option A) (h h' : History E) :
    effects sees (h ++ h') = effects sees h ++ effects sees h' := List.filterMap_append

end Montage
