import Mathlib.Tactic.Common
import Montage.Proofs.Routine.Notice

/-!
# Routines that heed a request to stop

A cancellation is one more reply, and a routine may do with it what it likes.  Most routines pass it
on; some have a last thing to do; and whoever recovers from failures must not take it for one.

* `Routine.AfterStop` — how a routine may end once it has heard a request to stop.
* `Routine.Heeds`, `Routine.Yields` — without a value; or by that cancellation and nothing else.
* `AfterStop.handle`, `AfterStop.bind` — **both are properties of the parts**.
* `AfterStop.lift`, `AfterStop.relay` — notes make no difference.
-/

namespace Montage.Routine

variable {E : Interface} {N M α β : Type}

/-! ## Ends -/

/-- However a routine ends, it ends so.  Nothing is said of one that never ends. -/
def Ends (S : Exit α → Prop) (r : Routine E α) : Prop := ∀ h x, r.Plays h x → S x

/-- However a routine ends after it has heard a request to stop, it ends so. -/
def AfterStop (S : Exit α → Prop) (r : Routine E α) : Prop :=
  ∀ h x, r.Plays h x → stopped h → S x

/-- A routine that does not come to a value once it has heard a request to stop. -/
abbrev Heeds (r : Routine E α) : Prop := r.AfterStop fun x => x.isReturned = false

/-- A routine that is cancelled by a request to stop. -/
abbrev Yields (r : Routine E α) : Prop := r.AfterStop fun x => x = .cancelled

variable {S : Exit α → Prop} {T : Exit β → Prop} {r : Routine E α}

lemma Yields.heeds (yields : r.Yields) : r.Heeds := fun h x plays told => by
  rw [yields h x plays told]
  rfl

lemma ends_done {x : Exit α} (holds : S x) : (.done x : Routine E α).Ends S := by
  intro h y plays
  obtain ⟨-, rfl⟩ := plays_done.mp plays
  exact holds

lemma Ends.handle {f : Exit α → Routine E β} (rest : ∀ x, (f x).Ends T) : (r.handle f).Ends T := by
  intro h y plays
  obtain ⟨-, x, h₂, -, -, later⟩ := plays_handle.mp plays
  exact rest x h₂ y later

/-! ## After a request to stop -/

lemma afterStop_done (x : Exit α) : (.done x : Routine E α).AfterStop S := by
  intro h y plays told
  obtain ⟨rfl, -⟩ := plays_done.mp plays
  exact absurd told not_stopped_nil

lemma afterStop_ask {q : Request E} {k : q.Reply → Routine E α} (rest : ∀ v, (k v).AfterStop S) :
    (.ask q k : Routine E α).AfterStop S := by
  intro h x plays told
  obtain ⟨v, h', rfl, later⟩ := plays_ask.mp plays
  exact rest v h' x later ((stopped_cons.mp told).resolve_left Bool.false_ne_true)

/-- A suspension that is not passed on. -/
lemma afterStop_await {s : Suspension E} {k : Exit s.Answer → Routine E α}
    (ends : s.passesOn = false) (stop : (k .cancelled).Ends S) (rest : ∀ x, (k x).AfterStop S) :
    (.await s k : Routine E α).AfterStop S := by
  intro h x plays told
  obtain ⟨y, h', rfl, later⟩ := plays_await.mp plays
  rcases stopped_cons.mp told with now | told
  · have here : y = .cancelled := by
      rw [Event.stops, ends, Bool.false_or] at now
      cases y with
      | cancelled => rfl
      | returned a => cases now
      | failed e => cases now
    rw [here] at later
    exact stop h' x later
  · exact rest y h' x later told

/-- What follows may have heard of it, or comes after a part that has. -/
lemma AfterStop.handle {f : Exit α → Routine E β} (first : r.AfterStop S)
    (stop : ∀ x, S x → (f x).Ends T) (rest : ∀ x, (f x).AfterStop T) :
    (r.handle f).AfterStop T := by
  intro h y plays told
  obtain ⟨h₁, x, h₂, rfl, own, later⟩ := plays_handle.mp plays
  rcases stopped_append.mp told with told | told
  · exact stop x (first h₁ x own told) h₂ y later
  · exact rest x h₂ y later told

lemma Heeds.bind {f : α → Routine E β} (first : r.Heeds) (rest : ∀ a, (f a).Heeds) :
    (r.bind f).Heeds := by
  refine first.handle (fun x none => ?_) fun x => ?_
  · cases x with
    | returned a => cases none
    | failed e => exact ends_done rfl
    | cancelled => exact ends_done rfl
  · cases x with
    | returned a => exact rest a
    | failed e => exact afterStop_done _
    | cancelled => exact afterStop_done _

lemma Yields.bind {f : α → Routine E β} (first : r.Yields) (rest : ∀ a, (f a).Yields) :
    (r.bind f).Yields := by
  refine first.handle (fun x same => ?_) fun x => ?_
  · rw [same]
    exact ends_done rfl
  · cases x with
    | returned a => exact rest a
    | failed e => exact afterStop_done _
    | cancelled => exact afterStop_done _

/-- A final step changes nothing but by its own end. -/
lemma Heeds.ensuring {last : Routine E Unit} (first : r.Heeds) (final : last.Heeds) :
    (r.ensuring last).Heeds := by
  refine first.handle (fun x none => Ends.handle fun y => ?_) fun x => final.bind fun _ => ?_
  · cases y with
    | returned u => exact ends_done none
    | failed e => exact ends_done rfl
    | cancelled => exact ends_done rfl
  · exact afterStop_done x

/-- A place behind a gate is given up in the end. -/
lemma AfterStop.within {g : E.Gate} (first : r.AfterStop S) (cancelled : S .cancelled) :
    (r.within g).AfterStop S := by
  refine afterStop_await rfl (ends_done cancelled) fun x => ?_
  cases x with
  | failed e => exact afterStop_done _
  | cancelled => exact afterStop_done _
  | returned u =>
      refine first.handle (fun x holds => ?_) fun x => afterStop_ask fun _ => afterStop_done x
      intro h y plays
      obtain ⟨_, rest, -, ends⟩ := plays_ask.mp plays
      obtain ⟨-, rfl⟩ := plays_done.mp ends
      exact holds

/-! ## Notes -/

/-- A single question is answered. -/
lemma plays_question {q : Request E} {f : q.Reply → α} {h : History E} {x : Exit α}
    (plays : (.ask q fun v => .done (.returned (f v)) : Routine E α).Plays h x) :
    ¬ stopped h ∧ ∃ v, x = .returned v := by
  obtain ⟨v, h', rfl, ends⟩ := plays_ask.mp plays
  obtain ⟨rfl, rfl⟩ := plays_done.mp ends
  exact ⟨fun told => (stopped_cons.mp told).elim Bool.false_ne_true not_stopped_nil, f v, rfl⟩

/-- A single suspension tells of a request to stop if its reply does. -/
lemma plays_suspension {s : Suspension E} {h : History E} {x : Exit s.Answer}
    (plays : (.await s .done : Routine E s.Answer).Plays h x) (told : stopped h) :
    (Event.awaited s x).stops = true := by
  obtain ⟨y, h', rfl, ends⟩ := plays_await.mp plays
  obtain ⟨rfl, rfl⟩ := plays_done.mp ends
  exact (stopped_cons.mp told).resolve_right not_stopped_nil

/-- A routine whose questions are asked elsewhere. -/
lemma AfterStop.interpret {F : Interface} {φ : Interpretation E F} (first : r.AfterStop S)
    (requests : ∀ q h x, (φ.onRequest q).Plays h x → ¬ stopped h ∧ ∃ v, x = .returned v)
    (suspensions : ∀ s h x, (φ.onSuspension s).Plays h x → stopped h →
      (Event.awaited s x).stops = true) :
    (r.interpret φ).AfterStop S := by
  have back : ∀ {r : Routine E α} {h x}, (r.interpret φ).Plays h x →
      ∃ own, r.Plays own x ∧ (stopped h → stopped own) := by
    intro r
    induction r with
    | done y =>
        intro h x plays
        obtain ⟨rfl, rfl⟩ := plays_done.mp plays
        exact ⟨[], .refl _, fun told => absurd told not_stopped_nil⟩
    | ask q k ih =>
        intro h x plays
        obtain ⟨h₁, y, h₂, rfl, asked, later⟩ := plays_handle.mp plays
        obtain ⟨silent, v, rfl⟩ := requests q h₁ y asked
        obtain ⟨own, alone, told⟩ := ih v later
        exact ⟨_, .ask alone, fun both =>
          stopped_cons.mpr (.inr (told ((stopped_append.mp both).resolve_left silent)))⟩
    | await s k ih =>
        intro h x plays
        obtain ⟨h₁, y, h₂, rfl, waited, later⟩ := plays_handle.mp plays
        obtain ⟨own, alone, told⟩ := ih y later
        exact ⟨_, .await alone, fun both =>
          stopped_cons.mpr ((stopped_append.mp both).imp (suspensions s h₁ y waited) told)⟩
  intro h x plays told
  obtain ⟨own, alone, heard⟩ := back plays
  exact first own x alone (heard told)

/-- Where notes could be made. -/
lemma AfterStop.lift (first : r.AfterStop S) : (r.lift (N := N)).AfterStop S := by
  refine first.interpret (fun q h x plays => ?_) fun s h x plays told => ?_
  · cases q <;> exact plays_question plays
  · cases s <;> exact plays_suspension (E := E.noting N) plays told

lemma Heeds.lift (heeds : r.Heeds) : (r.lift (N := N)).Heeds := AfterStop.lift heeds

/-- Where the notes are converted. -/
lemma AfterStop.relay {r : Routine (E.noting N) α} (first : r.AfterStop S) (f : N → M) :
    (r.relay f).AfterStop S := by
  refine first.interpret (fun q h x plays => ?_) fun s h x plays told => ?_
  · cases q with
    | act a => cases a <;> exact plays_question plays
    | _ => exact plays_question plays
  · cases s <;> exact plays_suspension (E := E.noting M) plays told

end Montage.Routine
