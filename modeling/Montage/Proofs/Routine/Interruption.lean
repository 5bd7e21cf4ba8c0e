import Montage.Proofs.Routine.Notice
import Montage.Proofs.Routine.Outcomes

/-!
# Routines that are interrupted

What a routine owes its surroundings can depend on all that it has heard: a request to stop, and
what came before and after it.  So what is known of it here is its whole history.

* `Regime.remembering` — everything that is heard stays known, as long as it may be heard.
* `Tolerable` — all is answered, but for one request to stop.
* `OrStopped` — a request to stop has ended a routine, or none has come and it has ended as agreed.
* `obeys_wait`, `obeys_wait_of_stopped` — a suspension before a request to stop and after it.
* **`Obeys.of_plays`**, `Obeys.of_plays_gather` — whoever obeys ends as agreed, whatever is heard.
-/

namespace Montage

variable {E F : Interface} {N α β : Type}

/-! ## Histories with one request to stop -/

/-- Everything is answered, but that a request to stop may come instead, once. -/
structure Tolerable (h : History E) : Prop where
  answered : ∀ e ∈ h, e.Answered ∨ e.stops = true
  once : h.countP Event.stops ≤ 1

lemma stopped_append_left {a : History E} (told : stopped a) (h : History E) : stopped (a ++ h) :=
  stopped_append.mpr (.inl told)

namespace Tolerable

/-- What has come so far was tolerable as well. -/
lemma of_append {h h' : History E} (tolerable : Tolerable (h ++ h')) : Tolerable h where
  answered e among := tolerable.answered e (List.mem_append_left h' among)
  once := by
    refine Nat.le_trans ?_ tolerable.once
    rw [List.countP_append]
    exact Nat.le_add_right _ _

variable {a : History E} {w : E.Wait} {x : Exit (Suspension.wait w).Answer}

lemma returned_or_cancelled (tolerable : Tolerable (a ++ [.awaited (.wait w) x])) :
    (∃ v, x = .returned v) ∨ x = .cancelled := by
  have last : Event.awaited (.wait w) x ∈ a ++ [Event.awaited (.wait w) x] :=
    List.mem_append_right a List.mem_cons_self
  rcases tolerable.answered _ last with answered | stops
  · exact .inl answered
  · cases x with
    | cancelled => exact .inr rfl
    | returned v => cases stops
    | failed e => cases stops

/-- After a request to stop there is no other one. -/
lemma returned_of_stopped (tolerable : Tolerable (a ++ [.awaited (.wait w) x])) (told : stopped a) :
    ∃ v, x = .returned v := by
  refine tolerable.returned_or_cancelled.resolve_right ?_
  rintro rfl
  have first : 0 < a.countP Event.stops := List.countP_pos_iff.mpr told
  have once := tolerable.once
  have stops : (Event.awaited (.wait w) .cancelled).stops = true := rfl
  rw [List.countP_append, List.countP_singleton, if_pos stops] at once
  omega

end Tolerable

/-! ## Everything stays known -/

/-- Anything may be asked, and everything that is heard stays known, as long as it may be heard. -/
def Regime.remembering (may : History E → Prop) : Regime E (History E) where
  mayAsk _ _ := True
  asked a q v b := b = a ++ [.asked q v] ∧ may b
  mayAwait _ _ := True
  awaited a s x b := b = a ++ [.awaited s x] ∧ may b

/-- A request to stop has ended a routine, or none has come and it has ended as agreed. -/
def OrStopped (post : History E → Exit α → Prop) (h : History E) (x : Exit α) : Prop :=
  stopped h ∧ x = .cancelled ∨ ¬ stopped h ∧ post h x

namespace Routine

variable {may : History E → Prop} {post : History E → Exit α → Prop} {a h : History E}

lemma follows_remembering (earlier : ∀ h h', may (h ++ h') → may h) (heard : may (a ++ h)) :
    Follows (.remembering may) a h (a ++ h) := by
  induction h generalizing a with
  | nil =>
      rw [List.append_nil]
      exact .refl a
  | cons e h ih =>
      rw [List.append_cons] at heard ⊢
      have here := earlier _ _ heard
      cases e with
      | asked q v => exact .asked ⟨rfl, here⟩ (ih heard)
      | awaited s x => exact .awaited ⟨rfl, here⟩ (ih heard)

/-- **How a routine ends that has obeyed.** -/
theorem Obeys.of_plays {r : Routine E α} {x : Exit α} (obeys : r.Obeys (.remembering may) post a)
    (earlier : ∀ h h', may (h ++ h') → may h) (plays : r.Plays h x) (heard : may (a ++ h)) :
    post (a ++ h) x := by
  have ends := obeys.leads plays (follows_remembering earlier heard)
  cases ends with
  | done holds => exact holds

/-- The same for a routine whose notes are collected. -/
theorem Obeys.of_plays_gather {r : Routine (E.noting N) α} {notes : List N} {x : Exit α}
    (obeys : r.Obeys ((Regime.remembering may).noting N) post a)
    (earlier : ∀ h h', may (h ++ h') → may h) (plays : r.gather.Plays h (.returned (notes, x)))
    (heard : may (a ++ h)) : post (a ++ h) x := by
  obtain ⟨_, _, same, holds⟩ := (obeys.gatherFrom []).of_plays earlier plays heard
  cases same
  exact holds

/-! ## Suspensions -/

/-- Whoever waits is answered, or told to stop. -/
lemma obeys_wait (w : E.Wait) (calm : ¬ stopped a) :
    (wait w).Obeys (.remembering Tolerable)
      (OrStopped fun b x =>
        ∃ v, x = .returned v ∧ b = a ++ [.awaited (.wait w) (.returned v)]) a := by
  refine .await trivial fun x b heard => .done ?_
  obtain ⟨rfl, tolerable⟩ := heard
  have told : stopped (a ++ [.awaited (.wait w) x]) ↔ x.isCancelled = true := by
    rw [stopped_append, stopped_cons, or_iff_right calm, or_iff_left not_stopped_nil]
    rfl
  rcases tolerable.returned_or_cancelled with ⟨v, rfl⟩ | rfl
  · exact .inr ⟨fun stops => Bool.false_ne_true (told.mp stops), v, rfl, rfl⟩
  · exact .inl ⟨told.mpr rfl, rfl⟩

/-- Whoever waits again is answered. -/
lemma obeys_wait_of_stopped (w : E.Wait) (told : stopped a) :
    (wait w).Obeys (.remembering Tolerable)
      (fun b x => ∃ v, x = .returned v ∧ b = a ++ [.awaited (.wait w) (.returned v)]) a := by
  refine .await trivial fun x b heard => .done ?_
  obtain ⟨rfl, tolerable⟩ := heard
  obtain ⟨v, rfl⟩ := tolerable.returned_of_stopped told
  exact ⟨v, rfl, rfl⟩

/-- What follows a part that a request to stop may end. -/
lemma Obeys.unlessStopped {R : Regime F (History E)} {first : Routine F α}
    {rest : α → Routine F β} {P : History E → Exit α → Prop} {Q : History E → Exit β → Prop}
    (obeys : first.Obeys R (OrStopped P) a)
    (next : ∀ b x, ¬ stopped b → P b x → (stopWith x rest).Obeys R (OrStopped Q) b) :
    (first.bind rest).Obeys R (OrStopped Q) a := by
  refine obeys.handle fun b x ends => ?_
  rcases ends with ⟨told, rfl⟩ | ⟨calm, holds⟩
  · exact .done (.inl ⟨told, rfl⟩)
  · exact next b x calm holds

end Routine

end Montage
