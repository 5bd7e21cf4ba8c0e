import Montage.Proofs.Routine.Regime

/-!
# How routines end when they get their replies

Often it is enough to know which replies a routine may hear, whatever it asks for and in which
order.

* `Event.Answered`, `History.Answered` — replies that are no requests to stop, and no failures of
  the surroundings.
* `Regime.hearing` — nothing is heard but such replies; `Routine.Obeys.of_plays` — then a history of
  them ends as agreed.
* `Routine.Delivers` — **a routine ends so**; `Delivers.handle`, `Delivers.bind`,
  `Delivers.within`, … — parts of routines.
* `Exit.Returns` — a value of a kind; `Exit.Meets` — or a failure of the export's own, or a fault
  for which there is a cause.
* `Routine.play` — how a routine ends with given replies; **`Routine.plays_play`**.
-/

namespace Montage

variable {E : Interface} {N α β : Type}

/-! ## Replies -/

/-- A wait has its reply, a gate lets in, and an end that is waited for is no cancellation. -/
def Event.Answered : Event E → Prop
  | .asked _ _ => True
  | .awaited (.wait _) x => ∃ v, x = .returned v
  | .awaited (.enter _) x => x = .returned ()
  | .awaited (.join _ _) x => x ≠ .cancelled
  | .awaited (.watch _ _) x => x ≠ .cancelled

/-- A history of such replies. -/
def History.Answered (h : History E) : Prop := ∀ e ∈ h, e.Answered

/-- Nothing is heard but such replies. -/
def Regime.hearing (P : Event E → Prop) : Regime E Unit where
  mayAsk _ _ := True
  asked _ q v _ := P (.asked q v)
  mayAwait _ _ := True
  awaited _ s x _ := P (.awaited s x)

/-! ## Ends -/

/-- A value of a kind. -/
def Exit.Returns (Q : α → Prop) (x : Exit α) : Prop := ∃ v, x = .returned v ∧ Q v

/-- A value of a kind, a failure of the export's own, or a fault for which there is a cause. -/
def Exit.Meets (C : Fault → Prop) (Q : α → Prop) : Exit α → Prop
  | .returned v => Q v
  | .failed (.expected _) => True
  | .failed (.unexpected f) => C f
  | .cancelled => False

/-- Who returns a value meets any expectation that allows for the value. -/
lemma Exit.Returns.meets {C : Fault → Prop} {Q : α → Prop} {x : Exit α} (returns : x.Returns Q) :
    x.Meets C Q := by
  obtain ⟨v, rfl, holds⟩ := returns
  exact holds

/-- An expectation is met that allows for more. -/
lemma Exit.Meets.mono {C C' : Fault → Prop} {Q Q' : α → Prop} {x : Exit α} (meets : x.Meets C Q)
    (causes : ∀ f, C f → C' f) (values : ∀ v, Q v → Q' v) : x.Meets C' Q' := by
  cases x with
  | returned v => exact values v meets
  | cancelled => exact meets
  | failed e =>
      cases e with
      | expected e => trivial
      | unexpected f => exact causes f meets

namespace Routine

/-- Whatever it hears under a regime, a routine ends so. -/
abbrev Delivers (R : Regime E Unit) (S : Exit α → Prop) (r : Routine E α) : Prop :=
  r.Obeys R (fun _ x => S x) ()

variable {R : Regime E Unit} {P : Event E → Prop} {S : Exit α → Prop} {T : Exit β → Prop}
  {C : Fault → Prop} {Q : α → Prop} {Q' : β → Prop} {r : Routine E α}

/-- A history of such replies ends as agreed. -/
theorem Delivers.of_plays (delivers : r.Delivers (.hearing P) S) {h : History E} {x : Exit α}
    (plays : r.Plays h x) (heard : ∀ e ∈ h, P e) : S x := by
  have follows : Follows (Regime.hearing P) () h () := by
    clear plays
    induction h with
    | nil => exact .refl ()
    | cons e h ih =>
        rw [List.forall_mem_cons] at heard
        cases e with
        | asked q v => exact .asked heard.1 (ih heard.2)
        | awaited s x => exact .awaited heard.1 (ih heard.2)
  have ends := delivers.leads plays follows
  cases ends with
  | done holds => exact holds

/-- What ends as was wanted ends as less would want it. -/
lemma Delivers.mono {S' : Exit α → Prop} (delivers : r.Delivers R S) (weaker : ∀ x, S x → S' x) :
    r.Delivers R S' :=
  Obeys.mono delivers fun _ => weaker

/-- What has ended well delivers. -/
lemma delivers_done {x : Exit α} (holds : S x) : (.done x : Routine E α).Delivers R S := .done holds

/-! ### Parts -/

/-- A routine and what handles its outcome deliver one after the other. -/
lemma Delivers.handle {f : Exit α → Routine E β} (first : r.Delivers R S)
    (rest : ∀ x, S x → (f x).Delivers R T) : (r.handle f).Delivers R T :=
  Obeys.handle first fun _ => rest

/-- What follows a value delivers what is wanted in the end; a failure or a stop of the first is one
of both. -/
lemma Delivers.bind {f : α → Routine E β} (first : r.Delivers R (Exit.Meets C Q))
    (rest : ∀ v, Q v → (f v).Delivers R (Exit.Meets C Q')) :
    (r.bind f).Delivers R (Exit.Meets C Q') :=
  Obeys.bind first (fun _ => rest)
    (fun _ e holds => by cases e <;> exact holds) fun _ => False.elim

/-- What follows a routine that always has a value. -/
lemma Delivers.andThen {f : α → Routine E β} (first : r.Delivers R (Exit.Returns Q))
    (rest : ∀ v, Q v → (f v).Delivers R T) : (r.bind f).Delivers R T := by
  refine first.handle fun x returns => ?_
  obtain ⟨v, rfl, holds⟩ := returns
  exact rest v holds

/-- A final step that comes to its end stands for nothing. -/
lemma Delivers.ensuring {last : Routine E Unit} (first : r.Delivers R (Exit.Meets C Q))
    (final : last.Delivers R (Exit.Meets C fun _ => True)) :
    (r.ensuring last).Delivers R (Exit.Meets C Q) :=
  first.handle fun _ holds => final.bind fun _ _ => delivers_done holds

/-- Values and faults become ends. -/
lemma delivers_ofFault {x : Except Fault α} (good : ∀ v, x = .ok v → Q v)
    (bad : ∀ f, x = .error f → C f) : (ofFault x : Routine E α).Delivers R (Exit.Meets C Q) := by
  cases x with
  | ok v => exact .done (good v rfl)
  | error f => exact .done (bad f rfl)

/-! ### Questions -/

/-- What is done at once ends with a reply that is heard. -/
lemma delivers_act (a : E.Act) :
    (act a).Delivers (.hearing P) (Exit.Returns fun v => P (.asked (.act a) v)) :=
  .ask trivial fun v _ heard => .done ⟨v, rfl, heard⟩

/-- The record is read with a reply that is heard. -/
lemma delivers_get : (get : Routine E E.Store).Delivers (.hearing P)
    (Exit.Returns fun s => P (.asked .get s)) :=
  .ask trivial fun v _ heard => .done ⟨v, rfl, heard⟩

/-- To change the record cannot fail … -/
lemma delivers_modify (f : E.Store → E.Store) :
    (modify f : Routine E Unit).Delivers (.hearing P) (Exit.Returns fun _ => True) :=
  delivers_get.andThen fun _ _ => .ask trivial fun v _ _ => .done ⟨v, rfl, trivial⟩

/-- … nor can starting a task … -/
lemma delivers_start (j : E.Job) :
    (start j : Routine E TaskId).Delivers (.hearing P) (Exit.Returns fun _ => True) :=
  .ask trivial fun v _ _ => .done ⟨v, rfl, trivial⟩

section Answers

variable (answered : ∀ e, P e → e.Answered)

include answered in
/-- … nor a wait, as far as replies are heard that are values. -/
lemma delivers_wait (w : E.Wait) : (wait w).Delivers (.hearing P)
    (Exit.Returns fun v => P (.awaited (.wait w) (.returned v))) :=
  .await trivial fun x _ heard => by
    obtain ⟨v, rfl⟩ := answered _ heard
    exact .done ⟨v, rfl, heard⟩

include answered in
/-- The end of a task, faults being passed on. -/
lemma delivers_watch {j : E.Job} {t : TaskId}
    (causes : ∀ f, P (.awaited (.watch j t) (.failed (.unexpected f))) → C f) :
    (watch j t).Delivers (.hearing P) (Exit.Meets C fun _ => True) :=
  .await trivial fun x _ heard => by
    cases x with
    | returned v => exact .done trivial
    | cancelled => exact absurd rfl (answered _ heard)
    | failed e =>
        cases e with
        | expected e => exact .done trivial
        | unexpected f => exact .done (causes f heard)

end Answers

/-! ### Notes -/

/-- A note cannot fail. -/
lemma delivers_note {R : Regime E Unit} (n : N) :
    (note n : Routine (E.noting N) Unit).Delivers (R.noting N) (Exit.Returns fun _ => True) :=
  .ask trivial fun v _ _ => .done ⟨v, rfl, trivial⟩

/-- It ends the same way where notes can be made … -/
lemma Delivers.lift (delivers : r.Delivers R S) : (r.lift (N := N)).Delivers (R.noting N) S :=
  Obeys.lift delivers N

/-- … whatever is noted. -/
lemma Delivers.relay {M : Type} {r : Routine (E.noting N) α} (delivers : r.Delivers (R.noting N) S)
    (f : N → M) : (r.relay f).Delivers (R.noting M) S :=
  Obeys.relay delivers f

/-- Behind a gate. -/
lemma Delivers.within {r : Routine (E.noting N) α} {g : E.Gate}
    (answered : ∀ e, P e → e.Answered)
    (inside : r.Delivers ((Regime.hearing P).noting N) S) :
    (Routine.within (E := E.noting N) g r).Delivers ((Regime.hearing P).noting N) S := by
  refine .await trivial fun x _ heard => ?_
  obtain rfl : x = .returned () := answered _ heard
  exact inside.handle fun x holds => .ask trivial fun _ _ _ => .done holds

/-! ## A history -/

/-- The replies of surroundings that do not change: one for every question and every suspension.
They are what samples run in (`Routine.play`). -/
structure Replies (E : Interface) where
  onRequest : (q : Request E) → q.Reply
  onSuspension : (s : Suspension E) → Exit s.Answer

/-- What such surroundings reply. -/
inductive Replies.Gave (W : Replies E) : Event E → Prop
  | asked (q : Request E) : Gave W (.asked q (W.onRequest q))
  | awaited (s : Suspension E) : Gave W (.awaited s (W.onSuspension s))

/-- The same surroundings where notes are made. -/
def Replies.noting (W : Replies E) (N : Type) : Replies (E.noting N) where
  onRequest
    | .act (.inl _) => ()
    | .act (.inr a) => W.onRequest (.act a)
    | .get => W.onRequest .get
    | .set s => W.onRequest (.set s)
    | .leave g => W.onRequest (.leave g)
    | .start j => W.onRequest (.start j)
    | .cancel t => W.onRequest (.cancel t)
    | .cancelling => W.onRequest .cancelling
  onSuspension
    | .wait w => W.onSuspension (.wait w)
    | .enter g => W.onSuspension (.enter g)
    | .join j t => W.onSuspension (.join j t)
    | .watch j t => W.onSuspension (.watch j t)

/-- What a routine hears in such surroundings, and how it ends. -/
def play (W : Replies E) : Routine E α → History E × Exit α
  | .done x => ([], x)
  | .ask q k =>
    let played := play W (k (W.onRequest q))
    (.asked q (W.onRequest q) :: played.1, played.2)
  | .await s k =>
    let played := play W (k (W.onSuspension s))
    (.awaited s (W.onSuspension s) :: played.1, played.2)

/-- **A routine plays in such surroundings**, to its end. -/
lemma plays_play (W : Replies E) (r : Routine E α) : r.Plays (r.play W).1 (r.play W).2 := by
  induction r with
  | done x => exact .refl _
  | ask q k ih => exact .ask (ih (W.onRequest q))
  | await s k ih => exact .await (ih (W.onSuspension s))

/-- All events of a play have the replies that were fixed before. -/
lemma gave_of_mem_play {W : Replies E} {r : Routine E α} {e : Event E}
    (among : e ∈ (r.play W).1) : W.Gave e := by
  induction r with
  | done x => exact absurd among List.not_mem_nil
  | ask q k ih =>
      rcases List.mem_cons.mp among with rfl | among
      · exact .asked q
      · exact ih _ among
  | await s k ih =>
      rcases List.mem_cons.mp among with rfl | among
      · exact .awaited s
      · exact ih _ among

/-- Each routine has a history with fixed replies. -/
lemma exists_plays (W : Replies E) (r : Routine E α) :
    ∃ h, r.Plays h (r.play W).2 ∧ ∀ e ∈ h, W.Gave e :=
  ⟨_, plays_play W r, fun _ => gave_of_mem_play⟩

/-- The same for a routine whose notes are collected. -/
lemma exists_plays_gather {W : Replies E} {r : Routine (E.noting N) α} {y : Exit α}
    (ends : (r.gather.play W).2.map Prod.snd = .returned y) :
    ∃ h notes, r.gather.Plays h (.returned (notes, y)) ∧ ∀ e ∈ h, W.Gave e := by
  obtain ⟨h, plays, gave⟩ := exists_plays W r.gather
  generalize (r.gather.play W).2 = x at ends plays
  cases x with
  | returned v =>
      cases ends
      exact ⟨h, v.1, plays, gave⟩
  | failed e => cases ends
  | cancelled => cases ends

end Routine

end Montage
