import Mathlib.Tactic.Common
import Montage.Routine.System

/-!
# Records

What many tasks do to their surroundings can be looked at in the order in which it was done.  A
record is kept by the surroundings themselves, and nobody takes notice of it.

* `Move`, `Entry` — what can be done; what a task did, and what was there before.
* `Machine.recording` — the same surroundings with a record.
* **`System.forget_follow`** — **a record makes no difference**, whatever the schedule.
* `Undisturbed` — a record in which no task has a hand in what another one is using.
-/

namespace Montage

variable {E : Interface} {P : Program E} {M : Machine E}

/-- What can be done to the surroundings: an effect at once, an effect that takes time, or the end
of one that was held. -/
inductive Move (E : Interface) where
  | act (a : E.Act)
  /-- An effect that takes time is asked for. -/
  | begin (q : E.Wait)
  /-- An effect that was held takes place. -/
  | finish (q : E.Wait)

/-- What a task did, and what the surroundings were like before. -/
structure Entry (M : Machine E) where
  task : TaskId
  move : Move E
  before : M.State

/-- The same surroundings with a record of all that was done to them. -/
def Machine.recording (M : Machine E) : Machine E where
  State := M.State × List (Entry M)
  act t a w := ((M.act t a w.1).1, (M.act t a w.1).2, w.2 ++ [⟨t, .act a, w.1⟩])
  wait t q w := ((M.wait t q w.1).1, (M.wait t q w.1).2, w.2 ++ [⟨t, .begin q, w.1⟩])
  release t q w := ((M.release t q w.1).1, (M.release t q w.1).2, w.2 ++ [⟨t, .finish q, w.1⟩])

/-! ## Nobody takes notice -/

namespace System

/-- The same system without its record. -/
def forget (sys : System P M.recording) : System P M :=
  { world := sys.world.1, store := sys.store, tasks := sys.tasks, gates := sys.gates
    queue := sys.queue }

variable (sys : System P M.recording)

lemma forget_update (t : TaskId) (f : Task P → Task P) :
    (sys.update t f).forget = sys.forget.update t f := rfl

lemma forget_release (t : TaskId) : (sys.release t).forget = sys.forget.release t := by
  unfold release
  have tasks : sys.forget.tasks = sys.tasks := rfl
  rw [tasks]
  split <;> rfl

variable [DecidableEq E.Gate]

lemma forget_leave (g : E.Gate) : (sys.leave g).forget = sys.forget.leave g := by
  unfold leave
  have gates : sys.forget.gates = sys.gates := rfl
  dsimp only
  rw [gates]
  split <;> rfl

lemma forget_cancelWithin (t : TaskId) (depth : Nat) :
    sys.forget.cancelWithin t depth
      = ((sys.cancelWithin t depth).1, (sys.cancelWithin t depth).2.forget) := by
  induction depth generalizing sys t with
  | zero => rfl
  | succ depth ih =>
      have tasks : sys.forget.tasks = sys.tasks := rfl
      rw [cancelWithin, cancelWithin, tasks]
      cases sys.tasks[t]? with
      | none => rfl
      | some task =>
          obtain ⟨o, f, p, c⟩ := task
          cases f with
          | fresh => rfl
          | running => rfl
          | ready q x k => rfl
          | ended x => rfl
          | waiting q k =>
              cases q with
              | wait w => rfl
              | enter g => rfl
              | watch j u => rfl
              | join j u =>
                  have further := ih (sys.update t fun task =>
                    { task with cancels := task.cancels + 1 }) u
                  dsimp only
                  rw [← forget_update, further]
                  cases passed : (sys.update t fun task =>
                    { task with cancels := task.cancels + 1 }).cancelWithin u depth with
                  | mk found next => cases found <;> rfl

/-- A question is answered as it would be without a record. -/
lemma forget_reply (self : TaskId) (q : Request E) :
    sys.forget.reply self q = ((sys.reply self q).1, (sys.reply self q).2.forget) := by
  cases q with
  | act a => rfl
  | get => rfl
  | set s => rfl
  | leave g => exact congrArg (Prod.mk ()) (sys.forget_leave g).symm
  | start j => rfl
  | cancel t => exact sys.forget_cancelWithin t _
  | cancelling => rfl

variable [DecidableEq E.Job]

lemma forget_begin (self : TaskId) (q : Suspension E) :
    sys.forget.begin self q = ((sys.begin self q).1, (sys.begin self q).2.forget) := by
  cases q with
  | wait w =>
      have reply : M.recording.wait self w sys.world
          = ((M.wait self w sys.world.1).1, (M.wait self w sys.world.1).2,
            sys.world.2 ++ [⟨self, .begin w, sys.world.1⟩]) := rfl
      have world : sys.forget.world = sys.world.1 := rfl
      simp only [begin]
      rw [reply, world]
      cases M.wait self w sys.world.1 with
      | mk v w' => cases v <;> rfl
  | enter g =>
      have gates : sys.forget.gates = sys.gates := rfl
      simp only [begin, gates]
      split <;> rfl
  | join j u =>
      have tasks : sys.forget.tasks = sys.tasks := rfl
      simp only [begin, tasks]
      split <;> rfl
  | watch j u =>
      have tasks : sys.forget.tasks = sys.tasks := rfl
      simp only [begin, tasks]
      split <;> rfl

lemma forget_perform (self : TaskId) (o : Origin P) (r : Routine E o.Out) :
    (sys.perform self o r).forget = sys.forget.perform self o r := by
  induction r generalizing sys with
  | done x => rfl
  | ask q k ih =>
      rw [perform, perform, forget_reply]
      exact ih _ _
  | await q k ih =>
      have pending : sys.forget.isPending self = sys.isPending self := rfl
      have suspends : sys.forget.suspends q = sys.suspends q := by cases q <;> rfl
      have begins := sys.forget_begin self q
      rw [perform, perform, pending, suspends]
      split
      · cases q with
        | join j u => exact (congrArg Prod.snd (forget_cancelWithin _ u _)).symm
        | wait w => rfl
        | enter g => rfl
        | watch j u => rfl
      · rw [begins]
        cases sys.begin self q with
        | mk prospect next =>
            cases prospect with
            | now x => exact ih x next
            | later x => rfl
            | unknown => rfl

lemma forget_resume (t : TaskId) : (sys.resume t).forget = sys.forget.resume t := by
  have tasks : sys.forget.tasks = sys.tasks := rfl
  rw [resume, resume, tasks]
  cases sys.tasks[t]? with
  | none => rfl
  | some task =>
      obtain ⟨o, f, p, c⟩ := task
      cases f with
      | running => rfl
      | waiting q k => rfl
      | ended x => rfl
      | fresh =>
          cases p with
          | true => rfl
          | false => exact forget_perform _ t o _
      | ready q x k =>
          cases p with
          | false => exact forget_perform _ t o _
          | true =>
              -- a place that was granted is passed on first
              cases q with
              | enter g =>
                  cases x with
                  | returned u =>
                      have left := (sys.update t fun _ => ⟨o, .running, false, c⟩).forget_leave g
                      refine (forget_perform _ t o _).trans ?_
                      exact congrArg (perform t o · (k .cancelled)) left
                  | failed e => exact forget_perform _ t o _
                  | cancelled => exact forget_perform _ t o _
              | wait w => exact forget_perform _ t o _
              | join j u => exact forget_perform _ t o _
              | watch j u => exact forget_perform _ t o _

lemma forget_apply (choice : Choice P) : (sys.apply choice).forget = sys.forget.apply choice := by
  cases choice with
  | turn t => exact sys.forget_resume t
  | call c => rfl
  | cancel t => exact (congrArg Prod.snd (sys.forget_cancelWithin t _)).symm
  | release t => exact sys.forget_release t

/-- **A record makes no difference**, whatever the schedule. -/
theorem forget_follow (schedule : List (Choice P)) :
    (sys.follow schedule).forget = sys.forget.follow schedule := by
  induction schedule generalizing sys with
  | nil => rfl
  | cons choice rest ih =>
      have step := ih (sys.apply choice)
      rw [forget_apply] at step
      exact step

end System

/-! ## What is used by one task only -/

section Uses

open List

variable {uses : Move E → Prop} {record : List (Entry M)} {e : Entry M}

/-- From a task's first use of something to the last thing that the task does, no other task uses
it. -/
def Undisturbed (uses : Move E → Prop) (record : List (Entry M)) : Prop :=
  ∀ a d b, [a, d, b] <+ record → uses a.move → uses d.move → b.task = a.task → d.task = a.task

/-- What is found in order in a record with one more entry. -/
lemma sublist_concat {l : List (Entry M)} {b : Entry M} (found : l ++ [b] <+ record ++ [e]) :
    l ++ [b] <+ record ∨ b = e ∧ l <+ record := by
  have reversed := List.reverse_sublist.mpr found
  rw [List.reverse_append, List.reverse_append] at reversed
  rcases List.sublist_cons_iff.mp reversed with before | ⟨_, same, rest⟩
  · exact .inl (List.reverse_sublist.mp (by rwa [List.reverse_append]))
  · cases same
    exact .inr ⟨rfl, List.reverse_sublist.mp rest⟩

/-- No other task has used something since a task first used it. -/
def Untouched (uses : Move E → Prop) (t : TaskId) (record : List (Entry M)) : Prop :=
  ∀ a d, [a, d] <+ record → uses a.move → uses d.move → a.task = t → d.task = t

lemma Undisturbed.concat (before : Undisturbed uses record)
    (own : Untouched uses e.task record) : Undisturbed uses (record ++ [e]) := by
  intro a d b found usesA usesD same
  rcases sublist_concat (l := [a, d]) found with earlier | ⟨rfl, earlier⟩
  · exact before a d b earlier usesA usesD same
  · exact (own a d earlier usesA usesD same.symm).trans same

lemma Untouched.concat {t : TaskId} (before : Untouched uses t record)
    (own : uses e.move → e.task = t) : Untouched uses t (record ++ [e]) := by
  intro a d found usesA usesD here
  rcases sublist_concat (l := [a]) found with earlier | ⟨rfl, -⟩
  · exact before a d earlier usesA usesD here
  · exact own usesD

end Uses

end Montage
