import Mathlib.Data.List.Basic
import Mathlib.Tactic.Common
import Montage.Routine.System

/-!
# What tasks do to each other

While one task takes its turn the others do not move.  All that can happen to them is that they are
asked to stop, or that a reply arrives for what they wait for; and a reply that tells the end of a
task tells it as it was.

* `Task.Nudged` — what can happen to a task that does not take a turn.
* `Task.Sound` — **who waits for the end of a task is told of it, and told the truth**.
* `Gently` — a change of all tasks that nudges each and keeps each sound.
* `System.BearsStops`, `BearsRequests` — what a relation between systems, or between lists of tasks,
  must keep to so that it holds over **a request to stop** (`System.BearsStops.cancelWithin`) and
  over **whatever a task may ask for** (`BearsRequests.reply`).  `gently` and the relations of later
  modules are such.
-/

namespace Montage

variable {E : Interface} {P : Program E}

namespace System

variable {M : Machine E} (sys : System P M)

/-- One more request to stop. -/
def count (t : TaskId) : System P M :=
  sys.update t fun task => { task with cancels := task.cancels + 1 }

end System

/-! ## Single tasks -/

namespace Task

/-- What can happen to a task that does not take a turn. -/
inductive Nudged : Task P → Task P → Prop
  | flags {o : Origin P} {f : Fiber E o.Out} {p p' : Bool} {c c' : Nat} (more : c ≤ c') :
      Nudged ⟨o, f, p, c⟩ ⟨o, f, p', c'⟩
  | woken {o : Origin P} {s : Suspension E} {x : Exit s.Answer}
      {k : Exit s.Answer → Routine E o.Out} {p p' : Bool} {c c' : Nat} (more : c ≤ c') :
      Nudged ⟨o, .waiting s k, p, c⟩ ⟨o, .ready s x k, p', c'⟩

/-- A task may be left alone. -/
lemma Nudged.refl (t : Task P) : t.Nudged t := .flags (Nat.le_refl _)

/-- A task may be nudged twice, since a reply comes to it once at most. -/
lemma Nudged.trans {t t' t'' : Task P} (h : t.Nudged t') (h' : t'.Nudged t'') : t.Nudged t'' := by
  cases h with
  | flags more =>
      cases h' with
      | flags more' => exact .flags (Nat.le_trans more more')
      | woken more' => exact .woken (Nat.le_trans more more')
  | woken more =>
      cases h' with
      | flags more' => exact .woken (Nat.le_trans more more')

/-- A reply that arrives, whatever it is and whether it is for this task, nudges the task. -/
lemma nudged_answer (t : Task P) (reply : (s : Suspension E) → Option (Exit s.Answer)) :
    t.Nudged (t.answer reply) := by
  obtain ⟨o, f, p, c⟩ := t
  unfold Task.answer
  cases f with
  | waiting s k =>
      cases h : reply s with
      | none =>
          simp only [h]
          exact .refl _
      | some x =>
          simp only [h]
          exact .woken (Nat.le_refl _)
  | fresh => exact .refl _
  | running => exact .refl _
  | ready s x k => exact .refl _
  | ended x => exact .refl _

variable [DecidableEq E.Job]

/-- A job has ended when its task has. -/
lemma exit?_job {j : E.Job} {f : Fiber E (E.Out j)} {p : Bool} {c : Nat} {x : Exit (E.Out j)} :
    Task.exit? (P := P) ⟨.job j, f, p, c⟩ j = some x ↔ f = .ended x := by
  cases f with
  | ended y => simp [Task.exit?]
  | fresh => simp [Task.exit?]
  | running => simp [Task.exit?]
  | waiting s k => simp [Task.exit?]
  | ready s y k => simp [Task.exit?]

/-- A task that is nudged ends no more than before. -/
lemma Nudged.exit?_eq {t t' : Task P} (h : t.Nudged t') (j : E.Job) : t'.exit? j = t.exit? j := by
  cases h with
  | @flags o f =>
      cases o with
      | call c => cases f <;> rfl
      | job i => cases f <;> rfl
  | @woken o s x k =>
      cases o <;> rfl

end Task

/-! ## Ends -/

/-- Whether a task is at its end. -/
def Fiber.hasEnded {α : Type} : Fiber E α → Bool
  | .ended _ => true
  | _ => false

/-- What is at its end has an outcome. -/
lemma Fiber.eq_ended {α : Type} {f : Fiber E α} (ended : f.hasEnded = true) :
    ∃ x, f = .ended x := by
  cases f with
  | ended x => exact ⟨x, rfl⟩
  | fresh => cases ended
  | running => cases ended
  | waiting s k => cases ended
  | ready s x k => cases ended

/-- Whether who waits so passes a request to stop on. -/
def Suspension.passesOn : Suspension E → Bool
  | .join .. => true
  | _ => false

/-! ## Requests to stop -/

/-- A task that was asked to stop once more. -/
def Task.counted (t : Task P) : Task P := { t with cancels := t.cancels + 1 }

/-- A task that was asked to stop knows of at least one request. -/
lemma cancels_counted {tasks : List (Task P)} {t : TaskId} {task : Task P}
    (found : (tasks.modify t Task.counted)[t]? = some task) : 0 < task.cancels := by
  rw [List.getElem?_modify_eq] at found
  obtain ⟨old, -, rfl⟩ := Option.map_eq_some_iff.mp found
  exact Nat.succ_pos _

/-- A task that a request to stop has yet to reach. -/
def Task.marked (t : Task P) : Task P := { t with pending := true }

namespace System

/-- A relation between systems that a request to stop keeps to, whatever it does on its way. -/
structure BearsStops {M : Machine E} [DecidableEq E.Gate]
    (R : System P M → System P M → Prop) : Prop where
  refl (sys : System P M) : R sys sys
  trans {sys sys' sys'' : System P M} (first : R sys sys') (rest : R sys' sys'') : R sys sys''
  /-- Who waits for the end of another task passes the request on to that task, … -/
  pass {sys : System P M} {u : TaskId} {o : Origin P} {j : E.Job} {v : TaskId}
    {k : Exit (E.Out j) → Routine E o.Out} {p : Bool} {c : Nat}
    (found : sys.tasks[u]? = some ⟨o, .waiting (.join j v) k, p, c⟩) : R sys (sys.count u)
  /-- … who waits for something else hears it as the reply, … -/
  interrupt {sys : System P M} {u : TaskId} {o : Origin P} {s : Suspension E}
    {k : Exit s.Answer → Routine E o.Out} {p : Bool} {c : Nat}
    (found : sys.tasks[u]? = some ⟨o, .waiting s k, p, c⟩) (alone : s.passesOn = false) :
    R sys ((sys.count u).interrupt u s)
  /-- … and for everybody else who has not ended it is kept. -/
  mark {sys : System P M} {u : TaskId} {t : Task P} (found : sys.tasks[u]? = some t)
    (unended : t.fiber.hasEnded = false) : R sys ((sys.count u).update u Task.marked)

/-- **A request to stop in one line**: it goes from task to task, as long as one waits for the end
of the next, and each step on its way keeps to the relation. -/
theorem BearsStops.cancelWithin {M : Machine E} [DecidableEq E.Gate]
    {R : System P M → System P M → Prop} (bears : BearsStops R) (sys : System P M) (t : TaskId)
    (depth : Nat) : R sys (sys.cancelWithin t depth).2 := by
  induction depth generalizing sys t with
  | zero => exact bears.refl sys
  | succ depth ih =>
      rw [System.cancelWithin]
      cases found : sys.tasks[t]? with
      | none => exact bears.refl sys
      | some task =>
          obtain ⟨o, f, p, c⟩ := task
          cases f with
          | fresh => exact bears.mark found rfl
          | running => exact bears.mark found rfl
          | ready s x k => exact bears.mark found rfl
          | ended x => exact bears.refl sys
          | waiting s k =>
              cases s with
              | wait w => exact bears.interrupt found rfl
              | enter g => exact bears.interrupt found rfl
              | watch j u => exact bears.interrupt found rfl
              | join j u =>
                  have further := ih (sys.count t) u
                  dsimp only
                  split
                  · rename_i next passed
                    rw [count, passed] at further
                    exact bears.trans (bears.pass found) further
                  · exact bears.mark found rfl

end System

/-! ## Everything that may be asked for -/

/-- A relation between lists of tasks that whatever one task does to the others keeps to: it asks
them to stop, lets one of them in where it waits, or starts a new one. -/
structure BearsRequests [DecidableEq E.Gate] (T : List (Task P) → List (Task P) → Prop) :
    Prop where
  refl (tasks : List (Task P)) : T tasks tasks
  trans {tasks tasks' tasks'' : List (Task P)} (first : T tasks tasks')
    (rest : T tasks' tasks'') : T tasks tasks''
  pass {tasks : List (Task P)} {u : TaskId} {o : Origin P} {j : E.Job} {v : TaskId}
    {k : Exit (E.Out j) → Routine E o.Out} {p : Bool} {c : Nat}
    (found : tasks[u]? = some ⟨o, .waiting (.join j v) k, p, c⟩) :
    T tasks (tasks.modify u Task.counted)
  interrupt {tasks : List (Task P)} {u : TaskId} {o : Origin P} {s : Suspension E}
    {k : Exit s.Answer → Routine E o.Out} {p : Bool} {c : Nat}
    (found : tasks[u]? = some ⟨o, .waiting s k, p, c⟩) (alone : s.passesOn = false) :
    T tasks ((tasks.modify u Task.counted).modify u fun t => t.answer System.cancelledReply)
  mark {tasks : List (Task P)} {u : TaskId} {t : Task P} (found : tasks[u]? = some t)
    (unended : t.fiber.hasEnded = false) :
    T tasks ((tasks.modify u Task.counted).modify u Task.marked)
  /-- The first in line gets a place that was given up. -/
  grant (tasks : List (Task P)) (u : TaskId) (g : E.Gate) :
    T tasks (tasks.modify u fun t => t.answer (System.admitted g))
  spawn (tasks : List (Task P)) (o : Origin P) : T tasks (tasks ++ [{ origin := o }])

/-- Interrupting a task answers it with the request to stop and touches no other. -/
lemma System.tasks_interrupt {M : Machine E} [DecidableEq E.Gate] (sys : System P M) (u : TaskId)
    (s : Suspension E) : (sys.interrupt u s).tasks
      = sys.tasks.modify u fun t => t.answer System.cancelledReply := by
  cases s <;> rfl

namespace BearsRequests

variable [DecidableEq E.Gate] {T : List (Task P) → List (Task P) → Prop} {M : Machine E}

/-- A relation that whatever a task asks for keeps to is kept to by a request to stop on its way. -/
lemma stops (bears : BearsRequests T) :
    System.BearsStops fun sys sys' : System P M => T sys.tasks sys'.tasks where
  refl sys := bears.refl sys.tasks
  trans := bears.trans
  pass found := bears.pass found
  interrupt found alone := by
    rw [System.tasks_interrupt]
    exact bears.interrupt found alone
  mark found unended := bears.mark found unended

/-- Asking a task to stop, and those whose ends it waits for, keeps to the relation. -/
lemma cancelWithin (bears : BearsRequests T) (sys : System P M) (t : TaskId) (depth : Nat) :
    T sys.tasks (sys.cancelWithin t depth).2.tasks :=
  bears.stops.cancelWithin sys t depth

/-- So does giving a place up, whoever gets it next. -/
lemma leave (bears : BearsRequests T) (sys : System P M) (g : E.Gate) :
    T sys.tasks (sys.leave g).tasks := by
  unfold System.leave
  dsimp only
  split
  · exact bears.refl sys.tasks
  · exact bears.grant sys.tasks _ g

/-- **Whatever a task asks for, the others change as the relation says.** -/
theorem reply (bears : BearsRequests T) (sys : System P M) (self : TaskId) (q : Request E) :
    T sys.tasks (sys.reply self q).2.tasks := by
  cases q with
  | act a => exact bears.refl sys.tasks
  | get => exact bears.refl sys.tasks
  | set s => exact bears.refl sys.tasks
  | leave g => exact bears.leave sys g
  | start j => exact bears.spawn sys.tasks (.job j)
  | cancel t => exact bears.cancelWithin sys t _
  | cancelling => exact bears.refl sys.tasks

end BearsRequests

/-! ## Ends of jobs -/

variable [DecidableEq E.Job]

/-- A task that has not ended tells of no end. -/
lemma Task.exit?_of_unended {t : Task P} (unended : t.fiber.hasEnded = false) (j : E.Job) :
    t.exit? j = none := by
  obtain ⟨o, f, p, c⟩ := t
  cases o with
  | call c => cases f <;> rfl
  | job i =>
      cases f with
      | ended x => cases unended
      | fresh => rfl
      | running => rfl
      | waiting s k => rfl
      | ready s x k => rfl

/-- How a job ended that runs as a task with a given number. -/
def exitOf (tasks : List (Task P)) (u : TaskId) (j : E.Job) : Option (Exit (E.Out j)) :=
  tasks[u]?.bind fun task => task.exit? j

/-- Nor does anybody hear of its end through its number. -/
lemma exitOf_of_unended {tasks : List (Task P)} {u : TaskId} {t : Task P}
    (found : tasks[u]? = some t) (unended : t.fiber.hasEnded = false) (j : E.Job) :
    exitOf tasks u j = none := by
  rw [exitOf, found]
  exact t.exit?_of_unended unended j

/-- A reply that tells the end of a task tells it as it was, unless the asking task was asked to
stop meanwhile. -/
def Justified (tasks : List (Task P)) (cancels : Nat) : (s : Suspension E) → Exit s.Answer → Prop
  | .join j u, x | .watch j u, x => exitOf tasks u j = some x ∨ x = .cancelled ∧ 0 < cancels
  | _, _ => True

/-- A reply that a task has got without having seen it.  A request to stop takes the place of an end
that is waited for only where the wait is not passed on. -/
def Answered (tasks : List (Task P)) (cancels : Nat) : (s : Suspension E) → Exit s.Answer → Prop
  | .join j u, x => exitOf tasks u j = some x
  | .watch j u, x => exitOf tasks u j = some x ∨ x = .cancelled ∧ 0 < cancels
  | _, _ => True

/-- The end that is waited for has not come yet. -/
def Unanswered (tasks : List (Task P)) : Suspension E → Prop
  | .join j u | .watch j u => exitOf tasks u j = none
  | _ => True

/-- Who waits for the end of a task is told of it, and told the truth. -/
def Fiber.Sound {α : Type} (tasks : List (Task P)) (cancels : Nat) : Fiber E α → Prop
  | .waiting s _ => Unanswered tasks s
  | .ready s x _ => Answered tasks cancels s x
  | _ => True

/-- What is known of a task between two turns: its reply, if it has one, is a right one, and a
request that has yet to reach it was counted. -/
structure Task.Sound (tasks : List (Task P)) (t : Task P) : Prop where
  fiber : t.fiber.Sound tasks t.cancels
  counted : t.pending = true → 0 < t.cancels

variable {tasks tasks' tasks'' : List (Task P)} {c c' : Nat}

/-- A task that no request to stop has yet to reach. -/
lemma Task.Sound.calm {o : Origin P} {f : Fiber E o.Out} (fiber : f.Sound tasks c) :
    Task.Sound tasks ⟨o, f, false, c⟩ :=
  ⟨fiber, fun pending => absurd pending Bool.false_ne_true⟩

/-- A justified reply stays so while ends stay known and requests are only added. -/
lemma Justified.of_ends {s : Suspension E} {x : Exit s.Answer} (h : Justified tasks c s x)
    (more : c ≤ c') (ends : ∀ u j x, exitOf tasks u j = some x → exitOf tasks' u j = some x) :
    Justified tasks' c' s x := by
  cases s with
  | wait w => trivial
  | enter g => trivial
  | join j u => exact h.imp (ends u j x) fun h => ⟨h.1, Nat.lt_of_lt_of_le h.2 more⟩
  | watch j u => exact h.imp (ends u j x) fun h => ⟨h.1, Nat.lt_of_lt_of_le h.2 more⟩

/-- A reply that was given without the task having seen it is justified. -/
lemma Answered.justified {s : Suspension E} {x : Exit s.Answer} (h : Answered tasks c s x) :
    Justified tasks c s x := by
  cases s with
  | wait w => trivial
  | enter g => trivial
  | join j u => exact .inl h
  | watch j u => exact h

/-- A reply given stays a right one while ends stay known and requests are only added. -/
lemma Answered.of_ends {s : Suspension E} {x : Exit s.Answer} (h : Answered tasks c s x)
    (more : c ≤ c') (ends : ∀ u j x, exitOf tasks u j = some x → exitOf tasks' u j = some x) :
    Answered tasks' c' s x := by
  cases s with
  | wait w => trivial
  | enter g => trivial
  | join j u => exact ends u j x h
  | watch j u => exact h.imp (ends u j x) fun h => ⟨h.1, Nat.lt_of_lt_of_le h.2 more⟩

/-- A request to stop is a reply wherever it is not passed on. -/
lemma Answered.cancelled {s : Suspension E} (ends : s.passesOn = false) (asked : 0 < c) :
    Answered tasks c s .cancelled := by
  cases s with
  | wait w => trivial
  | enter g => trivial
  | join j u => cases ends
  | watch j u => exact .inr ⟨rfl, asked⟩

/-- Who waits in vain still does when the same tasks have ended. -/
lemma Unanswered.of_ends {s : Suspension E} (h : Unanswered tasks s)
    (ends : ∀ u j, exitOf tasks' u j = exitOf tasks u j) : Unanswered tasks' s := by
  cases s with
  | wait w => trivial
  | enter g => trivial
  | join j u => exact (ends u j).trans h
  | watch j u => exact (ends u j).trans h

/-- Once a task was asked to stop, hearing so is justified wherever it waits. -/
lemma Justified.cancelled {s : Suspension E} (asked : 0 < c) : Justified tasks c s .cancelled := by
  cases s with
  | wait w => trivial
  | enter g => trivial
  | join j u => exact .inr ⟨rfl, asked⟩
  | watch j u => exact .inr ⟨rfl, asked⟩

/-- More requests to stop leave sound what is sound. -/
lemma Fiber.Sound.of_more {α : Type} {f : Fiber E α} (h : f.Sound tasks c) (more : c ≤ c') :
    f.Sound tasks c' := by
  cases f with
  | waiting s k => exact h
  | ready s x k => exact Answered.of_ends h more fun _ _ _ ended => ended
  | fresh => trivial
  | running => trivial
  | ended x => trivial

/-- A task is sound as long as the same tasks have ended. -/
lemma Task.Sound.of_ends {t : Task P} (h : t.Sound tasks)
    (ends : ∀ u j, exitOf tasks' u j = exitOf tasks u j) : t.Sound tasks' := by
  refine ⟨?_, h.counted⟩
  have fiber := h.fiber
  cases f : t.fiber with
  | waiting s k =>
      rw [f] at fiber
      exact Unanswered.of_ends fiber ends
  | ready s x k =>
      rw [f] at fiber
      exact Answered.of_ends fiber (Nat.le_refl _) fun u j x h => (ends u j).trans h
  | fresh => trivial
  | running => trivial
  | ended x => trivial

/-! ## All tasks -/

/-- A change of all tasks that nudges each of them, keeps each of them sound, and ends none. -/
structure Gently (tasks tasks' : List (Task P)) : Prop where
  each : ∀ (i : TaskId) (t : Task P), tasks[i]? = some t →
    ∃ t' : Task P, tasks'[i]? = some t' ∧ t.Nudged t' ∧ (t.Sound tasks → t'.Sound tasks')
  ends : ∀ u j, exitOf tasks' u j = exitOf tasks u j

/-- To do nothing is gentle. -/
lemma Gently.refl (tasks : List (Task P)) : Gently tasks tasks :=
  ⟨fun _ t h => ⟨t, h, .refl t, id⟩, fun _ _ => rfl⟩

/-- Gentle changes add up to a gentle change. -/
lemma Gently.trans (h : Gently tasks tasks') (h' : Gently tasks' tasks'') :
    Gently tasks tasks'' where
  each i t ht := by
    obtain ⟨t', ht', nudged, sound⟩ := h.each i t ht
    obtain ⟨t'', ht'', nudged', sound'⟩ := h'.each i t' ht'
    exact ⟨t'', ht'', nudged.trans nudged', sound' ∘ sound⟩
  ends u j := (h'.ends u j).trans (h.ends u j)

/-- A change of one task that leaves its end as it was leaves all ends as they were. -/
lemma exitOf_modify {u : TaskId} {f : Task P → Task P}
    (same : ∀ task, tasks[u]? = some task → ∀ j, (f task).exit? j = task.exit? j) (v : TaskId)
    (j : E.Job) : exitOf (tasks.modify u f) v j = exitOf tasks v j := by
  unfold exitOf
  rw [List.getElem?_modify]
  cases ht : tasks[v]? with
  | none => rfl
  | some task =>
      by_cases here : u = v
      · subst here
        simpa using same task ht j
      · simp [here]

/-- A task that has not ended, before a change of it or after. -/
lemma exitOf_modify_unended {u : TaskId} {t : Task P} {f : Task P → Task P}
    (found : tasks[u]? = some t) (before : t.fiber.hasEnded = false)
    (after : (f t).fiber.hasEnded = false) (v : TaskId) (j : E.Job) :
    exitOf (tasks.modify u f) v j = exitOf tasks v j := by
  refine exitOf_modify (fun task found' j => ?_) v j
  cases found.symm.trans found'
  rw [Task.exit?_of_unended before, Task.exit?_of_unended after]

/-- A change of one task. -/
lemma gently_modify {u : TaskId} {f : Task P → Task P}
    (nudged : ∀ task : Task P, tasks[u]? = some task → task.Nudged (f task))
    (sound : ∀ task : Task P, tasks[u]? = some task → task.Sound tasks → (f task).Sound tasks) :
    Gently tasks (tasks.modify u f) := by
  have ends : ∀ v j, exitOf (tasks.modify u f) v j = exitOf tasks v j :=
    exitOf_modify fun task found j => (nudged task found).exit?_eq j
  refine ⟨fun i t ht => ?_, ends⟩
  by_cases here : u = i
  · subst here
    refine ⟨f t, ?_, nudged t ht, fun h => (sound t ht h).of_ends ends⟩
    rw [List.getElem?_modify_eq, ht]
    rfl
  · refine ⟨t, ?_, .refl t, fun h => h.of_ends ends⟩
    rw [List.getElem?_modify_ne _ _ here, ht]

/-- A task stays sound when what it is told is a right answer to what it waits for. -/
lemma Task.Sound.answer {t : Task P} (h : t.Sound tasks)
    {reply : (s : Suspension E) → Option (Exit s.Answer)}
    (answered : ∀ s k x, t.fiber = .waiting s k → reply s = some x →
      Answered tasks t.cancels s x) : (t.answer reply).Sound tasks := by
  obtain ⟨o, f, p, c⟩ := t
  unfold Task.answer
  cases f with
  | waiting s k =>
      cases hr : reply s with
      | none =>
          simp only [hr]
          exact h
      | some x =>
          simp only [hr]
          exact ⟨answered s k x rfl hr, h.counted⟩
  | fresh => exact h
  | running => exact h
  | ready s x k => exact h
  | ended x => exact h

/-! ## What a system does to its tasks -/

/-- A new task ends nobody. -/
lemma exitOf_append_fresh (o : Origin P) (u : TaskId) (j : E.Job) :
    exitOf (tasks ++ [{ origin := o }]) u j = exitOf tasks u j := by
  unfold exitOf
  rcases Nat.lt_trichotomy u tasks.length with h | rfl | h
  · rw [List.getElem?_append_left h]
  · have none : ({ origin := o } : Task P).exit? j = none := by
      cases o <;> rfl
    simp [none]
  · rw [List.getElem?_eq_none (by simp; omega), List.getElem?_eq_none (by omega)]

/-- To be asked to stop once more is a nudge, whoever is asked. -/
lemma gently_counted (tasks : List (Task P)) (u : TaskId) :
    Gently tasks (tasks.modify u Task.counted) :=
  gently_modify (fun _ _ => .flags (Nat.le_succ _)) fun _ _ h =>
    ⟨h.fiber.of_more (Nat.le_succ _), fun _ => Nat.succ_pos _⟩

/-- **Whatever one task does to the others nudges them at most.** -/
lemma gently [DecidableEq E.Gate] : BearsRequests (Gently (P := P)) where
  refl := .refl
  trans := .trans
  pass _ := gently_counted _ _
  mark _ _ := (gently_counted _ _).trans <| gently_modify (fun _ _ => .flags (Nat.le_refl _))
    fun task found h => ⟨h.fiber, fun _ => (cancels_counted found : 0 < task.cancels)⟩
  interrupt found alone := by
    refine (gently_counted _ _).trans (gently_modify (fun task _ => task.nudged_answer _) ?_)
    refine fun task found' h => h.answer fun s' k' x waits hr => ?_
    rw [List.getElem?_modify_eq, found] at found'
    cases found'
    cases waits
    cases hr
    exact .cancelled alone (Nat.succ_pos _)
  grant tasks u g := by
    refine gently_modify (fun task _ => task.nudged_answer _) fun task _ h =>
      h.answer fun s k x _ hr => ?_
    cases s with
    | wait w => trivial
    | enter g => trivial
    | join j u => cases hr
    | watch j u => cases hr
  spawn tasks o := by
    refine ⟨fun i t h => ?_, exitOf_append_fresh o⟩
    obtain ⟨inside, -⟩ := List.getElem?_eq_some_iff.mp h
    exact ⟨t, (List.getElem?_append_left inside).trans h, .refl t,
      fun sound => sound.of_ends (exitOf_append_fresh o)⟩

/-- Who is in its turn stays in it when it is nudged. -/
lemma Gently.running {i : TaskId} {o : Origin P} {p : Bool} (gentle : Gently tasks tasks')
    (found : tasks[i]? = some ⟨o, .running, p, c⟩) :
    ∃ p' c', tasks'[i]? = some ⟨o, .running, p', c'⟩ ∧ c ≤ c' := by
  obtain ⟨task, found', nudged, -⟩ := gentle.each i _ found
  cases nudged with
  | flags more => exact ⟨_, _, found', more⟩

namespace System

variable {M : Machine E} (sys : System P M)

/-- A held effect that gets its reply. -/
lemma gently_release (t : TaskId) : Gently sys.tasks (sys.release t).tasks := by
  unfold release
  split
  · rename_i o w k pending cancels found
    refine gently_modify (fun task here => ?_) fun task here sound => ?_
    · cases found.symm.trans here
      exact .woken (Nat.le_refl _)
    · cases found.symm.trans here
      exact ⟨trivial, sound.counted⟩
  · exact .refl _

variable [DecidableEq E.Gate]

/-- Beginning to wait changes no task; only the place in a line may be taken. -/
lemma tasks_begin (self : TaskId) (s : Suspension E) :
    (sys.begin self s).2.tasks = sys.tasks := by
  unfold begin
  split
  · split <;> rfl
  · dsimp only
    split <;> rfl
  · split <;> rfl
  · split <;> rfl

end System

end Montage
