import Mathlib.Tactic.Common
import Montage.Proofs.Routine.Evolution
import Montage.Proofs.Routine.Invariants

/-!
# Who is asked to stop

A task can be asked to stop by any other, by itself, and from outside.  Whoever asks is told whether
the task had not ended yet, and the task remembers that it was asked.

* `Outlived` — everybody is still there, and was asked to stop no less often; `System.of_heard` —
  what a reply in a turn has brought about outlasts the turn.
* `System.present_resume` — who is told of a task that was started finds it.
* `Event.asksToStop` — somebody asks and is told that the task had not ended yet.
* `System.Asked` — a task was asked to stop; `Asked.follow` — and stays so.
* **`System.asked_follow`** — who is told that a task had not ended yet has asked it to stop.
-/

namespace Montage

variable {E : Interface} {P : Program E}

/-- A task is asked to stop, and whoever asks is told that it had not ended yet. -/
def Event.asksToStop (t : TaskId) : Event E → Bool
  | .asked (.cancel u) told => told && u == t
  | _ => false

lemma Event.asksToStop_iff {t : TaskId} {e : Event E} :
    e.asksToStop t = true ↔ e = .asked (.cancel t) true := by
  refine ⟨fun asks => ?_, fun same => by rw [same]; exact beq_self_eq_true t⟩
  cases e with
  | awaited s x => cases asks
  | asked q v =>
      cases q with
      | cancel u =>
          obtain ⟨rfl, same⟩ := Bool.and_eq_true_iff.mp asks
          rw [eq_of_beq same]
      | _ => cases asks

/-- Everybody is still there, and was asked to stop no less often. -/
def Outlived (tasks tasks' : List (Task P)) : Prop :=
  ∀ (i : TaskId) (task : Task P), tasks[i]? = some task →
    ∃ task' : Task P, tasks'[i]? = some task' ∧ task'.origin = task.origin
      ∧ task.cancels ≤ task'.cancels

lemma Outlived.trans {tasks tasks' tasks'' : List (Task P)} (first : Outlived tasks tasks')
    (rest : Outlived tasks' tasks'') : Outlived tasks tasks'' := by
  intro i task found
  obtain ⟨task', found', origin, more⟩ := first i task found
  obtain ⟨task'', found'', origin', more'⟩ := rest i task' found'
  exact ⟨task'', found'', origin'.trans origin, Nat.le_trans more more'⟩

/-- Who was asked to stop was asked. -/
lemma Outlived.asked {tasks tasks' : List (Task P)} {t : TaskId} (outlived : Outlived tasks tasks')
    (asked : ∃ task, tasks[t]? = some task ∧ 0 < task.cancels) :
    ∃ task, tasks'[t]? = some task ∧ 0 < task.cancels := by
  obtain ⟨task, found, positive⟩ := asked
  obtain ⟨task', found', -, more⟩ := outlived t task found
  exact ⟨task', found', Nat.lt_of_lt_of_le positive more⟩

/-- Who runs a job runs it. -/
lemma Outlived.origin {tasks tasks' : List (Task P)} {t : TaskId} {o : Origin P}
    (outlived : Outlived tasks tasks') (known : ∃ task, tasks[t]? = some task ∧ task.origin = o) :
    ∃ task, tasks'[t]? = some task ∧ task.origin = o := by
  obtain ⟨task, found, same⟩ := known
  obtain ⟨task', found', still, -⟩ := outlived t task found
  exact ⟨task', found', still.trans same⟩

/-- One of them changes, and is still the same one. -/
lemma outlived_modify {tasks : List (Task P)} {u : TaskId} {f : Task P → Task P}
    (same : ∀ task, tasks[u]? = some task →
      (f task).origin = task.origin ∧ task.cancels ≤ (f task).cancels) :
    Outlived tasks (tasks.modify u f) := by
  intro i task found
  rw [List.getElem?_modify, found]
  by_cases here : u = i
  · subst here
    exact ⟨f task, by simp, same task found⟩
  · exact ⟨task, by simp [here], rfl, Nat.le_refl _⟩

lemma Task.Nudged.more {t t' : Task P} (nudged : t.Nudged t') :
    t'.origin = t.origin ∧ t.cancels ≤ t'.cancels := by
  cases nudged with
  | flags more => exact ⟨rfl, more⟩
  | woken more => exact ⟨rfl, more⟩

lemma Gently.outlived [DecidableEq E.Job] {tasks tasks' : List (Task P)}
    (gentle : Gently tasks tasks') : Outlived tasks tasks' := by
  intro i task found
  obtain ⟨task', found', nudged, -⟩ := gentle.each i task found
  exact ⟨task', found', nudged.more⟩

namespace System

variable {M : Machine E}

/-- A task was asked to stop, by whomever and whether it has heard of that or not. -/
def Asked (sys : System P M) (t : TaskId) : Prop :=
  ∃ task, sys.tasks[t]? = some task ∧ 0 < task.cancels

variable {t : TaskId}

variable [DecidableEq E.Gate] [DecidableEq E.Job]

/-- Who is told that a task had not ended yet has asked it to stop. -/
lemma asked_cancelWithin {sys : System P M} {depth : Nat}
    (told : (sys.cancelWithin t depth).1 = true) : (sys.cancelWithin t depth).2.Asked t := by
  cases depth with
  | zero => cases told
  | succ depth =>
      cases found : sys.tasks[t]? with
      | none => simp only [cancelWithin, found] at told; cases told
      | some task =>
          obtain ⟨o, f, p, c⟩ := task
          have counted : (sys.count t).tasks[t]? = some ⟨o, f, p, c + 1⟩ := by
            rw [count, update, List.getElem?_modify_eq, found]
            rfl
          have marked :
              ((sys.count t).update t fun task => { task with pending := true }).Asked t := by
            refine ⟨_, by rw [update, List.getElem?_modify_eq, counted]; rfl, Nat.succ_pos c⟩
          have interrupted : ∀ s, ((sys.count t).interrupt t s).Asked t := by
            intro s
            rw [Asked, tasks_interrupt]
            exact (outlived_modify fun task _ => (task.nudged_answer _).more).asked
              ⟨_, counted, Nat.succ_pos c⟩
          rw [cancelWithin] at told ⊢
          simp only [found] at told ⊢
          cases f with
          | fresh => exact marked
          | running => exact marked
          | ready s x k => exact marked
          | ended x => cases told
          | waiting s k =>
              cases s with
              | wait w => exact interrupted _
              | enter g => exact interrupted _
              | watch j v => exact interrupted _
              | join j v =>
                  dsimp only
                  split
                  · rename_i next passed
                    have further := gently.cancelWithin (sys.count t) v depth
                    rw [count, passed] at further
                    exact further.outlived.asked ⟨_, counted, Nat.succ_pos c⟩
                  · exact marked

/-! ## What a reply has brought about -/

variable {actor : TaskId} {o : Origin P}

lemma outlived_perform {sys : System P M} {p : Bool} {c : Nat}
    (running : sys.tasks[actor]? = some ⟨o, .running, p, c⟩) (r : Routine E o.Out) :
    Outlived sys.tasks (perform actor o sys r).tasks := by
  have parks : ∀ {sys : System P M} {p : Bool} {c : Nat} (f : Fiber E o.Out),
      sys.tasks[actor]? = some ⟨o, .running, p, c⟩ →
      Outlived sys.tasks (parked sys.tasks actor o f) :=
    fun f running => outlived_modify fun task found => by
      cases running.symm.trans found
      exact ⟨rfl, Nat.le_refl _⟩
  induction r generalizing sys p c with
  | done x =>
      rw [perform, tasks_finish running]
      have ends : Outlived sys.tasks
          (sys.tasks.modify actor fun _ => ⟨o, .ended (endOf p x), false, c⟩) :=
        outlived_modify fun task found => by
          cases running.symm.trans found
          exact ⟨rfl, Nat.le_refl c⟩
      refine ends.trans fun i task found => ?_
      rw [announced, List.getElem?_map, found]
      exact ⟨_, rfl, (task.nudged_answer _).more⟩
  | ask q k ih =>
      have gentle := gently.reply sys actor q
      obtain ⟨p', c', running', -⟩ := gentle.running running
      exact gentle.outlived.trans (ih _ running')
  | await s k ih =>
      have stops : ∀ f : Fiber E o.Out, Outlived sys.tasks (parked (sys.update actor fun task =>
          { task with pending := false }).tasks actor o f) := fun f => by
        have running' := running_calmed running
        have taken : Outlived sys.tasks
            (sys.update actor fun task => { task with pending := false }).tasks :=
          outlived_modify fun _ _ => ⟨rfl, Nat.le_refl _⟩
        exact taken.trans (parks f running')
      have awaits := awaits_perform actor o sys s k
      generalize heard actor o sys (.await s k) = h at awaits
      generalize (perform actor o sys (.await s k)).tasks = after at awaits ⊢
      cases awaits with
      | stopped => exact stops _
      | @passed j u k waiting _ _ tasks depth =>
          have waits : Outlived sys.tasks waiting.tasks := tasks ▸ stops _
          exact waits.trans (gently.cancelWithin waiting u depth).outlived
      | @now _ _ x sys' begun tasks =>
          rw [← tasks] at running ⊢
          exact ih x running
      | later => exact parks _ running
      | unknown => exact parks _ running

variable {Q : List (Task P) → Prop}
  (stays : ∀ {tasks tasks'}, Outlived tasks tasks' → Q tasks → Q tasks')
  {q : Request E} {v : q.Reply}
  (told : ∀ (sys : System P M) actor, (sys.reply actor q).1 = v → Q (sys.reply actor q).2.tasks)

include stays told in
/-- What holds after a reply, and goes on holding, holds after a performance with that reply in
it. -/
lemma of_heard (r : Routine E o.Out) {sys : System P M} {p : Bool} {c : Nat}
    (running : sys.tasks[actor]? = some ⟨o, .running, p, c⟩)
    (asks : .asked q v ∈ heard actor o sys r) : Q (perform actor o sys r).tasks := by
  induction r generalizing sys p c with
  | done x => exact absurd asks List.not_mem_nil
  | ask q' k ih =>
      obtain ⟨p', c', running', -⟩ := (gently.reply sys actor q').running running
      rcases List.mem_cons.mp asks with same | later
      · injection same with request reply
        subst request
        exact stays (outlived_perform running' _) (told sys actor (eq_of_heq reply).symm)
      · exact ih _ running' later
  | await s k ih =>
      have awaits := awaits_perform actor o sys s k
      generalize heard actor o sys (.await s k) = h at awaits asks
      generalize (perform actor o sys (.await s k)).tasks = after at awaits ⊢
      cases awaits with
      | @now _ _ x sys' begun tasks =>
          rw [← tasks] at running
          rcases List.mem_cons.mp asks with same | later
          · cases same
          · exact ih x running later
      | _ => exact absurd asks List.not_mem_nil

include stays told in
/-- So it does after a turn. -/
lemma of_heardIn (sys : System P M) {i : TaskId} (asks : .asked q v ∈ sys.heardIn i) :
    Q (sys.resume i).tasks := by
  revert asks
  refine sys.resume_induction
    (motive := fun h next => .asked q v ∈ h → Q next.tasks) i
    (fun asks => absurd asks List.not_mem_nil) (fun o c asks => absurd asks List.not_mem_nil)
    fun o p c start r before _ running awaited asks => ?_
  refine of_heard stays told r running ((List.mem_append.mp asks).resolve_left fun among => ?_)
  obtain ⟨s, x, same⟩ := awaited _ among
  cases same

/-- Who is told of a task that was started finds it. -/
lemma present_resume (sys : System P M) {i n : TaskId} {j : E.Job}
    (started : Event.asked (.start j) n ∈ sys.heardIn i) :
    ∃ task, (sys.resume i).tasks[n]? = some task ∧ task.origin = .job j := by
  refine of_heardIn (Q := fun tasks => ∃ task, tasks[n]? = some task ∧ task.origin = .job j)
    (q := .start j) (v := n) Outlived.origin (fun sys actor told => ?_) sys started
  subst told
  exact ⟨{ origin := .job j }, List.getElem?_concat_length, rfl⟩

/-- Who was asked to stop was asked, whatever the schedule. -/
lemma Asked.follow {sys : System P M} (asked : sys.Asked t) (sound : sys.Sound)
    (schedule : List (Choice P)) : (sys.follow schedule).Asked t := by
  obtain ⟨⟨o, f, p, c⟩, found, positive⟩ := asked
  obtain ⟨f', p', c', found', more, -⟩ :=
    (evolved_follow sys t schedule).own found (sound t _ found)
  exact ⟨_, found', Nat.lt_of_lt_of_le positive more⟩

end System

end Montage
