import Mathlib.Logic.Relation
import Montage.Proofs.Routine.Asking
import Montage.Proofs.Routine.Regime

/-!
# How far a request to stop goes

A request to stop is for one task; whoever joins another passes it on.  That is all: everybody else
is as before, and so are the record and the surroundings.

* `PassesTo`, `Concerns` — where a request goes on to.
* **`System.tasks_cancel_of_not_concerns`** — nobody else is touched; `System.cancel_eq_true_iff` —
  who asks is told whether the task had not ended yet.
* `Routine.Aloof`, `System.Aloof` — who neither joins others nor asks them to stop;
  `Routine.Solitary` — who joins nobody, `eq_of_concerns` — and so passes nothing on.
* **`System.cancels_follow`** — among such, who was asked to stop was asked from outside.
-/

namespace Montage

variable {E : Interface} {P : Program E}

/-! ## Where requests go -/

/-- Whom a task has joined. -/
def Fiber.joined? {α : Type} : Fiber E α → Option TaskId
  | .waiting (.join _ u) _ => some u
  | _ => none

/-- A task passes a request to stop on. -/
def PassesTo (tasks : List (Task P)) (t u : TaskId) : Prop :=
  ∃ task, tasks[t]? = some task ∧ task.fiber.joined? = some u

/-- A request to stop goes from one task to another. -/
abbrev Concerns (tasks : List (Task P)) : TaskId → TaskId → Prop :=
  Relation.ReflTransGen (PassesTo tasks)

namespace System

variable {M : Machine E} {sys : System P M} {t u i : TaskId}

/-- Who is asked once more joins as before. -/
lemma passesTo_count (passes : PassesTo (sys.count i).tasks t u) : PassesTo sys.tasks t u := by
  obtain ⟨task, found, joined⟩ := passes
  rw [count, update, List.getElem?_modify] at found
  obtain ⟨old, present, rfl⟩ := Option.map_eq_some_iff.mp found
  refine ⟨old, present, ?_⟩
  by_cases here : i = t
  · rwa [if_pos here] at joined
  · rwa [if_neg here] at joined

/-- To count a request changes nothing of where requests go. -/
lemma concerns_count (concerns : Concerns (sys.count i).tasks t u) : Concerns sys.tasks t u :=
  Relation.ReflTransGen.mono (fun _ _ => passesTo_count) t u concerns

/-- A change of one task is none of another. -/
lemma tasks_update_of_ne (sys : System P M) (f : Task P → Task P) (apart : t ≠ i) :
    (sys.update t f).tasks[i]? = sys.tasks[i]? :=
  List.getElem?_modify_ne _ _ apart

variable [DecidableEq E.Gate]

/-- Interrupting a task does nothing to another. -/
lemma tasks_interrupt_of_ne (sys : System P M) (s : Suspension E) (apart : t ≠ i) :
    (sys.interrupt t s).tasks[i]? = sys.tasks[i]? := by
  cases s <;> exact tasks_update_of_ne _ _ apart

/-- **A request to stop touches nobody whom it does not reach.** -/
theorem tasks_cancelWithin_of_not_concerns {depth : Nat} (apart : ¬ Concerns sys.tasks t i) :
    (sys.cancelWithin t depth).2.tasks[i]? = sys.tasks[i]? := by
  induction depth generalizing sys t with
  | zero => rfl
  | succ depth ih =>
      have ne : t ≠ i := fun same => apart (same ▸ .refl)
      have counted : (sys.count t).tasks[i]? = sys.tasks[i]? := tasks_update_of_ne sys _ ne
      have marked : ((sys.count t).update t fun task => { task with pending := true }).tasks[i]?
          = sys.tasks[i]? := (tasks_update_of_ne _ _ ne).trans counted
      rw [cancelWithin]
      cases found : sys.tasks[t]? with
      | none => rfl
      | some task =>
          obtain ⟨o, f, p, c⟩ := task
          cases f with
          | fresh => exact marked
          | running => exact marked
          | ready s x k => exact marked
          | ended x => rfl
          | waiting s k =>
              cases s with
              | wait w => exact (tasks_interrupt_of_ne _ _ ne).trans counted
              | enter g => exact (tasks_interrupt_of_ne _ _ ne).trans counted
              | watch j u => exact (tasks_interrupt_of_ne _ _ ne).trans counted
              | join j u =>
                  have further : ((sys.count t).cancelWithin u depth).2.tasks[i]?
                      = (sys.count t).tasks[i]? := ih fun concerns =>
                    apart (.head ⟨_, found, rfl⟩ (concerns_count concerns))
                  dsimp only
                  split
                  · rename_i next passed
                    rw [count, passed] at further
                    exact further.trans counted
                  · exact marked

/-- Interrupting a task does nothing to the surroundings. -/
lemma world_interrupt (sys : System P M) (t : TaskId) (s : Suspension E) :
    (sys.interrupt t s).world = sys.world := by
  cases s <;> rfl

/-- **A request to stop leaves the surroundings alone.** -/
lemma world_stops : BearsStops fun sys sys' : System P M => sys'.world = sys.world where
  refl _ := rfl
  trans first rest := rest.trans first
  pass _ := rfl
  interrupt _ _ := world_interrupt _ _ _
  mark _ _ := rfl

/-- **Asking a task to stop touches only those it passes the request on to.** -/
lemma tasks_cancel_of_not_concerns (apart : ¬ Concerns sys.tasks t i) :
    (sys.cancel t).2.tasks[i]? = sys.tasks[i]? :=
  tasks_cancelWithin_of_not_concerns apart

/-- Who asks a task to stop is told whether it had not ended yet. -/
lemma cancel_eq_true_iff : (sys.cancel t).1 = true ↔
    ∃ task, sys.tasks[t]? = some task ∧ task.fiber.hasEnded = false := by
  rw [cancel, cancelWithin]
  cases found : sys.tasks[t]? with
  | none => simp
  | some task =>
      obtain ⟨o, f, p, c⟩ := task
      cases f with
      | fresh => simp [Fiber.hasEnded]
      | running => simp [Fiber.hasEnded]
      | ready s x k => simp [Fiber.hasEnded]
      | ended x => simp [Fiber.hasEnded]
      | waiting s k =>
          refine iff_of_true ?_ ⟨_, rfl, rfl⟩
          cases s with
          | wait w => rfl
          | enter g => rfl
          | watch j u => rfl
          | join j u =>
              dsimp only
              split <;> rfl

/-- Who has ended, or was never there, is not asked to stop. -/
lemma cancel_of_told_false (told : (sys.cancel t).1 = false) : (sys.cancel t).2 = sys := by
  have absent : ¬ ∃ task, sys.tasks[t]? = some task ∧ task.fiber.hasEnded = false := by
    rw [← cancel_eq_true_iff, told]
    exact Bool.false_ne_true
  rw [cancel, cancelWithin]
  cases found : sys.tasks[t]? with
  | none => rfl
  | some task =>
      obtain ⟨o, f, p, c⟩ := task
      cases f with
      | ended x => rfl
      | fresh => exact absurd ⟨_, found, rfl⟩ absent
      | running => exact absurd ⟨_, found, rfl⟩ absent
      | ready s x k => exact absurd ⟨_, found, rfl⟩ absent
      | waiting s k => exact absurd ⟨_, found, rfl⟩ absent

end System

/-! ## Tasks that keep to themselves -/

/-- A routine neither joins others nor asks them to stop. -/
abbrev Routine.Aloof {α : Type} (r : Routine E α) : Prop :=
  r.Within (fun q => ∀ t, q ≠ .cancel t) fun s => s.passesOn = false

/-- A routine joins nobody. -/
abbrev Routine.Solitary {α : Type} (r : Routine E α) : Prop :=
  r.Within (fun _ => True) fun s => s.passesOn = false

/-- Who is aloof joins nobody. -/
lemma Routine.Aloof.solitary {α : Type} {r : Routine E α} (aloof : r.Aloof) : r.Solitary :=
  Within.mono aloof (fun _ _ => trivial) fun _ => id

section Rests

variable {α : Type} {r : Routine E α} {f f' : Fiber E α} {asks : Request E → Prop}
  {awaits : Suspension E → Prop}

/-- What is left of a routine asks for nothing else either. -/
lemma Routine.Within.evolves {c : Nat} {h : History E} (within : (f.rest r).Within asks awaits)
    (evolves : Evolves r c f h f') : (f'.rest r).Within asks awaits := by
  cases evolves with
  | still => exact within
  | unbegun => exact maintains_done _
  | comes comes =>
      cases comes with
      | waiting leads => exact (Within.leads within leads).2
      | ready leads => exact (Within.leads within leads).2
      | ended plays => exact maintains_done _
      | lost plays => exact maintains_done _

/-- Who may not join anybody has not. -/
lemma joined?_eq_none (within : (f.rest r).Within asks awaits)
    (alone : ∀ s, awaits s → s.passesOn = false) : f.joined? = none := by
  cases f with
  | waiting s k =>
      cases s with
      | join j u => cases alone _ (Routine.obeys_await_iff.mp (within () trivial)).1
      | _ => rfl
  | _ => rfl

end Rests

/-- Who has joined nobody passes nothing on. -/
lemma eq_of_concerns {tasks : List (Task P)} {t i : TaskId}
    (alone : ∀ task, tasks[t]? = some task → task.fiber.joined? = none)
    (concerns : Concerns tasks t i) : i = t := by
  rcases Relation.ReflTransGen.cases_head concerns with same | ⟨u, ⟨task, found, joined⟩, -⟩
  · exact same.symm
  · cases (alone task found).symm.trans joined

/-- All routines of a program keep to themselves: none joins another task, and none asks one to
stop. -/
def Program.Aloof (P : Program E) : Prop := ∀ o : Origin P, o.routine.Aloof

/-- How often a task was asked to stop. -/
def cancelsAt (tasks : List (Task P)) (i : TaskId) : Nat := tasks[i]?.elim 0 Task.cancels

section Cancels

variable {tasks : List (Task P)} {i : TaskId}

/-- A change of a task that is no request to stop adds none. -/
lemma cancelsAt_modify {u : TaskId} {f : Task P → Task P}
    (same : ∀ task, tasks[u]? = some task → (f task).cancels = task.cancels) :
    cancelsAt (tasks.modify u f) i = cancelsAt tasks i := by
  unfold cancelsAt
  rw [List.getElem?_modify]
  cases found : tasks[i]? with
  | none => rfl
  | some task =>
      by_cases here : u = i
      · subst here
        simpa using same task found
      · simp [here]

/-- A reply is no request to stop. -/
lemma Task.cancels_answer (task : Task P) (reply : (s : Suspension E) → Option (Exit s.Answer)) :
    (task.answer reply).cancels = task.cancels := by
  obtain ⟨o, f, p, c⟩ := task
  unfold Task.answer
  cases f with
  | waiting s k =>
      cases h : reply s with
      | none => simp only [h]
      | some x => simp only [h]
  | _ => rfl

/-- A new task adds no request to those before. -/
lemma cancelsAt_append_fresh (o : Origin P) :
    cancelsAt (tasks ++ [{ origin := o }]) i = cancelsAt tasks i := by
  unfold cancelsAt
  rcases Nat.lt_trichotomy i tasks.length with h | rfl | h
  · rw [List.getElem?_append_left h]
  · simp
  · rw [List.getElem?_eq_none (by simp; omega), List.getElem?_eq_none (by omega)]

/-- Neither does the news of an end. -/
lemma cancelsAt_announced [DecidableEq E.Job] {actor : TaskId} {o : Origin P} {p : Bool} {c : Nat}
    (running : tasks[actor]? = some ⟨o, .running, p, c⟩) (x : Exit o.Out) :
    cancelsAt (announced tasks actor ⟨o, .ended x, false, c⟩) i = cancelsAt tasks i := by
  have ended : cancelsAt (tasks.modify actor fun _ => ⟨o, .ended x, false, c⟩) i
      = cancelsAt tasks i := cancelsAt_modify fun task found => by
    cases running.symm.trans found
    rfl
  rw [← ended]
  unfold announced cancelsAt
  rw [List.getElem?_map]
  cases (tasks.modify actor fun _ => (⟨o, .ended x, false, c⟩ : Task P))[i]? with
  | none => rfl
  | some task => exact task.cancels_answer _

end Cancels

namespace System

variable {M : Machine E} {sys : System P M}

/-- All tasks keep to themselves. -/
def Aloof (sys : System P M) : Prop :=
  ∀ (i : TaskId) (task : Task P), sys.tasks[i]? = some task →
    (task.fiber.rest task.origin.routine).Aloof

/-- Neither does the beginning of a turn. -/
lemma cancelsAt_begun {t : TaskId} {o : Origin P} {f : Fiber E o.Out} {p : Bool} {c : Nat}
    (found : sys.tasks[t]? = some ⟨o, f, p, c⟩) (p' : Bool) (i : TaskId) :
    cancelsAt (sys.begun t o p' c).tasks i = cancelsAt sys.tasks i :=
  cancelsAt_modify fun task found' => by
    cases found.symm.trans found'
    rfl

variable [DecidableEq E.Gate]

/-- Neither does leaving a gate. -/
lemma cancelsAt_leave (sys : System P M) (g : E.Gate) (i : TaskId) :
    cancelsAt (sys.leave g).tasks i = cancelsAt sys.tasks i := by
  unfold leave
  dsimp only
  split
  · rfl
  · exact cancelsAt_modify fun task _ => task.cancels_answer _

variable [DecidableEq E.Job]

/-- **A turn of who keeps to himself asks nobody to stop.** -/
lemma cancelsAt_perform {actor : TaskId} {o : Origin P} {p : Bool} {c : Nat} {r : Routine E o.Out}
    (aloof : r.Aloof) (running : sys.tasks[actor]? = some ⟨o, .running, p, c⟩) (i : TaskId) :
    cancelsAt (perform actor o sys r).tasks i = cancelsAt sys.tasks i := by
  induction r generalizing sys p c with
  | done x =>
      rw [perform, tasks_finish running]
      exact cancelsAt_announced running _
  | ask q k ih =>
      obtain ⟨may, rest⟩ := Routine.obeys_ask_iff.mp (aloof () trivial)
      obtain ⟨p', c', running', -⟩ := (gently.reply sys actor q).running running
      have same : cancelsAt (sys.reply actor q).2.tasks i = cancelsAt sys.tasks i := by
        cases q with
        | leave g => exact sys.cancelsAt_leave g i
        | start j => exact cancelsAt_append_fresh _
        | cancel t => exact absurd rfl (may t)
        | _ => rfl
      rw [← same]
      exact ih _ (fun _ _ => rest _ _ trivial) running'
  | await s k ih =>
      obtain ⟨may, rest⟩ := Routine.obeys_await_iff.mp (aloof () trivial)
      have parks : ∀ (tasks : List (Task P)) (f : Fiber E o.Out),
          cancelsAt (parked tasks actor o f) i = cancelsAt tasks i :=
        fun _ _ => cancelsAt_modify fun _ _ => rfl
      have taken : cancelsAt (sys.update actor fun task => { task with pending := false }).tasks i
          = cancelsAt sys.tasks i := cancelsAt_modify fun _ _ => rfl
      have awaits := awaits_perform actor o sys s k
      generalize heard actor o sys (.await s k) = h at awaits
      generalize (perform actor o sys (.await s k)).tasks = after at awaits ⊢
      cases awaits with
      | stopped => exact (parks _ _).trans taken
      | passed => cases may
      | @now _ _ x sys' begun tasks =>
          rw [← tasks]
          exact ih x (fun _ _ => rest _ _ trivial) (tasks ▸ running)
      | later => exact parks _ _
      | unknown => exact parks _ _

/-- **A turn asks nobody to stop** where all are aloof. -/
lemma cancelsAt_resume (aloof : sys.Aloof) (t i : TaskId) :
    cancelsAt (sys.resume t).tasks i = cancelsAt sys.tasks i := by
  have goes : ∀ {o : Origin P} {s : Suspension E} {k : Exit s.Answer → Routine E o.Out} {f p c},
      sys.tasks[t]? = some ⟨o, f, p, c⟩ → f.rest o.routine = .await s k → ∀ y, (k y).Aloof := by
    intro o s k f p c found waits y
    have keeps : (f.rest o.routine).Aloof := aloof t _ found
    rw [waits] at keeps
    exact (Routine.Within.leads keeps (.await (x := y) (.refl _))).2
  have takes := sys.takes_resume t
  generalize sys.heardIn t = h at takes
  generalize sys.resume t = next at takes ⊢
  cases takes with
  | idle => rfl
  | unbegun found =>
      have running := running_begun found true
      rw [tasks_finish running]
      exact (cancelsAt_announced running _).trans (cancelsAt_begun found true i)
  | begins found running =>
      exact (cancelsAt_perform (aloof t _ found) running i).trans (cancelsAt_begun found false i)
  | @goes o s x k c found running =>
      exact (cancelsAt_perform (goes found rfl x) running i).trans (cancelsAt_begun found false i)
  | @stopped o s x k c found _ p' c' _ running =>
      have passes : cancelsAt ((sys.begun t o false c).passedOn s x).tasks i
          = cancelsAt (sys.begun t o false c).tasks i := by
        unfold passedOn
        split
        · exact cancelsAt_leave _ _ i
        · rfl
      exact ((cancelsAt_perform (goes found rfl _) running i).trans passes).trans
        (cancelsAt_begun found false i)

/-- All stay aloof, whatever happens next. -/
lemma Aloof.apply (program : P.Aloof) (sound : sys.Sound) (aloof : sys.Aloof)
    (choice : Choice P) : (sys.apply choice).Aloof := by
  intro i task found
  cases present : sys.tasks[i]? with
  | none =>
      obtain ⟨o, p, n, rfl, -⟩ := fresh_apply sys choice present found
      exact program o
  | some old =>
      obtain ⟨o, f, p, c⟩ := old
      obtain ⟨f', p', c', found', -, evolves, -⟩ :=
        (evolved_apply sys i choice).own present (sound i _ present)
      cases found.symm.trans found'
      have keeps : (f.rest o.routine).Aloof := aloof i _ present
      exact Routine.Within.evolves keeps evolves

/-- A request to stop from outside touches nobody but the task that it is for. -/
lemma Aloof.tasks_cancel (aloof : sys.Aloof) {t i : TaskId} (apart : i ≠ t) :
    (sys.apply (.cancel t)).tasks[i]? = sys.tasks[i]? :=
  tasks_cancel_of_not_concerns fun concerns => apart <| eq_of_concerns
    (fun task found => joined?_eq_none (aloof t task found) fun _ => id) concerns

/-- Only a request from outside adds a request to stop. -/
lemma cancelsAt_apply (aloof : sys.Aloof) {choice : Choice P} {i : TaskId}
    (other : choice ≠ .cancel i) : cancelsAt (sys.apply choice).tasks i = cancelsAt sys.tasks i := by
  cases choice with
  | turn t => exact cancelsAt_resume aloof t i
  | call c => exact cancelsAt_append_fresh _
  | release t =>
      rw [apply, release]
      split
      · rename_i found
        refine cancelsAt_modify fun task found' => ?_
        cases found.symm.trans found'
        rfl
      · rfl
  | cancel t =>
      have apart : i ≠ t := fun same => other (same ▸ rfl)
      rw [cancelsAt, aloof.tasks_cancel apart, cancelsAt]

/-- **Among tasks that keep to themselves, who was asked to stop was asked from outside.** -/
theorem cancels_follow (program : P.Aloof) (sound : sys.Sound) (aloof : sys.Aloof)
    {schedule : List (Choice P)} {i : TaskId} (never : .cancel i ∉ schedule) :
    cancelsAt (sys.follow schedule).tasks i = cancelsAt sys.tasks i := by
  induction schedule generalizing sys with
  | nil => rfl
  | cons choice rest ih =>
      rw [List.mem_cons, not_or] at never
      exact (ih (sound_apply sound choice) (aloof.apply program sound choice) never.2).trans
        (cancelsAt_apply aloof fun same => never.1 same.symm)

end System

end Montage
