import Mathlib.Data.List.Induction
import Mathlib.Tactic.Common
import Montage.Proofs.Routine.Invariants
import Montage.Proofs.Routine.Scene

/-!
# Tasks from their first step on

In a system that nobody was in at first, every task was started by somebody, and what it heard since
then is its whole history.

* `System.sound_nobody`, `System.sound_follow` — such a system is sound, whatever the schedule;
  `System.call_mem_of_follow` — its calls were made by the schedule.
* **`System.lived`** — a task stands where its whole history leads it, and nothing in it is wrong.
* `System.perform_watch_ended`, `System.perform_watch_unended` — what comes of watching a task.
-/

namespace Montage

variable {E : Interface} {P : Program E} {M : Machine E} [DecidableEq E.Gate] [DecidableEq E.Job]

namespace System

variable {sys : System P M} {i : TaskId}

omit [DecidableEq E.Gate] in
lemma sound_nobody (nobody : sys.tasks = []) : sys.Sound := by
  intro i task found
  rw [nobody] at found
  cases found

lemma sound_follow (sound : sys.Sound) (schedule : List (Choice P)) :
    (sys.follow schedule).Sound := by
  induction schedule generalizing sys with
  | nil => exact sound
  | cons choice rest ih => exact ih (sound_apply sound choice)

/-- Who is there stays there. -/
lemma present_follow (sound : sys.Sound) (schedule : List (Choice P))
    (absent : (sys.follow schedule).tasks[i]? = none) : sys.tasks[i]? = none := by
  cases present : sys.tasks[i]? with
  | none => rfl
  | some task =>
      obtain ⟨o, f, p, c⟩ := task
      obtain ⟨_, _, _, found, -⟩ := (evolved_follow sys i schedule).own present (sound i _ present)
      cases absent.symm.trans found

/-- Who was called from outside is in the schedule. -/
lemma call_mem_of_follow (nobody : sys.tasks = []) (schedule : List (Choice P)) {c : P.Call}
    {f : Fiber E (P.Result c)} {p : Bool} {n : Nat}
    (found : (sys.follow schedule).tasks[i]? = some ⟨.call c, f, p, n⟩) : .call c ∈ schedule := by
  induction schedule using List.reverseRecOn generalizing f p n with
  | nil =>
      rw [System.follow, List.foldl_nil, nobody] at found
      cases found
  | append_singleton first choice ih =>
      rw [follow_snoc] at found
      have sound := sound_follow (sound_nobody nobody) first
      cases present : (sys.follow first).tasks[i]? with
      | some old =>
          obtain ⟨o, f', p', n'⟩ := old
          obtain ⟨_, _, _, found', -⟩ :=
            (evolved_apply (sys.follow first) i choice).own present (sound i _ present)
          cases found.symm.trans found'
          exact List.mem_append_left _ (ih present)
      | none =>
          cases choice with
          | turn t =>
              obtain ⟨j, _, _, same, -⟩ := started_resume _ t present found
              cases same
          | call c' =>
              change ((sys.follow first).tasks ++ [{ origin := .call c' }])[i]? = _ at found
              rw [List.getElem?_append_right (List.getElem?_eq_none_iff.mp present)] at found
              cases List.mem_singleton.mp (List.mem_of_getElem? found)
              exact List.mem_append_right _ List.mem_cons_self
          | cancel t => exact absurd found ((steady.cancelWithin _ t _).ne_some present _)
          | release t => exact absurd found ((steady_release _ t).ne_some present _)

lemma hears_of_absent (absent : sys.tasks[i]? = none) (choice : Choice P) :
    sys.hears i choice = [] := by
  by_cases own : choice = .turn i
  · rw [own, hears_own]
    simp only [heardIn, absent]
  · exact hears_of_ne own

/-- Who is not there has heard nothing. -/
lemma history_of_absent (sound : sys.Sound) (schedule : List (Choice P))
    (absent : (sys.follow schedule).tasks[i]? = none) : sys.history i schedule = [] := by
  induction schedule generalizing sys with
  | nil => rfl
  | cons choice rest ih =>
      have now := present_follow sound (choice :: rest) absent
      rw [history, hears_of_absent now, ih (sound_apply sound choice) absent]
      rfl

/-- **A task stands where its whole history leads it**, and nothing that it was told is wrong. -/
theorem lived (nobody : sys.tasks = []) {schedule : List (Choice P)} {o : Origin P}
    {f : Fiber E o.Out} {p : Bool} {c : Nat}
    (found : (sys.follow schedule).tasks[i]? = some ⟨o, f, p, c⟩) :
    Evolves o.routine c .fresh (sys.history i schedule) f
      ∧ ∀ e ∈ sys.history i schedule, e.Holds (sys.follow schedule).tasks c := by
  induction schedule using List.reverseRecOn generalizing o f p c with
  | nil =>
      change sys.tasks[i]? = _ at found
      rw [nobody] at found
      cases found
  | append_singleton first choice ih =>
      have sound := sound_follow (sound_nobody nobody) first
      rw [follow_snoc] at found ⊢
      rw [history_snoc]
      cases present : (sys.follow first).tasks[i]? with
      | none =>
          obtain ⟨o', p', n, same, -⟩ := fresh_apply _ choice present found
          cases same
          rw [history_of_absent (sound_nobody nobody) first present, hears_of_absent present]
          exact ⟨.still, List.forall_mem_nil _⟩
      | some task =>
          obtain ⟨o', f', p', c'⟩ := task
          obtain ⟨f'', p'', c'', found'', more, evolves, -, holds⟩ :=
            ((sys.follow first).evolved_apply i choice).own present (sound i _ present)
          cases found.symm.trans found''
          obtain ⟨before, told⟩ := ih present
          refine ⟨before.trans more evolves, ?_⟩
          rw [List.forall_mem_append]
          refine ⟨fun e heard => (told e heard).of_ends more ?_, holds⟩
          exact ((sys.follow first).evolved_apply i choice).ends

/-! ### Ends -/

omit [DecidableEq E.Gate] in
/-- Who is told how a job has ended is told of its end. -/
lemma ended_of_exitOf {u : TaskId} {j : E.Job} {x : Exit (E.Out j)}
    (told : exitOf sys.tasks u j = some x) : sys.Ended u (.job j) x := by
  obtain ⟨⟨o, f, p, c⟩, found, exit⟩ := Option.bind_eq_some_iff.mp told
  cases o with
  | call c => cases f <;> cases exit
  | job i =>
      cases f with
      | ended y =>
          simp only [Task.exit?] at exit
          split at exit
          · rename_i same
            subst same
            cases exit
            exact ⟨p, c, found⟩
          · cases exit
      | fresh => cases exit
      | running => cases exit
      | waiting s k => cases exit
      | ready s y k => cases exit

omit [DecidableEq E.Gate] in
/-- Who ends without having been asked to stop ends as it says. -/
lemma ended_finish {o : Origin P} {c : Nat} (running : sys.tasks[i]? = some ⟨o, .running, false, c⟩)
    (x : Exit o.Out) : (sys.finish i o x).tasks[i]? = some ⟨o, .ended x, false, c⟩ := by
  rw [tasks_finish running, announced_own (List.getElem?_eq_some_iff.mp running).1]
  cases x <;> rfl

/-- Who hears what it was waiting for, and has nothing else to do, ends so. -/
lemma ended_resume {o : Origin P} {s : Suspension E} {y : Exit s.Answer} {x : Exit o.Out}
    {k : Exit s.Answer → Routine E o.Out} {c : Nat}
    (found : sys.tasks[i]? = some ⟨o, .ready s y k, false, c⟩) (last : k y = .done x) :
    (sys.resume i).Ended i o x := by
  refine ⟨false, c, ?_⟩
  rw [resume_ready found, last, perform]
  exact ended_finish (running_begun found false) x

/-- Who has ended hears nothing. -/
lemma hears_of_hasEnded {task : Task P} (found : sys.tasks[i]? = some task)
    (ended : task.fiber.hasEnded = true) (choice : Choice P) : sys.hears i choice = [] := by
  obtain ⟨o, f, p, c⟩ := task
  obtain ⟨x, same⟩ := Fiber.eq_ended (f := f) ended
  subst same
  by_cases own : choice = .turn i
  · rw [own, hears_own]
    simp only [heardIn, found]
  · exact hears_of_ne own

/-! ### Single steps -/

variable {t : TaskId} {o : Origin P} {j : E.Job} {k : Exit (E.Out j) → Routine E o.Out}

/-- Who watches a task that has ended hears of its end at once. -/
lemma perform_watch_ended (calm : sys.isPending i = false) {x : Exit (E.Out j)}
    (told : exitOf sys.tasks t j = some x) :
    perform i o sys (.await (.watch j t) k) = perform i o sys (k x) := by
  have begun : sys.begin i (.watch j t) = (.now x, sys) := by
    rw [exitOf] at told
    simp only [begin, told]
  exact Scene.perform_now calm begun

/-- Who watches a task that has not ended waits. -/
lemma perform_watch_unended (calm : sys.isPending i = false) (none : exitOf sys.tasks t j = none) :
    perform i o sys (.await (.watch j t) k) = sys.update i fun task =>
      { origin := o, fiber := .waiting (.watch j t) k, pending := task.pending,
        cancels := task.cancels } := by
  have begun : sys.begin i (.watch j t) = (.unknown, sys) := by
    rw [exitOf] at none
    simp only [begin, none]
  exact Scene.perform_held calm begun

end System

end Montage
