import Montage.Proofs.Studio.Attempts

/-!
# One load for all callers

Any number of callers may need the engine at the same time, and any of them may be asked to stop.
They share one load: who waits for it ends as it ends.

* `Engine.InFlight` — a load that has not ended.
* `Engine.Course` — what becomes of a caller who is not asked to stop.
* `Engine.SingleFlight` — what callers and loads come to; **`Engine.single_flight`** — so they do,
  whatever the schedule and whatever comes of the loads.
-/

namespace Montage

open Routine

namespace Engine

variable {engine : Settings} {M : Machine Studio} {sys : System (engineProgram engine) M}

/-! ## Loads -/

/-- A load that has not ended; `SingleFlight` says that there is one at most. -/
def InFlight (sys : System (engineProgram engine) M) (i : TaskId) : Prop :=
  ∃ task, sys.tasks[i]? = some task ∧ task.origin.isLoad = true ∧ task.fiber.hasEnded = false

lemma Loads.recorded (loads : Loads sys) {i : TaskId} (going : InFlight sys i) :
    sys.store.phase = .loading ∧ sys.store.load = some i := by
  obtain ⟨task, found, load, unended⟩ := going
  have load := loads.sole i task found load unended
  exact ⟨loads.coherent.load.mpr (by rw [load]; rfl), load⟩

/-- A load that is watched and has not ended is going on. -/
lemma inFlight_of_known {t : TaskId} (known : Known sys t)
    (unended : exitOf sys.tasks t .loadEngine = none) : InFlight sys t := by
  obtain ⟨⟨o, f, p, c⟩, found, origin⟩ := known
  cases origin
  refine ⟨_, found, rfl, Bool.eq_false_iff.mpr fun ended => ?_⟩
  obtain ⟨x, same⟩ := Fiber.eq_ended (f := f) ended
  rw [same] at found
  have told : sys.Ended t (.job .loadEngine) x := ⟨p, c, found⟩
  cases told.exitOf.symm.trans unended

/-! ## Callers -/

/-- What becomes of a caller who is not asked to stop. -/
inductive Course (sys : System (engineProgram engine) M) (i : TaskId) :
    History Studio → Fiber Studio Unit → Prop
  | fresh : Course sys i [] .fresh
  /-- The engine was loaded. -/
  | unneeded {s : EngineState} (loaded : s.phase = .loaded) :
      Course sys i [.asked .get s] (.ended (.returned ()))
  /-- The load that the caller watches is going on. -/
  | watching {h : History Studio} {t : TaskId} (calls : Calls h t) (going : InFlight sys t) :
      Course sys i h (.waiting (.watch .loadEngine t) .done)
  /-- It has ended, and the caller ends so in its next turn. -/
  | told {h : History Studio} {t : TaskId} {x : Exit Unit} (calls : Calls h t)
      (ended : sys.Ended t (.job .loadEngine) x)
      (next : (sys.resume i).Ended i (.call .load) x) :
      Course sys i h (.ready (.watch .loadEngine t) x .done)
  /-- It has ended, and the caller has ended so. -/
  | ended {h : History Studio} {t : TaskId} {x : Exit Unit} (calls : Calls h t)
      (ended : sys.Ended t (.job .loadEngine) x) :
      Course sys i (h ++ [.awaited (.watch .loadEngine t) x]) (.ended x)

section Runs

variable {w : M.State} {schedule : List (Choice (engineProgram engine))} {i : TaskId}

/-- Who was asked to stop was asked from outside. -/
lemma asked_of_cancels {task : Task (engineProgram engine)}
    (found : ((uncalled engine w).follow schedule).tasks[i]? = some task)
    (asked : 0 < task.cancels) : .cancel i ∈ schedule := by
  by_contra never
  have none := System.cancels_follow aloof_engine (calling_uncalled w).loads.sound
    (calling_uncalled w).aloof never
  rw [cancelsAt, found] at none
  have none : task.cancels = 0 := none
  exact Nat.lt_irrefl 0 (none ▸ asked)

/-- **A caller who is not asked to stop ends as the load that it has watched.** -/
lemma course_of_found {f : Fiber Studio Unit} {p : Bool} {c : Nat}
    (found : ((uncalled engine w).follow schedule).tasks[i]? = some ⟨.call .load, f, p, c⟩)
    (never : .cancel i ∉ schedule) :
    Course ((uncalled engine w).follow schedule) i ((uncalled engine w).history i schedule) f := by
  have calling := (calling_uncalled w).follow schedule
  obtain ⟨evolves, holds⟩ := System.lived rfl found
  have sound := calling.loads.sound i _ found
  have placed := calling.placed i f p c found
  have calm : ¬ 0 < c := fun asked => never (asked_of_cancels found asked)
  generalize (uncalled engine w).history i schedule = h at evolves holds
  cases evolves with
  | still => exact .fresh
  | unbegun asked => exact absurd asked calm
  | comes comes =>
      cases comes with
      | lost plays asked => exact absurd asked calm
      | waiting leads =>
          cases stands_load leads nofun with
          | watching calls =>
              cases placed with
              | watching known => exact .watching calls (inFlight_of_known known sound.fiber)
      | ready leads =>
          cases stands_load leads nofun with
          | watching calls =>
              obtain rfl : p = false := Bool.eq_false_iff.mpr fun pending =>
                calm (sound.counted pending)
              rcases sound.fiber with told | ⟨-, asked⟩
              · exact .told calls (System.ended_of_exitOf told) (System.ended_resume found rfl)
              · exact absurd asked calm
      | ended plays =>
          cases stands_load plays nofun with
          | unneeded loaded => exact .unneeded loaded
          | told calls =>
              rcases holds _ (List.mem_append_right _ List.mem_cons_self) with told | ⟨-, asked⟩
              · exact .ended calls (System.ended_of_exitOf told)
              · exact absurd asked calm

end Runs

/-! ## The loaded engine -/

/-- All loads have ended. -/
lemma Loads.ended_of_loaded (loads : Loads sys) (phase : sys.store.phase = .loaded) {i : TaskId}
    {task : Task (engineProgram engine)} (found : sys.tasks[i]? = some task)
    (load : task.origin.isLoad = true) :
    task.fiber.hasEnded = true ∧ ∃ x, sys.Ended i (.job .loadEngine) x := by
  have last : task.fiber.hasEnded = true := by
    by_contra unended
    have going := loads.sole i task found load (Bool.eq_false_iff.mpr unended)
    exact loads.coherent.ne_loaded going phase
  obtain ⟨o, f, p, c⟩ := task
  cases o with
  | call c => cases load
  | job j =>
      cases j
      obtain ⟨x, same⟩ := Fiber.eq_ended (f := f) last
      subst same
      exact ⟨last, x, p, c, found⟩

/-- No load is started once the engine is loaded. -/
lemma Loads.old_of_loaded (loads : Loads sys) (phase : sys.store.phase = .loaded)
    (choice : Choice (engineProgram engine)) {i : TaskId} {task : Task (engineProgram engine)}
    (found : (sys.apply choice).tasks[i]? = some task) (load : task.origin.isLoad = true) :
    ∃ old, sys.tasks[i]? = some old ∧ old.origin.isLoad = true := by
  cases present : sys.tasks[i]? with
  | some old =>
      obtain ⟨o, f, p, c⟩ := old
      obtain ⟨f', p', c', found', -⟩ :=
        (sys.evolved_apply i choice).own present (loads.sound i _ present)
      cases found.symm.trans found'
      exact ⟨_, rfl, load⟩
  | none =>
      obtain ⟨o, p, n, rfl, -, started⟩ := System.fresh_apply sys choice present found
      cases o with
      | call c => cases load
      | job j =>
          obtain ⟨t, rfl, among⟩ := started j rfl
          have becomes := loads.becomes_apply (.turn t)
          have new : i ∈ startsOf sys (.turn t) := mem_starts among
          generalize startsOf sys (.turn t) = ts at becomes new
          cases becomes with
          | same => cases new
          | opened n idle unloaded => exact absurd phase unloaded
          | closed => cases new

/-- Once the engine is loaded, the record stays as it is and no load does anything any more. -/
lemma Loads.permanent (loads : Loads sys) (phase : sys.store.phase = .loaded)
    (more : List (Choice (engineProgram engine))) :
    (sys.follow more).store = sys.store
      ∧ ∀ i task, (sys.follow more).tasks[i]? = some task → task.origin.isLoad = true →
        (∃ x, sys.Ended i (.job .loadEngine) x) ∧ sys.history i more = [] := by
  induction more generalizing sys with
  | nil =>
      refine ⟨rfl, fun i task found load => ⟨?_, rfl⟩⟩
      exact (loads.ended_of_loaded phase found load).2
  | cons choice rest ih =>
      have kept := loads.kept choice phase
      obtain ⟨same, later⟩ := ih (loads.apply shares_engine choice) (kept ▸ phase)
      refine ⟨same.trans kept, fun i task found load => ?_⟩
      obtain ⟨⟨x, p, c, ended⟩, silent⟩ := later i task found load
      obtain ⟨old, present, load'⟩ := loads.old_of_loaded phase choice ended rfl
      obtain ⟨last, before⟩ := loads.ended_of_loaded phase present load'
      have none := System.hears_of_hasEnded present last choice
      exact ⟨before, List.append_eq_nil_iff.mpr ⟨none, silent⟩⟩

/-! ## Whole runs -/

/-- What callers and loads come to, after any schedule: one load at a time, one outcome for all who
wait for it, and no harm done by who is asked to stop. -/
structure SingleFlight (engine : Settings) (w : M.State)
    (schedule : List (Choice (engineProgram engine)))
    (sys : System (engineProgram engine) M) : Prop where
  /-- One load is going on at most, … -/
  sole : ∀ i j, InFlight sys i → InFlight sys j → i = j
  /-- … and the record says which. -/
  recorded : ∀ i, InFlight sys i → sys.store.phase = .loading ∧ sys.store.load = some i
  /-- Who has watched a load was told how it ended, unless asked to stop meanwhile. -/
  told : ∀ i t x,
    .awaited (.watch .loadEngine t) x ∈ (uncalled engine w : System _ M).history i schedule →
      sys.Ended t (.job .loadEngine) x ∨ x = .cancelled ∧ .cancel i ∈ schedule
  /-- A caller who is not asked to stop ends as the load that it has watched. -/
  course : ∀ (i : TaskId) (f : Fiber Studio Unit) (p : Bool) (c : Nat),
    sys.tasks[i]? = some ⟨.call .load, f, p, c⟩ → .cancel i ∉ schedule →
      Course sys i ((uncalled engine w : System _ M).history i schedule) f
  /-- A request to stop leaves all others alone, the loads and the record among them, … -/
  alone : ∀ i, (sys.apply (.cancel i)).store = sys.store ∧ (sys.apply (.cancel i)).world = sys.world
    ∧ ∀ j, j ≠ i → (sys.apply (.cancel i)).tasks[j]? = sys.tasks[j]?
  /-- … and nobody is asked to stop but from outside. -/
  asked : ∀ i task, sys.tasks[i]? = some task → 0 < task.cancels → .cancel i ∈ schedule
  /-- The count is the number of loads that have taken a step. -/
  attempts : sys.store.attempts = (ran (uncalled engine w : System _ M) schedule).card
  /-- Once the engine is loaded its version and its workspace are there, the record stays as it is,
  no load is started any more, and those that were started have nothing left to do. -/
  loaded : sys.store.phase = .loaded →
    sys.store.version.isSome ∧ sys.store.workspace.isSome
      ∧ ∀ more, (sys.follow more).store = sys.store
        ∧ ∀ i task, (sys.follow more).tasks[i]? = some task → task.origin.isLoad = true →
          (∃ x, sys.Ended i (.job .loadEngine) x) ∧ sys.history i more = []

/-- **All callers share one load, and a loaded engine stays so**: any number of callers, by
themselves or within exports, any of whom may be asked to stop at any time, in any order of turns,
and whatever comes of the loads. -/
theorem single_flight (engine : Settings) (w : M.State)
    (schedule : List (Choice (engineProgram engine))) :
    SingleFlight engine w schedule ((uncalled engine w).follow schedule) := by
  have calling : Calling ((uncalled engine w).follow schedule) := (calling_uncalled w).follow schedule
  refine ⟨fun i j going going' => ?_, fun i => calling.loads.recorded, fun i t x heard => ?_,
    fun i f p c => course_of_found, fun i => ⟨?_, ?_, fun j apart => ?_⟩,
    fun i task => asked_of_cancels, ?_, fun phase => ⟨?_, ?_, ?_⟩⟩
  · have same := (calling.loads.recorded going).2.symm.trans (calling.loads.recorded going').2
    exact Option.some.inj same
  · cases present : ((uncalled engine w).follow schedule).tasks[i]? with
    | none =>
        rw [System.history_of_absent (calling_uncalled w).loads.sound schedule present] at heard
        cases heard
    | some task =>
        obtain ⟨o, f, p, c⟩ := task
        obtain ⟨-, holds⟩ := System.lived rfl present
        rcases holds _ heard with told | ⟨rfl, asked⟩
        · exact .inl (System.ended_of_exitOf told)
        · exact .inr ⟨rfl, asked_of_cancels present asked⟩
  · exact (System.steady.cancelWithin _ i _).store
  · exact System.world_stops.cancelWithin _ i _
  · exact calling.aloof.tasks_cancel apart
  · exact (tallied_follow rfl rfl schedule).attempts
  · exact calling.loads.coherent.version.mp phase
  · exact calling.loads.coherent.workspace.mp phase
  · exact calling.loads.permanent phase

end Engine

end Montage
