import Montage.Proofs.Studio.Concluding

/-!
# After a load

A load that has failed in a foreseen way is forgotten, and the next caller starts another one.  A
load that was ended by a fault that it does not foresee **stays in the record**: nobody starts
another one, and all callers from then on are told of that fault.

* `Engine.retries` — a caller starts a load when none is going on.
* `Engine.Stuck` — the record names a load that has ended; **`Engine.Stuck.follow`** — so it stays,
  and `Engine.Stuck.caller` — every caller ends as that load did.
* `Engine.LoadEnded` — how a load ends, and what comes after; **`Engine.load_ends`**.
* `Engine.unforeseen_load_stays` — a root of workspaces that no directory can have.
-/

namespace Montage

open Routine

/-- The record of a failed load names no load. -/
lemma EngineState.Coherent.idle_of_failed {s : EngineState} (coherent : s.Coherent)
    (phase : s.phase = .failed) : s.load = none := by
  refine Option.not_isSome_iff_eq_none.mp fun going => ?_
  cases phase.symm.trans (coherent.load.mpr going)

namespace Engine

variable {engine : Settings} {M : Machine Studio} {sys : System (engineProgram engine) M}
  {t c : TaskId} {n : Nat}

/-- In its first turn a caller asks for the record. -/
lemma resume_load (found : sys.tasks[c]? = some ⟨.call .load, .fresh, false, n⟩) :
    sys.resume c = (sys.begun c (.call .load) false n).perform c
      (.call .load : Origin (engineProgram engine)) (enquire sys.store) := by
  let o : Origin (engineProgram engine) := .call .load
  rw [System.resume_fresh found]
  have asks := congrArg ((sys.begun c o false n).perform c o) load_eq
  exact asks.trans rfl

/-! ## Loads that are forgotten -/

/-- **A caller starts a load when none is going on.** -/
lemma retries (idle : sys.store.load = none) (phase : sys.store.phase ≠ .loaded)
    (found : sys.tasks[c]? = some ⟨.call .load, .fresh, false, n⟩) :
    (sys.resume c).store = sys.store.opened sys.tasks.length
      ∧ InFlight (sys.resume c) sys.tasks.length := by
  -- the system when the caller comes to watch the load that it has started
  let begun : System (engineProgram engine) M := sys.begun c (.call .load) false n
  let started : System (engineProgram engine) M :=
    { (begun.spawn (.job .loadEngine)).2 with store := sys.store.opened begun.tasks.length }
  have length : begun.tasks.length = sys.tasks.length := List.length_modify _ _ _
  rw [← length]
  have running : begun.tasks[c]? = some ⟨.call .load, .running, false, n⟩ :=
    System.running_begun found false
  have inside := (List.getElem?_eq_some_iff.mp running).1
  have new : started.tasks[begun.tasks.length]? = some { origin := .job .loadEngine } :=
    List.getElem?_concat_length
  have calm : started.isPending c = false := by
    have same : started.tasks[c]? = begun.tasks[c]? := List.getElem?_append_left inside
    rw [System.isPending, same, running]
    rfl
  have turn : sys.resume c = started.update c fun task =>
      { origin := .call .load, fiber := .waiting (.watch .loadEngine begun.tasks.length) .done,
        pending := task.pending, cancels := task.cancels } := by
    have parks := System.perform_watch_unended (P := engineProgram engine) (o := .call .load)
      (k := .done) calm (exitOf_of_unended new rfl .loadEngine)
    refine Eq.trans ?_ parks
    let o : Origin (engineProgram engine) := .call .load
    exact (resume_load found).trans (congrArg (begun.perform c o) (enquire_idle phase idle))
  rw [turn]
  refine ⟨rfl, { origin := .job .loadEngine }, ?_, rfl, rfl⟩
  rw [System.update, List.getElem?_modify_ne _ _ (Nat.ne_of_lt inside), new]

/-! ## Loads that stay in the record -/

/-- The record names a load that has ended, so every later caller is told the end of that one. -/
structure Stuck (sys : System (engineProgram engine) M) (t : TaskId) (x : Exit Unit) : Prop where
  phase : sys.store.phase = .loading
  load : sys.store.load = some t
  ended : sys.Ended t (.job .loadEngine) x

variable {x : Exit Unit}

/-- Nobody changes the record any more. -/
lemma Stuck.store_apply (stuck : Stuck sys t x) (loads : Loads sys)
    (choice : Choice (engineProgram engine)) : (sys.apply choice).store = sys.store := by
  cases choice with
  | call c => rfl
  | cancel c => exact (System.steady.cancelWithin _ c _).store
  | release c => exact (System.steady_release _ c).store
  | turn c =>
      cases found : sys.tasks[c]? with
      | none =>
          have same : sys.resume c = sys := by simp only [System.resume, found]
          exact congrArg System.store same
      | some task =>
          obtain ⟨o, f, p, n⟩ := task
          cases load : o.isLoad with
          | false =>
              refine (loads.store_of_other found load).resolve_right fun begins => ?_
              cases begins.1.symm.trans stuck.load
          | true =>
              -- the load that the record names is the only one that could be going on
              have last : f.hasEnded = true := by
                by_contra unended
                have going := loads.sole c _ found load (Bool.eq_false_iff.mpr unended)
                obtain rfl : c = t := Option.some.inj (going.symm.trans stuck.load)
                obtain ⟨p', n', ended⟩ := stuck.ended
                cases found.symm.trans ended
                exact unended rfl
              obtain ⟨y, rfl⟩ := Fiber.eq_ended last
              exact congrArg System.store (sys.resume_hasEnded (congrArg _ found))

/-- **The load stays in the record.** -/
theorem Stuck.follow (stuck : Stuck sys t x) (loads : Loads sys)
    (more : List (Choice (engineProgram engine))) :
    (sys.follow more).store = sys.store ∧ Stuck (sys.follow more) t x := by
  induction more generalizing sys with
  | nil => exact ⟨rfl, stuck⟩
  | cons choice rest ih =>
      have same := stuck.store_apply loads choice
      have still : exitOf (sys.apply choice).tasks t .loadEngine = some x :=
        (sys.evolved_apply t choice).ends t .loadEngine x stuck.ended.exitOf
      have next : Stuck (sys.apply choice) t x :=
        ⟨same ▸ stuck.phase, same ▸ stuck.load, System.ended_of_exitOf still⟩
      obtain ⟨later, stays⟩ := ih next (loads.apply shares_engine choice)
      exact ⟨later.trans same, stays⟩

/-- **Every caller ends as that load did**, in its first turn. -/
lemma Stuck.caller (stuck : Stuck sys t x)
    (found : sys.tasks[c]? = some ⟨.call .load, .fresh, false, n⟩) :
    (sys.resume c).Ended c (.call .load) x := by
  let o : Origin (engineProgram engine) := .call .load
  let begun : System (engineProgram engine) M := sys.begun c o false n
  have calm : begun.isPending c = false := System.isPending_running (System.running_begun found false)
  have told : exitOf begun.tasks t .loadEngine = some x :=
    (exitOf_modify_unended found rfl rfl t .loadEngine).trans stuck.ended.exitOf
  have phase : sys.store.phase ≠ .loaded := by
    rw [stuck.phase]
    exact nofun
  have turn : sys.resume c = begun.finish c o x := by
    have hears := System.perform_watch_ended (P := engineProgram engine) (o := o) (k := .done)
      calm told
    refine Eq.trans ?_ hears
    exact (resume_load found).trans
      (congrArg (begun.perform c o) (enquire_going phase stuck.load))
  refine ⟨false, n, ?_⟩
  rw [turn]
  exact System.ended_finish (System.running_begun found false) x

/-! ## The end of a load -/

/-- How a load ends, and what comes after, if it was not asked to stop.  `h` is its history. -/
inductive LoadEnded (sys : System (engineProgram engine) M) (t : TaskId) (h : History Studio) :
    Exit Unit → Prop
  | loaded (phase : sys.store.phase = .loaded) (load : sys.store.load = none)
      (recorded : metrics h = [.engineLoad Metric.succeeded]) : LoadEnded sys t h (.returned ())
  /-- A foreseen failure is recorded and forgotten: as long as nobody has started another load, the
  next caller does. -/
  | failed {p : EngineProblem} (phase : sys.store.phase = .failed) (load : sys.store.load = none)
      (recorded : metrics h = [.engineLoad Metric.failed])
      (again : ∀ (more : List (Choice (engineProgram engine))) (c : TaskId) (n : Nat),
        (sys.follow more).store.phase = .failed →
        (sys.follow more).tasks[c]? = some ⟨.call .load, .fresh, false, n⟩ →
          ((sys.follow more).resume c).store
              = (sys.follow more).store.opened (sys.follow more).tasks.length
            ∧ InFlight ((sys.follow more).resume c) (sys.follow more).tasks.length) :
      LoadEnded sys t h (.failed (.expected (.engineLoad p)))
  /-- An unforeseen fault is not recorded, and nobody starts a load any more: all who call from then
  on are told of it. -/
  | broken {f : Fault} (cause : Unforeseen engine h f) (phase : sys.store.phase = .loading)
      (load : sys.store.load = some t) (recorded : metrics h = [])
      (forever : ∀ more : List (Choice (engineProgram engine)),
        (sys.follow more).store = sys.store
          ∧ ∀ (c : TaskId) (n : Nat),
            (sys.follow more).tasks[c]? = some ⟨.call .load, .fresh, false, n⟩ →
              ((sys.follow more).resume c).Ended c (.call .load) (.failed (.unexpected f))) :
      LoadEnded sys t h (.failed (.unexpected f))

/-- The turn in which a load ends leaves the record as it says. -/
lemma concludes_of_ended {w : M.State} {schedule : List (Choice (engineProgram engine))}
    (going : InFlight ((uncalled engine w).follow schedule) t)
    (ended : ((uncalled engine w).follow (schedule ++ [.turn t])).Ended t (.job .loadEngine) x)
    (never : .cancel t ∉ schedule ++ [.turn t]) :
    Concludes t ⟨seen ((uncalled engine w).follow (schedule ++ [.turn t])).store,
      metrics ((uncalled engine w).history t (schedule ++ [.turn t]))⟩ x := by
  have calling : Calling ((uncalled engine w).follow schedule) := (calling_uncalled w).follow schedule
  have accounted := accounted_follow (M := M) w schedule
  obtain ⟨⟨o, f, p, c⟩, found, load, unended⟩ := going
  obtain ⟨p', c', final⟩ := ended
  have calm : ¬ 0 < c' := fun asked => never (asked_of_cancels final asked)
  rw [(uncalled engine w).follow_turn] at final ⊢
  rw [(uncalled engine w).history_snoc, ((uncalled engine w).follow schedule).hears_own t]
  generalize ((uncalled engine w).follow schedule) = sys at *
  obtain ⟨f', p'', c'', found', -, evolves, -⟩ :=
    (sys.turn_resume t).own.own found (calling.loads.sound t _ found)
  cases final.symm.trans found'
  have obeys := accounted t f p c found unended
  have follows := follows_accounting
    (a := ⟨seen sys.store, metrics ((uncalled engine w).history t schedule)⟩)
    (System.threads_resume seen sys t)
  rw [metrics_append]
  generalize sys.heardIn t = h at evolves follows
  cases evolves with
  | still => cases unended
  | unbegun asked => exact absurd asked calm
  | comes comes =>
      cases comes with
      | ended plays =>
          cases obeys.leads plays follows with
          | done concludes => exact concludes
      | lost plays asked => exact absurd asked calm

/-- **A load succeeds, or fails and is forgotten, or is never forgotten**: whoever calls, whoever is
asked to stop but for the load itself, and whatever comes of its program and its files. -/
theorem load_ends {w : M.State} {schedule : List (Choice (engineProgram engine))}
    (going : InFlight ((uncalled engine w).follow schedule) t)
    (ended : ((uncalled engine w).follow (schedule ++ [.turn t])).Ended t (.job .loadEngine) x)
    (never : .cancel t ∉ schedule) :
    LoadEnded ((uncalled engine w).follow (schedule ++ [.turn t])) t
      ((uncalled engine w).history t (schedule ++ [.turn t])) x := by
  have calling : Calling ((uncalled engine w).follow (schedule ++ [.turn t])) :=
    (calling_uncalled w).follow (schedule ++ [.turn t])
  have unasked : .cancel t ∉ schedule ++ [.turn t] := fun among => by
    rcases List.mem_append.mp among with before | last
    · exact never before
    · cases List.mem_singleton.mp last
  have concludes := concludes_of_ended going ended unasked
  have foreseen := foreseen_of_ended ended unasked
  cases x with
  | returned u => exact .loaded concludes.phase concludes.load concludes.metrics
  | cancelled => cases foreseen
  | failed e =>
      cases e with
      | unexpected f =>
          have stuck : Stuck _ t (.failed (.unexpected f)) :=
            ⟨concludes.phase, concludes.load, ended⟩
          refine .broken foreseen concludes.phase concludes.load concludes.metrics fun more => ?_
          obtain ⟨same, stays⟩ := stuck.follow calling.loads more
          exact ⟨same, fun c n => stays.caller⟩
      | expected e =>
          obtain ⟨p, rfl⟩ : ∃ p, e = .engineLoad p := by
            cases e <;> first | exact ⟨_, rfl⟩ | cases foreseen
          refine .failed concludes.phase concludes.load concludes.metrics
            fun more c n phase found => ?_
          have idle := (calling.follow more).loads.coherent.idle_of_failed phase
          exact retries idle (phase ▸ nofun) found

/-- A host without the program, and an engine on it that was never used. -/
def barren : System (engineProgram .defaults) Host.machine :=
  uncalled .defaults
    ({ versions := ⟨{ refusal := some (2, "No such file or directory") }, []⟩ } : Host)

/-- The first caller starts a load. -/
def firstCall (engine : Settings) : List (Choice (engineProgram engine)) := [.call .load, .turn 0]

theorem load_ends_barren :
    InFlight (barren.follow (firstCall .defaults)) 1
      ∧ LoadEnded (barren.follow (firstCall .defaults ++ [.turn 1])) 1
        (barren.history 1 (firstCall .defaults ++ [.turn 1]))
        (.failed (.expected (.engineLoad
          (.notStarted (.os ⟨2, "No such file or directory", some "ffmpeg"⟩))))) := by
  have going : InFlight (barren.follow (firstCall .defaults)) 1 := ⟨_, rfl, rfl, rfl⟩
  exact ⟨going, load_ends going ⟨false, 0, rfl⟩ (by simp [firstCall])⟩

/-- The root of workspaces has a name that no directory can have. -/
def unusable : Settings := { workspaceRoot := "\x00" }

/-- The load ends, its caller is told, and another one calls. -/
def calledTwice : System (engineProgram unusable) Host.machine :=
  (uncalled unusable ({} : Host)).follow (firstCall unusable
    ++ [.turn 1, .turn 1, .turn 1, .turn 1, .turn 0, .call .load, .turn 2])

/-- **A load that has failed is not always forgotten.** -/
theorem unforeseen_load_stays :
    calledTwice.Ended 1 (.job .loadEngine) (.failed (.unexpected .embeddedNull))
      ∧ calledTwice.Ended 2 (.call .load) (.failed (.unexpected .embeddedNull))
      ∧ calledTwice.store.phase = .loading ∧ calledTwice.store.load = some 1
      ∧ calledTwice.store.attempts = 1 ∧ calledTwice.world.journal.metrics = [] :=
  ⟨⟨false, 0, rfl⟩, ⟨false, 0, rfl⟩, by decide +kernel, by decide +kernel, by decide +kernel,
    by decide +kernel⟩

end Engine

end Montage
