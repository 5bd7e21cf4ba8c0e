import Montage.Proofs.Routine.Replies
import Montage.Proofs.Studio.Causes
import Montage.Proofs.Studio.SingleFlight

/-!
# How loads end

A load that ends says so in the engine's record, and records a metric, before anybody can hear of
it.  It does so when it has succeeded, and when it has failed in a foreseen way; **a fault that it
does not foresee ends it before**.

* `Engine.accounting` — what a load sees of the record, and which metrics it has added.
* `Engine.concludes_loadOnce` — what is there when a load ends.
* `Engine.Accounted` — it stands for every load that is going on; **`Engine.accounted_follow`** —
  whatever the schedule.
* `Engine.foreseen_of_ended` — what a load may end with.
-/

namespace Montage

open Routine

/-- What is recorded. -/
def Event.metric? : Event Studio → Option Metric
  | .asked (.act (.metric m)) _ => some m
  | _ => none

/-- What a history records. -/
def metrics (h : History Studio) : List Metric := h.filterMap Event.metric?

lemma metrics_append (h h' : History Studio) : metrics (h ++ h') = metrics h ++ metrics h' :=
  List.filterMap_append

namespace Engine

variable {engine : Settings} {M : Machine Studio}

/-! ## Accounts -/

/-- The record without the count of loads. -/
def seen (s : EngineState) : EngineState := { s with attempts := 0 }

lemma seen_of_sameLoad {s s' : EngineState} (same : s.SameLoad s') : seen s' = seen s := by
  obtain ⟨phase, load, workspace, version⟩ := same
  unfold seen
  rw [phase, load, workspace, version]

/-- What a load sees of the record, and the metrics that it has added. -/
structure Account where
  record : EngineState
  metrics : List Metric

/-- While a load waits, nobody else changes the record. -/
def accounting : Regime Studio Account where
  mayAsk _ _ := True
  asked a q v b := q.Tells seen a.record v
    ∧ b = ⟨q.leaves seen a.record, a.metrics ++ Montage.metrics [.asked q v]⟩
  mayAwait _ _ := True
  awaited a _ _ b := b = a

/-- What an account has come to after a history. -/
lemma follows_accounting {h : History Studio} {a : Account} {b : EngineState}
    (threads : Threads seen a.record h b) :
    Follows accounting a h ⟨b, a.metrics ++ metrics h⟩ := by
  induction h generalizing a with
  | nil =>
      cases threads
      rw [metrics, List.filterMap_nil, List.append_nil]
      exact .refl a
  | cons e h ih =>
      cases e with
      | awaited s x => exact .awaited rfl (ih threads)
      | asked q v =>
          obtain ⟨tells, threads⟩ := threads
          have later := ih
            (a := ⟨q.leaves seen a.record, a.metrics ++ metrics [.asked q v]⟩) threads
          rw [List.append_assoc, ← metrics_append] at later
          exact .asked ⟨tells, rfl⟩ later

lemma spares_accounting (a : Account) :
    accounting.Spares (· = a) (fun e => ∀ m, e ≠ .metric m) fun _ => True where
  get b same := ⟨trivial, fun s c asked => by
    rw [asked.2, same]
    exact congrArg (Account.mk _) (List.append_nil _)⟩
  act e other b same := ⟨trivial, fun v c asked => by
    rw [asked.2, same]
    have none : metrics [.asked (.act e) v] = [] := by
      cases e with
      | metric m => exact absurd rfl (other m)
      | _ => rfl
    rw [none, List.append_nil]
    rfl⟩
  wait q _ b same := ⟨trivial, fun x c awaited => awaited.trans same⟩

lemma accounts_modifyState {f : EngineState → EngineState} {a : Account} :
    (modifyState f).Obeys accounting (fun b x => x = .returned ()
      ∧ ∃ s, seen s = a.record ∧ b = ⟨seen (f s), a.metrics⟩) a := by
  refine .ask trivial ?_
  rintro s _ ⟨tells, rfl⟩
  refine .ask trivial ?_
  rintro _ _ ⟨-, rfl⟩
  refine .done ⟨rfl, s, tells, ?_⟩
  exact congrArg (Account.mk _) ((List.append_nil _).trans (List.append_nil _))

lemma accounts_record (m : Metric) {a : Account} :
    (Studio.record m).Obeys accounting
      (fun b x => x = .returned () ∧ b = ⟨a.record, a.metrics ++ [m]⟩) a := by
  refine .ask trivial ?_
  rintro v _ ⟨-, rfl⟩
  exact .done ⟨rfl, rfl⟩

/-! ## Ends -/

/-- A load is going on, and has recorded nothing yet. -/
structure Open (t : TaskId) (a : Account) : Prop where
  phase : a.record.phase = .loading
  load : a.record.load = some t
  metrics : a.metrics = []

/-- A load has ended and said so, in the record and in the metrics at the same time. -/
structure Shut (phase : EnginePhase) (outcome : String) (a : Account) : Prop where
  phase : a.record.phase = phase
  load : a.record.load = none
  metrics : a.metrics = [.engineLoad outcome]

/-- What is there when a load ends. -/
def Concludes (t : TaskId) (a : Account) : Exit Unit → Prop
  | .returned _ => Shut .loaded Metric.succeeded a
  | .failed (.expected (.engineLoad _)) => Shut .failed Metric.failed a
  | _ => Open t a

/-- The end is written to the record, and then a metric is recorded. -/
lemma concludes_closing {t : TaskId} {a : Account} {f : EngineState → EngineState}
    {phase : EnginePhase} {outcome : String} {x : Exit Unit} (going : Open t a)
    (closed : ∀ s, (f s).phase = phase ∧ (f s).load = none)
    (concludes : ∀ b, Shut phase outcome b → Concludes t b x) :
    ((modifyState f).bind fun _ => (Studio.record (.engineLoad outcome)).bind fun _ =>
      .done x).Obeys accounting (Concludes t) a := by
  refine accounts_modifyState.bind (fun b _ known => ?_) (fun b e known => ?_) fun b known => ?_
  · obtain ⟨-, s, -, rfl⟩ := known
    refine (accounts_record _).bind (fun c _ known => ?_) (fun c e known => ?_) fun c known => ?_
    · obtain ⟨-, rfl⟩ := known
      refine .done (concludes _ ⟨(closed s).1, (closed s).2, ?_⟩)
      change a.metrics ++ _ = _
      rw [going.metrics]
      rfl
    · cases known.1
    · cases known.1
  · cases known.1
  · cases known.1

/-- **A load says how it has ended, unless by a fault that it does not foresee.** -/
theorem concludes_loadOnce (settings : Settings) {t : TaskId} {a : Account} (going : Open t a) :
    (loadOnce settings).Obeys accounting (Concludes t) a := by
  have spares := spares_accounting a
  have attends : Tool.Attends (fun e => ∀ m, e ≠ .metric m) fun _ => True :=
    ⟨fun _ => nofun, fun _ => nofun, fun _ => trivial, fun _ => trivial, fun _ => trivial⟩
  have asks : (Tool.version settings.ffmpeg).Maintains accounting (· = a) :=
    Tool.maintains_version spares attends nofun
  have makes : (Studio.makeWorkspace (.ofText settings.workspaceRoot)
      workspaceBeginning).Maintains accounting (· = a) :=
    Studio.maintains_inTime spares rfl trivial trivial
  have prepares := asks.bind fun version => makes.bind fun workspace =>
    maintains_done (.returned (version, workspace))
  refine accounts_modifyState.bind (fun b _ known => ?_) (fun b e known => ?_) fun b known => ?_
  · obtain ⟨-, s, same, rfl⟩ := known
    have counted : (⟨seen { s with attempts := s.attempts + 1 }, a.metrics⟩ : Account) = a :=
      congrArg (Account.mk · a.metrics) same
    rw [counted]
    refine (prepares a rfl).handle fun c x same => ?_
    obtain rfl : c = a := same
    cases x with
    | returned found =>
        exact concludes_closing (x := .returned ()) going (fun _ => ⟨rfl, rfl⟩) fun _ => id
    | cancelled => exact .done going
    | failed e =>
        dsimp only
        cases foreseen : loadProblem? e with
        | some p => exact concludes_closing going (fun _ => ⟨rfl, rfl⟩) fun _ => id
        | none =>
            refine .done ?_
            cases e with
            | unexpected f => exact going
            | expected e => cases e <;> first | exact going | cases foreseen
  · cases known.1
  · cases known.1

/-! ## Loads that are going on -/

section Systems

variable {sys : System (engineProgram engine) M} {heard : TaskId → History Studio}

/-- The account of every load that is going on stands, given what it has heard. -/
def Accounted (sys : System (engineProgram engine) M) (heard : TaskId → History Studio) : Prop :=
  ∀ (i : TaskId) (f : Fiber Studio Unit) (p : Bool) (c : Nat),
    sys.tasks[i]? = some ⟨.job .loadEngine, f, p, c⟩ → f.hasEnded = false →
      (f.rest (loadOnce engine)).Obeys accounting (Concludes i)
        ⟨seen sys.store, metrics (heard i)⟩

/-- While a load is going on nobody else changes what it sees. -/
lemma Loads.seen_apply (loads : Loads sys) {i : TaskId} (load : sys.store.load = some i)
    {choice : Choice (engineProgram engine)} (going : InFlight (sys.apply choice) i) :
    choice = .turn i ∨ seen (sys.apply choice).store = seen sys.store := by
  have becomes := loads.becomes_apply choice
  generalize startsOf sys choice = ts at becomes
  cases becomes with
  | same same kept => exact .inr (seen_of_sameLoad same)
  | opened n idle => cases idle.symm.trans load
  | closed n load' closed ends =>
      obtain rfl : n = i := Option.some.inj (load'.symm.trans load)
      obtain ⟨task, found, -, unended⟩ := going
      exact absurd (ends task found) (Bool.eq_false_iff.mp unended)

/-- A load in its turn keeps its account. -/
lemma accounted_evolves {i : TaskId} {f f' : Fiber Studio Unit} {c : Nat} {h h' : History Studio}
    {b : EngineState} (evolves : Evolves (loadOnce engine) c f h' f')
    (obeys : (f.rest (loadOnce engine)).Obeys accounting (Concludes i)
      ⟨seen sys.store, metrics h⟩) (threads : Threads seen (seen sys.store) h' b)
    (unended : f'.hasEnded = false) :
    (f'.rest (loadOnce engine)).Obeys accounting (Concludes i) ⟨b, metrics (h ++ h')⟩ := by
  have follows := follows_accounting (a := ⟨seen sys.store, metrics h⟩) threads
  rw [metrics_append]
  cases evolves with
  | still =>
      cases threads
      exact (List.append_nil (metrics h)).symm ▸ obeys
  | unbegun => cases unended
  | comes comes =>
      cases comes with
      | waiting leads => exact obeys.leads leads follows
      | ready leads => exact obeys.leads leads follows
      | ended => cases unended
      | lost => cases unended

lemma Accounted.apply (accounted : Accounted sys heard) (loads : Loads sys)
    (unheard : ∀ i : TaskId, sys.tasks[i]? = none → heard i = [])
    (choice : Choice (engineProgram engine)) :
    Accounted (sys.apply choice) fun i => heard i ++ sys.hears i choice := by
  intro i f' p' c' found unended
  have going : InFlight (sys.apply choice) i := ⟨_, found, rfl, unended⟩
  cases present : sys.tasks[i]? with
  | none =>
      obtain ⟨o, p, n, same, -⟩ := System.fresh_apply sys choice present found
      cases same
      obtain ⟨phase, load⟩ := (loads.apply shares_engine choice).recorded going
      refine concludes_loadOnce engine ⟨phase, load, ?_⟩
      change metrics (heard i ++ sys.hears i choice) = []
      rw [unheard i present, System.hears_of_absent present]
      rfl
  | some old =>
      obtain ⟨o, f, p, c⟩ := old
      obtain ⟨f'', p'', c'', found', -, evolves, -⟩ :=
        (System.evolved_apply sys i choice).own present (loads.sound i _ present)
      cases found.symm.trans found'
      have before : f.hasEnded = false := Bool.eq_false_iff.mpr fun ended =>
        Bool.eq_false_iff.mp unended (evolves.hasEnded ended)
      have obeys := accounted i f p c present before
      refine accounted_evolves evolves obeys ?_ unended
      by_cases own : choice = .turn i
      · subst own
        rw [sys.hears_own i]
        exact System.threads_resume seen sys i
      · have load := (loads.recorded ⟨_, present, rfl, before⟩).2
        rw [System.hears_of_ne own]
        exact (loads.seen_apply load going).resolve_left own

/-- **The account of every load that is going on stands**, whatever the schedule. -/
theorem accounted_follow (w : M.State) (schedule : List (Choice (engineProgram engine))) :
    Accounted ((uncalled engine w).follow schedule)
      fun i => (uncalled engine w : System _ M).history i schedule := by
  induction schedule using List.reverseRecOn with
  | nil =>
      intro i f p c found
      cases found
  | append_singleton first choice ih =>
      have calling : Calling ((uncalled engine w).follow first) := (calling_uncalled w).follow first
      have unheard : ∀ i : TaskId, ((uncalled engine w).follow first).tasks[i]? = none →
          (uncalled engine w).history i first = [] := fun i =>
        System.history_of_absent (calling_uncalled w).loads.sound first
      rw [(uncalled engine w).follow_snoc,
        funext fun i => (uncalled engine w).history_snoc i first choice]
      exact ih.apply calling.loads unheard choice

/-! ## What a load may end with -/

/-- What a load does not foresee: the program or the root of workspaces cannot be handed over. -/
inductive Unforeseen (engine : Settings) (h : History Studio) : Fault → Prop
  | program {problem : SpawnProblem} (other : ∀ e, problem ≠ .os e)
      (refused : .asked (.act (.spawn [engine.ffmpeg, "-version"] none)) (Except.error problem) ∈ h) :
      Unforeseen engine h problem.fault
  | root {f : Fault} (withheld : Studio.pathFault? (.ofText engine.workspaceRoot) = some f) :
      Unforeseen engine h f

/-- **A load that is not asked to stop succeeds or fails in a foreseen way**, unless the program or
the root of workspaces cannot be handed over. -/
theorem foreseen_of_ended {w : M.State} {schedule : List (Choice (engineProgram engine))}
    {i : TaskId} {x : Exit Unit}
    (ended : ((uncalled engine w).follow schedule).Ended i (.job .loadEngine) x)
    (never : .cancel i ∉ schedule) :
    x.Foreseen (Unforeseen engine ((uncalled engine w : System _ M).history i schedule)) := by
  obtain ⟨p, c, found⟩ := ended
  have calm : ¬ 0 < c := fun asked => never (asked_of_cancels found asked)
  obtain ⟨evolves, -⟩ := System.lived rfl found
  have granted := System.granted_history rfl found
  generalize (uncalled engine w : System _ M).history i schedule = h at evolves granted
  have plays : (loadOnce engine).Plays h x := by
    cases evolves with
    | unbegun asked => exact absurd asked calm
    | comes comes =>
        cases comes with
        | ended plays => exact plays
        | lost plays asked => exact absurd asked calm
  have answered : h.Answered := by
    have within : (loadOnce engine).Within (fun _ => True) fun s => ∃ w, s = .wait w :=
      within_loadOnce trivial (fun _ => trivial) (fun _ => trivial) (fun w => ⟨w, rfl⟩) engine
    intro e among
    have waits := (within.leads plays).1 e among
    cases e with
    | asked q v => trivial
    | awaited s y =>
        obtain ⟨w, rfl⟩ := waits
        rcases granted _ among with returned | ⟨-, asked⟩
        · exact returned
        · exact absurd asked calm
  have foresees := foresees_loadOnce (P := (· ∈ h)) (C := Unforeseen engine h) answered engine
    (fun _ => .program) fun _ => .root
  exact foresees.of_plays plays fun _ => id

end Systems

end Engine

end Montage
