import Mathlib.Data.Finset.Card
import Montage.Proofs.Studio.Callers

/-!
# How often the engine was loaded

The engine's record counts the loads that were tried.  A load counts itself when it takes its first
step, and nothing else does.

* `Routine.Within.keeps` — who asks for nothing else keeps to a contract that allows as much.
* `Engine.counting` — the count is left alone; `Engine.counts_loadOnce` — a load adds one to it.
* `Engine.ran` — the loads that have taken a step; **`Engine.tallied_follow`** — the count is their
  number, whatever the schedule.
-/

namespace Montage

open Routine

/-- Who asks only for what a contract allows keeps to it. -/
lemma Routine.Within.keeps {E : Interface} {σ α : Type} {K : Contract E σ} {r : Routine E α}
    {asks : Request E → Prop} {awaits : Suspension E → Prop} (within : r.Within asks awaits)
    (allowed : ∀ q, asks q → ∀ a, q.Allowed K a) : r.Keeps K := by
  induction r with
  | done x => exact keeps_done x
  | ask q k ih =>
      obtain ⟨may, rest⟩ := obeys_ask_iff.mp (within () trivial)
      exact fun a => .ask (allowed q may a) fun v _ => ih v (fun _ _ => rest v () trivial) _
  | await s k ih =>
      obtain ⟨-, rest⟩ := obeys_await_iff.mp (within () trivial)
      exact fun _ => .await fun b _ x => ih x (fun _ _ => rest x () trivial) b

namespace Engine

variable {engine : Settings} {M : Machine Studio}

/-- The count of loads is left alone. -/
def counting : Contract Studio Nat where
  view := EngineState.attempts
  rely _ _ := True
  guarantee a b := b = a
  starts _ := True

lemma eq_of_guarantee {a b : Nat} (steps : Relation.ReflTransGen counting.guarantee a b) :
    b = a := by
  induction steps with
  | refl => rfl
  | tail _ last same => exact last.trans same

/-- Who does not write to the record leaves the count alone. -/
lemma keeps_counting {α : Type} {r : StudioRoutine α}
    (within : r.Within (fun q => ∀ s, q ≠ .set s) fun _ => True) : r.Keeps counting :=
  within.keeps fun q may a => by
    cases q with
    | set s => exact absurd rfl (may s)
    | _ => trivial

lemma ignores_writing :
    (Regime.only (E := Studio) (fun q => ∀ s, q ≠ .set s) fun _ => True).Ignores
      fun _ => True where
  get _ _ := ⟨nofun, fun _ _ _ => trivial⟩
  act _ _ _ _ := ⟨nofun, fun _ _ _ => trivial⟩
  wait _ _ _ _ := ⟨trivial, fun _ _ _ => trivial⟩
  enter _ _ _ := ⟨trivial, fun _ _ _ => trivial⟩
  leave _ _ _ := ⟨nofun, fun _ _ => trivial⟩

lemma keeps_modifyState {f : EngineState → EngineState}
    (same : ∀ s, (f s).attempts = s.attempts) : (modifyState f).Keeps counting := by
  intro a
  refine .ask trivial fun s tells => .ask ?_ fun _ _ => .done trivial
  exact (same s).trans tells

/-- **A load counts itself at once**, and then leaves the count alone. -/
lemma counts_loadOnce (settings : Settings) : ∃ rest : StudioRoutine Unit, rest.Keeps counting
    ∧ loadOnce settings = .ask .get fun s =>
        .ask (.set { s with attempts := s.attempts + 1 }) fun _ => rest := by
  refine ⟨_, ?_, rfl⟩
  have asks : (Tool.version settings.ffmpeg).Keeps counting :=
    keeps_counting (Tool.maintains_version ignores_writing.toSpares Tool.attends_all trivial)
  have makes : (Studio.makeWorkspace (.ofText settings.workspaceRoot) workspaceBeginning).Keeps
      counting :=
    keeps_counting (Studio.maintains_inTime ignores_writing.toSpares rfl trivial trivial)
  have records : ∀ m, (Studio.record m).Keeps counting := fun m =>
    keeps_counting (within_ask nofun fun _ => maintains_done _)
  have closes : ∀ {f : EngineState → EngineState} {rest : StudioRoutine Unit},
      (∀ s, (f s).attempts = s.attempts) → rest.Keeps counting →
      ((modifyState f).bind fun _ => rest).Keeps counting :=
    fun same keeps => (keeps_modifyState same).bind fun _ => keeps
  refine (asks.bind fun version => makes.bind fun workspace =>
    keeps_done (.returned (version, workspace))).handle fun x => ?_
  cases x with
  | returned found => exact closes (fun _ => rfl) (records _)
  | cancelled => exact keeps_done _
  | failed e =>
      dsimp only
      cases loadProblem? e with
      | none => exact keeps_done _
      | some p => exact closes (fun _ => rfl) ((records _).bind fun _ => keeps_done _)

/-- Where a load comes to that has taken a step. -/
lemma counted_of_leads {settings : Settings} {h : History Studio} {r : StudioRoutine Unit}
    {a b : Nat} (leads : (loadOnce settings).Leads h r) (rests : ∀ q k, r ≠ .ask q k)
    (threads : Threads EngineState.attempts a h b) :
    h ≠ [] ∧ b = a + 1 ∧ r.Abides counting (fun _ _ => True) b := by
  obtain ⟨rest, keeps, same⟩ := counts_loadOnce settings
  rw [same] at leads
  cases leads with
  | refl => exact absurd rfl (rests _ _)
  | ask leads =>
      cases leads with
      | refl => exact absurd rfl (rests _ _)
      | ask leads =>
          obtain ⟨tells, -, threads⟩ := threads
          obtain ⟨steps, -, left⟩ :=
            (keeps _).leads (K := counting) (fun _ => trivial) leads threads
          refine ⟨List.cons_ne_nil _ _, ?_, left⟩
          rw [eq_of_guarantee steps]
          exact congrArg (· + 1) tells

lemma counting_free (a b : Nat) : counting.rely a b := trivial

/-- A load that takes its first step counts itself, and then leaves the count alone. -/
lemma counted_of_comes {settings : Settings} {h : History Studio} {f : Fiber Studio Unit}
    {a b c : Nat}
    (comes : Comes (loadOnce settings) c h f) (threads : Threads EngineState.attempts a h b) :
    h ≠ [] ∧ b = a + 1 ∧ (f.rest (loadOnce settings)).Keeps counting := by
  cases comes with
  | waiting leads =>
      obtain ⟨some, same, abides⟩ := counted_of_leads leads nofun threads
      exact ⟨some, same, abides.keeps counting_free⟩
  | ready leads =>
      obtain ⟨some, same, abides⟩ := counted_of_leads leads nofun threads
      exact ⟨some, same, abides.keeps counting_free⟩
  | ended plays =>
      obtain ⟨some, same, -⟩ := counted_of_leads plays nofun threads
      exact ⟨some, same, keeps_done _⟩
  | lost plays =>
      obtain ⟨some, same, -⟩ := counted_of_leads plays nofun threads
      exact ⟨some, same, keeps_done _⟩

/-- Where a load stands that has heard this much: it has not taken a step, or it has counted
itself. -/
inductive Counted (settings : Settings) : History Studio → Fiber Studio Unit → Prop
  | fresh : Counted settings [] .fresh
  | unbegun : Counted settings [] (.ended .cancelled)
  | begun {h : History Studio} {f : Fiber Studio Unit} (some : h ≠ [])
      (keeps : (f.rest (loadOnce settings)).Keeps counting) : Counted settings h f

/-- **A load counts itself in its first turn, and in no other.** -/
lemma Counted.evolves {settings : Settings} {h h' : History Studio} {f f' : Fiber Studio Unit}
    {a b c : Nat} (counted : Counted settings h f)
    (evolves : Evolves (loadOnce settings) c f h' f')
    (threads : Threads EngineState.attempts a h' b) :
    Counted settings (h ++ h') f' ∧ b = a + if h = [] ∧ h' ≠ [] then 1 else 0 := by
  cases counted with
  | begun some keeps =>
      obtain ⟨steps, -, left⟩ := evolves.keeps (K := counting) counting_free keeps threads
      refine ⟨.begun (by simp [some]) left, ?_⟩
      rw [if_neg fun none => some none.1]
      exact eq_of_guarantee steps
  | unbegun =>
      have none : h' = [] ∧ f' = .ended .cancelled := by
        cases evolves with
        | still => exact ⟨rfl, rfl⟩
        | comes comes =>
            obtain ⟨rfl, rfl | ⟨rfl, -⟩⟩ := comes_ended comes
            · exact ⟨rfl, rfl⟩
            · exact ⟨rfl, rfl⟩
      obtain ⟨rfl, rfl⟩ := none
      cases threads
      exact ⟨.unbegun, by simp⟩
  | fresh =>
      cases evolves with
      | still =>
          cases threads
          exact ⟨.fresh, by simp⟩
      | unbegun =>
          cases threads
          exact ⟨.unbegun, by simp⟩
      | comes comes =>
          obtain ⟨some, same, keeps⟩ := counted_of_comes comes threads
          refine ⟨.begun some keeps, ?_⟩
          rw [if_pos ⟨rfl, some⟩]
          exact same

/-! ## Loads that have taken a step -/

section Systems

variable {sys : System (engineProgram engine) M}

/-- Whether a task loads the engine and has taken a step. -/
def hasRun (sys : System (engineProgram engine) M)
    (schedule : List (Choice (engineProgram engine))) (i : TaskId) : Bool :=
  ((sys.follow schedule).tasks[i]?).any (fun task => task.origin.isLoad)
    && !(sys.history i schedule).isEmpty

/-- The loads that have taken a step. -/
def ran (sys : System (engineProgram engine) M)
    (schedule : List (Choice (engineProgram engine))) : Finset TaskId :=
  {i ∈ Finset.range (sys.follow schedule).tasks.length | hasRun sys schedule i}

lemma mem_ran {schedule : List (Choice (engineProgram engine))} {i : TaskId} :
    i ∈ ran sys schedule ↔ hasRun sys schedule i = true := by
  rw [ran, Finset.mem_filter, Finset.mem_range]
  refine and_iff_right_of_imp fun run => ?_
  have there := (Bool.and_eq_true_iff.mp run).1
  cases found : (sys.follow schedule).tasks[i]? with
  | none =>
      rw [found] at there
      cases there
  | some task => exact (List.getElem?_eq_some_iff.mp found).1

variable {first : List (Choice (engineProgram engine))} {choice : Choice (engineProgram engine)}

/-- Nobody but the one at the turn hears anything. -/
lemma eq_of_hears {i t : TaskId} (heard : sys.hears i (.turn t) ≠ []) : i = t := by
  by_contra apart
  exact heard (System.hears_of_ne fun same => apart (Choice.turn.inj same).symm)

/-- Who has run has done so before, or hears something now. -/
lemma mem_ran_append (nobody : sys.tasks = []) {i : TaskId} :
    i ∈ ran sys (first ++ [choice]) ↔ i ∈ ran sys first
      ∨ ∃ task, (sys.follow first).tasks[i]? = some task ∧ task.origin.isLoad = true
        ∧ (sys.follow first).hears i choice ≠ [] := by
  have sound := System.sound_follow (System.sound_nobody nobody) first
  rw [mem_ran, mem_ran, hasRun, hasRun, sys.follow_snoc, sys.history_snoc]
  cases present : (sys.follow first).tasks[i]? with
  | none =>
      rw [System.history_of_absent (System.sound_nobody nobody) first present,
        System.hears_of_absent present]
      simp
  | some task =>
      obtain ⟨o, f, p, c⟩ := task
      obtain ⟨f', p', c', found, -⟩ :=
        (System.evolved_apply (sys.follow first) i choice).own present (sound i _ present)
      rw [found]
      cases load : o.isLoad with
      | false => simp [load]
      | true =>
          cases sys.history i first with
          | nil => simp [load]
          | cons e h => simp [load]

/-- Nobody has taken a first step. -/
lemma ran_append_of_old (nobody : sys.tasks = [])
    (old : ∀ i task, (sys.follow first).tasks[i]? = some task → task.origin.isLoad = true →
      (sys.follow first).hears i choice ≠ [] → i ∈ ran sys first) :
    ran sys (first ++ [choice]) = ran sys first := by
  ext i
  rw [mem_ran_append nobody]
  exact or_iff_left_of_imp fun ⟨task, present, load, hears⟩ => old i task present load hears

/-- A load has taken its first step. -/
lemma ran_append_of_new (nobody : sys.tasks = []) {t : TaskId}
    {f : Fiber Studio Unit} {p : Bool} {c : Nat}
    (present : (sys.follow first).tasks[t]? = some ⟨.job .loadEngine, f, p, c⟩)
    (hears : (sys.follow first).heardIn t ≠ []) :
    ran sys (first ++ [.turn t]) = insert t (ran sys first) := by
  ext i
  rw [mem_ran_append nobody, Finset.mem_insert, or_comm]
  refine or_congr_left ⟨fun ⟨task, _, _, heard⟩ => eq_of_hears heard, fun same => ?_⟩
  rw [same]
  exact ⟨_, present, rfl, by rwa [(sys.follow first).hears_own t]⟩

/-- What loads there were, and how often the engine was loaded. -/
structure Tallied (sys : System (engineProgram engine) M)
    (schedule : List (Choice (engineProgram engine))) : Prop where
  counted : ∀ (i : TaskId) (f : Fiber Studio Unit) (p : Bool) (c : Nat),
    (sys.follow schedule).tasks[i]? = some ⟨.job .loadEngine, f, p, c⟩ →
      Counted engine (sys.history i schedule) f
  attempts : (sys.follow schedule).store.attempts = (ran sys schedule).card

/-- Who does not load the engine leaves the record alone, or starts a load. -/
lemma Loads.store_of_other {sys : System (engineProgram engine) M} (loads : Loads sys) {t : TaskId}
    {o : Origin (engineProgram engine)} {f : Fiber Studio o.Out} {p : Bool} {c : Nat}
    (found : sys.tasks[t]? = some ⟨o, f, p, c⟩) (other : o.isLoad = false) :
    (sys.resume t).store = sys.store
      ∨ sys.store.load = none ∧ ∃ u, (sys.resume t).store = sys.store.opened u := by
  obtain ⟨f', p', c', -, -, evolves, -⟩ :=
    (sys.turn_resume t).own.own found (loads.sound t _ found)
  obtain ⟨-, b, settled, sofar, -⟩ :=
    evolves_obeys (loads.obeys t _ found) evolves (System.threads_resume id sys t)
  generalize starts (sys.heardIn t) = ts at sofar
  generalize store : id (sys.resume t).store = s at sofar
  obtain rfl : (sys.resume t).store = s := store
  generalize (sys.resume t).store = s at sofar ⊢
  cases sofar with
  | same same others fits => exact .inl (others other)
  | owing => cases settled
  | opened u other idle => exact .inr ⟨idle, u, rfl⟩
  | closed load => cases other.symm.trans load

lemma Loads.attempts_of_other {sys : System (engineProgram engine) M} (loads : Loads sys)
    {t : TaskId} {o : Origin (engineProgram engine)} {f : Fiber Studio o.Out} {p : Bool} {c : Nat}
    (found : sys.tasks[t]? = some ⟨o, f, p, c⟩) (other : o.isLoad = false) :
    (sys.resume t).store.attempts = sys.store.attempts := by
  rcases loads.store_of_other found other with same | ⟨-, u, opened⟩
  · rw [same]
  · rw [opened]
    rfl

/-- A load counts itself or not, whatever happens next. -/
lemma Tallied.counted_append (nobody : sys.tasks = []) (loads : Loads (sys.follow first))
    (tallied : Tallied sys first) {i : TaskId} {f : Fiber Studio Unit} {p : Bool} {c : Nat}
    (found : ((sys.follow first).apply choice).tasks[i]? = some ⟨.job .loadEngine, f, p, c⟩) :
    Counted engine (sys.history i first ++ (sys.follow first).hears i choice) f := by
  cases present : (sys.follow first).tasks[i]? with
  | none =>
      obtain ⟨o, p', n, same, -⟩ := System.fresh_apply _ choice present found
      cases same
      rw [System.history_of_absent (System.sound_nobody nobody) first present,
        System.hears_of_absent present]
      exact .fresh
  | some old =>
      obtain ⟨o, f', p', c'⟩ := old
      obtain ⟨f'', p'', c'', found', -, evolves, -⟩ :=
        ((sys.follow first).evolved_apply i choice).own present (loads.sound i _ present)
      cases found.symm.trans found'
      obtain ⟨b, threads⟩ :=
        System.threads_hears EngineState.attempts (sys.follow first) i choice
      exact ((tallied.counted i f' p' c' present).evolves evolves threads).1

/-- What a turn adds to the count. -/
lemma Tallied.attempts_turn (nobody : sys.tasks = []) (loads : Loads (sys.follow first))
    (tallied : Tallied sys first) (t : TaskId) :
    ((sys.follow first).resume t).store.attempts = (ran sys (first ++ [.turn t])).card := by
  cases present : (sys.follow first).tasks[t]? with
  | none =>
      have same : (sys.follow first).resume t = sys.follow first := by
        simp only [System.resume, present]
      rw [same, tallied.attempts, ran_append_of_old nobody fun i task found _ heard => ?_]
      cases (eq_of_hears heard ▸ found).symm.trans present
  | some task =>
      obtain ⟨o, f, p, c⟩ := task
      cases o with
      | call call =>
          rw [loads.attempts_of_other present rfl, tallied.attempts,
            ran_append_of_old nobody fun i task found load heard => ?_]
          cases present.symm.trans (eq_of_hears heard ▸ found)
          cases load
      | job j =>
          cases j
          obtain ⟨f', p', c', -, -, evolves, -⟩ :=
            ((sys.follow first).turn_resume t).own.own present (loads.sound t _ present)
          obtain ⟨-, adds⟩ := (tallied.counted t f p c present).evolves evolves
            (System.threads_resume EngineState.attempts (sys.follow first) t)
          rw [adds, tallied.attempts]
          by_cases first_step : sys.history t first = [] ∧ (sys.follow first).heardIn t ≠ []
          · have new : t ∉ ran sys first := by
              rw [mem_ran, hasRun, first_step.1]
              simp
            rw [if_pos first_step, ran_append_of_new nobody present first_step.2,
              Finset.card_insert_of_notMem new]
          · rw [if_neg first_step, ran_append_of_old nobody fun i task found load heard => ?_,
              Nat.add_zero]
            obtain rfl := eq_of_hears heard
            rw [(sys.follow first).hears_own i] at heard
            have some : sys.history i first ≠ [] := fun none => first_step ⟨none, heard⟩
            rw [mem_ran, hasRun, found, Option.any_some, load, Bool.true_and, Bool.not_eq_true',
              List.isEmpty_eq_false_iff]
            exact some

/-- **The count is the number of loads that have taken a step.** -/
theorem tallied_follow (nobody : sys.tasks = []) (new : sys.store = {})
    (schedule : List (Choice (engineProgram engine))) : Tallied sys schedule := by
  induction schedule using List.reverseRecOn with
  | nil =>
      have absent : ∀ i : TaskId, (sys.follow []).tasks[i]? = none := fun i => by
        change sys.tasks[i]? = none
        rw [nobody]
        rfl
      refine ⟨fun i f p c found => ?_, ?_⟩
      · cases (absent i).symm.trans found
      · have none : ran sys [] = ∅ := by
          ext i
          rw [mem_ran, hasRun, absent]
          simp
        rw [none, Finset.card_empty]
        exact congrArg EngineState.attempts new
  | append_singleton first choice ih =>
      have loads := (loads_nobody nobody new).follow shares_engine first
      refine ⟨fun i f p c found => ?_, ?_⟩
      · rw [sys.follow_snoc] at found
        rw [sys.history_snoc]
        exact ih.counted_append nobody loads found
      · have silent : (∀ i, (sys.follow first).hears i choice = []) →
            ((sys.follow first).apply choice).store = (sys.follow first).store →
            ((sys.follow first).apply choice).store.attempts
              = (ran sys (first ++ [choice])).card := by
          intro hears same
          rw [ran_append_of_old nobody fun i _ _ _ heard => absurd (hears i) heard,
            ← ih.attempts, same]
        rw [sys.follow_snoc]
        cases choice with
        | call c => exact silent (fun _ => rfl) rfl
        | cancel t => exact silent (fun _ => rfl) (System.steady.cancelWithin _ t _).store
        | release t => exact silent (fun _ => rfl) (System.steady_release _ t).store
        | turn t => exact ih.attempts_turn nobody loads t

end Systems

end Engine

end Montage
