import Montage.Proofs.Routine.Asking
import Montage.Proofs.Routine.Lives
import Montage.Proofs.Routine.Reach
import Montage.Proofs.Studio.Apart

/-!
# Callers of the engine

Whoever needs the engine calls for it: by itself, as an application does when it starts, or as an
export does before it begins.  A caller watches the load that is going on, or starts one.

* `EngineCall`, `engineProgram` — loads and exports on one engine, any number of each.
* `Engine.shares_engine`, `Engine.aloof_engine` — they keep to the regime of the engine's load, and
  neither join each other nor ask each other to stop.
* `Engine.Stands` — where a caller may stand; **`Engine.stands_load`**.
* `Engine.Calling` — record, loads and callers agree; **`Engine.Calling.follow`** — whatever the
  schedule.
-/

namespace Montage

open Routine

/-! ## Calls on one engine -/

/-- What can be asked of an engine: to be loaded, or whatever a backend does on it. -/
inductive EngineCall where
  | load
  | backend (c : LocalCall)

/-- What each of these comes to. -/
def EngineCall.Result : EngineCall → Type
  | load => Unit
  | backend _ => BackendReply

/-- Any number of callers and of local backends that share one engine. -/
def engineProgram (engine : Settings) : Program Studio where
  job := (localProgram engine).job
  Call := EngineCall
  Result := EngineCall.Result
  call
    | .load => Engine.load
    | .backend c => c.routine engine
  capacity := (localProgram engine).capacity

namespace Engine

variable {engine : Settings} {M : Machine Studio}

/-- All that the engine's callers ask for keeps to the regime of loading. -/
lemma shares_engine : Shares (engineProgram engine) := by
  intro o
  cases o with
  | job j => exact shares_local (.job j)
  | call c =>
      cases c with
      | load =>
          exact (maintains_load .unaware trivial).mono fun b _ free => Stage.settled_of_free free
      | backend c => exact shares_local (.call c)

/-! ### Who keeps to himself -/

/-- Neither to join anybody nor to ask anybody to stop. -/
abbrev aloofness : Regime Studio Unit :=
  .only (fun q => ∀ t, q ≠ .cancel t) fun s => s.passesOn = false

/-- One who is aloof may do anything to the surroundings and the record. -/
lemma ignores_aloofness : aloofness.Ignores fun _ => True where
  get _ _ := ⟨nofun, fun _ _ _ => trivial⟩
  act _ _ _ _ := ⟨nofun, fun _ _ _ => trivial⟩
  wait _ _ _ _ := ⟨rfl, fun _ _ _ => trivial⟩
  enter _ _ _ := ⟨rfl, fun _ _ _ => trivial⟩
  leave _ _ _ := ⟨nofun, fun _ _ => trivial⟩

/-! ## Callers -/

/-- A caller starts a load, says so in the record, and watches it. -/
def startLoad : StudioRoutine Unit :=
  .ask (.start .loadEngine) fun t => .ask .get fun s =>
    .ask (.set { s with phase := .loading, load := some t }) fun _ =>
      .await (.watch .loadEngine t) .done

/-- What a caller does who has seen the record. -/
def enquire (s : EngineState) : StudioRoutine Unit :=
  if s.phase = .loaded then .done (.returned ())
  else match s.load with
    | some t => .await (.watch .loadEngine t) .done
    | none => startLoad

/-- Who finds the engine loaded has nothing to do. -/
lemma enquire_loaded {s : EngineState} (loaded : s.phase = .loaded) :
    enquire s = .done (.returned ()) := if_pos loaded

/-- Who finds a load going on watches it. -/
lemma enquire_going {s : EngineState} {t : TaskId} (phase : s.phase ≠ .loaded)
    (going : s.load = some t) : enquire s = .await (.watch .loadEngine t) .done := by
  rw [enquire, if_neg phase, going]

/-- Who finds neither starts a load. -/
lemma enquire_idle {s : EngineState} (phase : s.phase ≠ .loaded) (idle : s.load = none) :
    enquire s = startLoad := by
  rw [enquire, if_neg phase, idle]

/-- What a caller asks, step by step. -/
lemma load_eq : load = .ask .get enquire := by
  change Routine.ask _ _ = _
  congr 1
  funext s
  change (if s.phase = .loaded then _ else _) = enquire s
  split
  · rename_i loaded
    exact (enquire_loaded loaded).symm
  · rename_i phase
    cases going : s.load with
    | none =>
        rw [enquire_idle phase going]
        simp only [currentLoad, going]
        rfl
    | some t =>
        rw [enquire_going phase going]
        simp only [currentLoad, going]
        rfl

/-- Who calls for the engine joins nobody and asks nobody to stop. -/
lemma aloof_load : load.Aloof := by
  rw [load_eq]
  refine within_ask nofun fun s => ?_
  unfold enquire
  split
  · exact maintains_done _
  · split
    · exact within_await rfl maintains_done
    · exact within_ask nofun fun t => within_ask nofun fun s => within_ask nofun fun _ =>
        within_await rfl maintains_done

/-- All that a load asks for. -/
lemma within_loadOnce {asks : Request Studio → Prop} {awaits : Suspension Studio → Prop}
    (gets : asks .get) (sets : ∀ s, asks (.set s)) (acts : ∀ e, asks (.act e))
    (waits : ∀ w, awaits (.wait w)) (settings : Settings) :
    (loadOnce settings).Within asks awaits := by
  have spares : (Regime.only asks awaits).Spares (fun _ => True) (fun _ => True) fun _ => True :=
    ⟨fun _ _ => ⟨gets, fun _ _ _ => trivial⟩, fun e _ _ _ => ⟨acts e, fun _ _ _ => trivial⟩,
      fun w _ _ _ => ⟨waits w, fun _ _ _ => trivial⟩⟩
  have modifies : ∀ f, (modifyState f).Within asks awaits := fun f =>
    within_ask gets fun _ => within_ask (sets _) fun _ => maintains_done _
  have records : ∀ m, (Studio.record m).Within asks awaits := fun m =>
    within_ask (acts _) fun _ => maintains_done _
  have asks : (Tool.version settings.ffmpeg).Within asks awaits :=
    Tool.maintains_version spares Tool.attends_all trivial
  have makes : (Studio.makeWorkspace (.ofText settings.workspaceRoot)
      workspaceBeginning).Within _ awaits := Studio.maintains_inTime spares rfl trivial trivial
  refine (modifies _).bind fun _ => Maintains.handle
    (asks.bind fun version => makes.bind fun workspace =>
      maintains_done (.returned (version, workspace))) fun x => ?_
  cases x with
  | returned found => exact (modifies _).bind fun _ => records _
  | cancelled => exact maintains_done _
  | failed e =>
      dsimp only
      cases loadProblem? e with
      | none => exact maintains_done _
      | some p => exact (modifies _).bind fun _ => (records _).bind fun _ => maintains_done _

/-- So do all that have to do with the engine. -/
lemma aloof_engine : (engineProgram engine).Aloof := by
  intro o
  cases o with
  | job j =>
      cases j with
      | loadEngine =>
          exact within_loadOnce nofun (fun _ => nofun) (fun _ => nofun) (fun _ => rfl) engine
  | call c =>
      cases c with
      | load => exact aloof_load
      | backend c =>
          cases c with
          | execute own g t payloads =>
              intro a _
              have executes := LocalBackend.maintains_execute ignores_aloofness aloof_load
                (own.sharing engine) g t payloads a trivial
              exact (executes.gatherFrom []).bind (fun _ _ _ => .done trivial)
                (fun _ _ _ => trivial) fun _ _ => trivial
          | cleanup own =>
              exact (LocalBackend.maintains_cleanup ignores_aloofness).bind fun _ =>
                maintains_done (.returned BackendReply.cleaned)

/-- What a caller has asked who watches a load: it was going on, or the caller has started it. -/
inductive Calls : History Studio → TaskId → Prop
  | joins {s : EngineState} {t : TaskId} (going : s.load = some t) : Calls [.asked .get s] t
  | starts {s s' : EngineState} {t : TaskId} (idle : s.load = none) :
      Calls [.asked .get s, .asked (.start .loadEngine) t, .asked .get s',
        .asked (.set { s' with phase := .loading, load := some t }) ()] t

/-- Where a caller may stand. -/
inductive Stands : History Studio → StudioRoutine Unit → Prop
  | unneeded {s : EngineState} (loaded : s.phase = .loaded) :
      Stands [.asked .get s] (.done (.returned ()))
  | watching {h : History Studio} {t : TaskId} (calls : Calls h t) :
      Stands h (.await (.watch .loadEngine t) .done)
  | told {h : History Studio} {t : TaskId} {x : Exit Unit} (calls : Calls h t) :
      Stands (h ++ [.awaited (.watch .loadEngine t) x]) (.done x)

/-- **A caller who has come to a suspension, or to its end, stands so.** -/
theorem stands_load {h : History Studio} {r : StudioRoutine Unit} (leads : load.Leads h r)
    (rests : ∀ q k, r ≠ .ask q k) : Stands h r := by
  have watches : ∀ {before rest : History Studio} {t : TaskId}, Calls before t →
      (Routine.await (.watch .loadEngine t) .done : StudioRoutine Unit).Leads rest r →
      Stands (before ++ rest) r := by
    intro before rest t calls leads
    cases leads with
    | refl => simpa using Stands.watching calls
    | await ends =>
        obtain ⟨rfl, rfl⟩ := leads_done.mp ends
        exact .told calls
  rw [load_eq] at leads
  cases leads with
  | refl => exact absurd rfl (rests _ _)
  | @ask _ _ s rest _ leads =>
      change EngineState at s
      by_cases loaded : s.phase = .loaded
      · rw [enquire_loaded loaded] at leads
        obtain ⟨rfl, rfl⟩ := leads_done.mp leads
        exact .unneeded loaded
      · cases going : s.load with
        | some t =>
            rw [enquire_going loaded going] at leads
            exact watches (.joins going) leads
        | none =>
            rw [enquire_idle loaded going] at leads
            cases leads with
            | refl => exact absurd rfl (rests _ _)
            | @ask _ _ t rest _ leads =>
                cases leads with
                | refl => exact absurd rfl (rests _ _)
                | @ask _ _ s' rest _ leads =>
                    cases leads with
                    | refl => exact absurd rfl (rests _ _)
                    | ask leads => exact watches (.starts going) leads

/-! ## Record, loads and callers -/

section Systems

variable {sys sys' : System (engineProgram engine) M} {t : TaskId}

/-- A task that loads the engine, or has done so. -/
def Known (sys : System (engineProgram engine) M) (t : TaskId) : Prop :=
  ∃ task, sys.tasks[t]? = some task ∧ task.origin = .job .loadEngine

/-- A caller has not taken a step, watches a load, or has ended. -/
inductive Placed (sys : System (engineProgram engine) M) : StudioRoutine Unit → Prop
  | fresh : Placed sys load
  | watching {t : TaskId} (known : Known sys t) : Placed sys (.await (.watch .loadEngine t) .done)
  | ended {x : Exit Unit} : Placed sys (.done x)

/-- Record, loads and callers agree: whatever the record says is going on is a task that loads the
engine, and each caller waits for such a task. -/
structure Calling (sys : System (engineProgram engine) M) : Prop where
  loads : Loads sys
  aloof : sys.Aloof
  known : ∀ t, sys.store.load = some t → Known sys t
  placed : ∀ (i : TaskId) (f : Fiber Studio Unit) (p : Bool) (c : Nat),
    sys.tasks[i]? = some ⟨.call .load, f, p, c⟩ → Placed sys (f.rest load)

/-- A load that is known stays known. -/
lemma Known.apply (known : Known sys t) (sound : sys.Sound)
    (choice : Choice (engineProgram engine)) : Known (sys.apply choice) t := by
  obtain ⟨⟨o, f, p, c⟩, found, origin⟩ := known
  obtain ⟨f', p', c', found', -⟩ := (System.evolved_apply sys t choice).own found (sound t _ found)
  exact ⟨_, found', origin⟩

/-- A caller stays where it is in its routine, or has moved on in it. -/
lemma Placed.apply {r : StudioRoutine Unit} (placed : Placed sys r) (sound : sys.Sound)
    (choice : Choice (engineProgram engine)) : Placed (sys.apply choice) r := by
  cases placed with
  | fresh => exact .fresh
  | watching known => exact .watching (known.apply sound choice)
  | ended => exact .ended

/-- Who is started is there. -/
lemma known_of_hears {i : TaskId} {j : StudioJob} {choice : Choice (engineProgram engine)}
    (started : .asked (.start j) t ∈ sys.hears i choice) : Known (sys.apply choice) t := by
  cases j
  cases choice with
  | turn u =>
      unfold System.hears at started
      dsimp only at started
      split at started
      · exact System.present_resume sys started
      · cases started
  | _ => cases started

/-- A load that has been started is known. -/
lemma known_of_startsOf {choice : Choice (engineProgram engine)}
    (started : t ∈ startsOf sys choice) : Known (sys.apply choice) t := by
  cases choice with
  | turn u =>
      obtain ⟨e, among, asked⟩ := List.mem_filterMap.mp started
      split at asked
      · rename_i j n
        cases asked
        refine known_of_hears (i := u) (j := j) ?_
        unfold System.hears
        dsimp only
        rwa [if_pos rfl]
      · cases asked
  | _ => cases started

/-- Where a caller comes to in its turn. -/
lemma Placed.leads {r r' : StudioRoutine Unit} {h : History Studio} {b : EngineState}
    {choice : Choice (engineProgram engine)} {i : TaskId} (placed : Placed sys r)
    (calling : Calling sys) (hears : h = sys.hears i choice) (leads : r.Leads h r')
    (threads : Threads id sys.store h b) (rests : ∀ q k, r' ≠ .ask q k) :
    Placed (sys.apply choice) r' := by
  cases placed with
  | ended =>
      obtain ⟨-, rfl⟩ := leads_done.mp leads
      exact .ended
  | watching known =>
      cases leads with
      | refl => exact .watching (known.apply calling.loads.sound choice)
      | await ends =>
          obtain ⟨-, rfl⟩ := leads_done.mp ends
          exact .ended
  | fresh =>
      cases stands_load leads rests with
      | unneeded loaded => exact .ended
      | told calls => exact .ended
      | watching calls =>
          refine .watching ?_
          cases calls with
          | joins going =>
              obtain ⟨tells, -⟩ := threads
              obtain rfl : _ = sys.store := tells
              exact (calling.known _ going).apply calling.loads.sound choice
          | starts idle =>
              refine known_of_hears (i := i) (j := .loadEngine) ?_
              rw [← hears]
              exact List.mem_cons_of_mem _ List.mem_cons_self

/-- All that is known of callers and loads stays so, whatever happens next. -/
lemma Calling.apply (calling : Calling sys) (choice : Choice (engineProgram engine)) :
    Calling (sys.apply choice) where
  loads := calling.loads.apply shares_engine choice
  aloof := calling.aloof.apply aloof_engine calling.loads.sound choice
  known t going := by
    have becomes := calling.loads.becomes_apply choice
    have started : ∀ n, n ∈ startsOf sys choice → Known (sys.apply choice) n :=
      fun n => known_of_startsOf
    generalize startsOf sys choice = ts at becomes started
    cases becomes with
    | same same kept =>
        exact (calling.known t (same.load ▸ going)).apply calling.loads.sound choice
    | opened n idle phase opened =>
        rw [opened] at going
        cases going
        exact started t List.mem_cons_self
    | closed n load closed => cases closed.load.symm.trans going
  placed i f p c found := by
    cases present : sys.tasks[i]? with
    | none =>
        obtain ⟨o, p', n, same, -⟩ := System.fresh_apply sys choice present found
        cases same
        exact .fresh
    | some old =>
        obtain ⟨o, f', p', c'⟩ := old
        obtain ⟨f'', p'', c'', found', -, evolves, -⟩ :=
          (System.evolved_apply sys i choice).own present (calling.loads.sound i _ present)
        cases found.symm.trans found'
        have placed := calling.placed i f' p' c' present
        obtain ⟨b, threads⟩ := System.threads_hears id sys i choice
        generalize heard : sys.hears i choice = h at evolves threads
        cases evolves with
        | still => exact placed.apply calling.loads.sound choice
        | unbegun => exact .ended
        | comes comes =>
            cases comes with
            | waiting leads => exact placed.leads calling heard.symm leads threads nofun
            | ready leads => exact placed.leads calling heard.symm leads threads nofun
            | ended plays => exact placed.leads calling heard.symm plays threads nofun
            | lost plays => exact .ended

/-- **Record, loads and callers agree, whatever the schedule.** -/
theorem Calling.follow (calling : Calling sys) (schedule : List (Choice (engineProgram engine))) :
    Calling (sys.follow schedule) := by
  induction schedule generalizing sys with
  | nil => exact calling
  | cons choice rest ih => exact ih (calling.apply choice)

/-- An engine that nobody has called for yet. -/
def uncalled (engine : Settings) (w : M.State) : System (engineProgram engine) M :=
  { world := w, store := {} }

/-- It is so before anybody has called. -/
lemma calling_uncalled (w : M.State) : Calling (uncalled engine w) where
  loads := loads_nobody rfl rfl
  aloof i task found := by cases found
  known t going := by cases going
  placed i f p c found := by cases found

end Systems

end Engine

end Montage
