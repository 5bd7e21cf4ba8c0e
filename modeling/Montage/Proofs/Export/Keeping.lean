import Montage.Proofs.Export.Request
import Montage.Proofs.Routine.Contracts

/-!
# Who touches what at the desk

The desk keeps three things: its state, the run that is active, and the backends.  Runs set the
state, requests set the active run, and nobody else touches either.

* `Desk.keeping` — the contract that leaves a part of the desk alone.
* `keeps_atBase`, `keeps_follow` — whoever knows nothing of the desk leaves all of it alone.
* **`keeps_run`**, **`keeps_routine`** — runs leave the active run alone, and calls the state.
* **`settles_run`** — the state in which a run leaves the desk is the one that its end stands for.
-/

namespace Montage

variable {H : Interface} {σ α β : Type} {g : Desk → σ} {runs : Prop}

/-- To leave a part of the desk alone, whatever the others do; and to start runs or not. -/
def Desk.keeping (g : Desk → σ) (runs : Prop) : Contract (Office H) σ where
  view s := g s.2
  rely _ _ := True
  guarantee := Eq
  starts
    | .inl _ => runs
    | .inr _ => True

/-! ## Steps at the desk -/

/-- A question leaves a part of the desk alone if it is allowed to be asked. -/
lemma keeps_ask {q : Request (Office H)} (allowed : ∀ a, q.Allowed (Desk.keeping g runs) a) :
    (.ask q fun v => .done (.returned v) : OfficeRoutine H q.Reply).Keeps
      (Desk.keeping g runs) :=
  fun a => .ask (allowed a) fun _ _ => .done trivial

/-- So does a change of the desk that leaves the part as it is. -/
lemma keeps_modify {f : Desk → Desk} (same : ∀ d, g (f d) = g d) :
    (Desk.modify f : OfficeRoutine H Unit).Keeps (Desk.keeping g runs) := by
  refine fun a => .ask trivial fun s tells => .ask ?_ fun _ _ => .done trivial
  exact tells.symm.trans (same s.2).symm

/-- What is done to the surroundings leaves the desk alone. -/
lemma keeps_act (a : (Office H).Act) :
    (Routine.act (E := Office H) a).Keeps (Desk.keeping g runs) :=
  keeps_ask fun _ => trivial

/-- So does waiting. -/
lemma keeps_await {s : Suspension (Office H)} {k : Exit s.Answer → OfficeRoutine H α}
    (rest : ∀ x, (k x).Keeps (Desk.keeping g runs)) :
    (.await s k : OfficeRoutine H α).Keeps (Desk.keeping g runs) :=
  fun _ => .await fun b _ x => rest x b

/-- To leave a part of the desk alone goes from single questions to whatever knows nothing of the
desk. -/
lemma closed_keeping : Office.ClosedAtBase (fun _ => True)
    fun _ (r : OfficeRoutine H _) => r.Keeps (Desk.keeping g runs) where
  ends := Routine.keeps_done
  handle := Routine.Keeps.handle
  ask q foreign := by
    refine keeps_ask fun a => ?_
    cases q with
    | set s => exact foreign.elim
    | start j =>
        cases j with
        | inl t => exact foreign.elim
        | inr j => trivial
    | _ => trivial
  set s := fun a => .ask trivial fun old tells => .ask tells.symm fun _ _ => .done trivial
  await s _ := by
    cases s <;> exact keeps_await fun x => Routine.keeps_done x

/-- Asking the active run to stop leaves any part of the desk alone. -/
lemma keeps_cancel : (Desk.cancel : OfficeRoutine H Bool).Keeps (Desk.keeping g runs) :=
  closed_keeping.closed.cancel

/-- Who knows nothing of the desk leaves all of it alone. -/
lemma keeps_atBase (r : Routine H α) : (atBase r).Keeps (Desk.keeping g runs) :=
  closed_keeping.atBase (Routine.within_anything r)

/-- Calling for a backend changes the backends only. -/
lemma keeps_summon (same : ∀ d backends, g { d with backends } = g d) (backend : BackendKind) :
    (Desk.summon backend : OfficeRoutine H Unit).Keeps (Desk.keeping g runs) :=
  keeps_modify fun d => same d _

/-- So does loading the engine ahead of time. -/
lemma keeps_preload (s : Services H) (same : ∀ d backends, g { d with backends } = g d) :
    (preload s).Keeps (Desk.keeping g runs) := by
  refine (keeps_summon same .localEngine).bind fun _ => ?_
  cases s.preload with
  | none => exact Routine.keeps_done _
  | some r =>
      refine (keeps_atBase r).handle fun x => ?_
      cases x with
      | returned u => exact Routine.keeps_done _
      | cancelled => exact Routine.keeps_done _
      | failed e => cases e <;> exact Routine.keeps_done _

/-! ## Runs -/

section Runs

/-- The contract of a run: the active run is not its business. -/
abbrev Desk.forRuns : Contract (Office H) (Option TaskId) := Desk.keeping Desk.active False

/-- To leave the active run alone goes to whole runs: all that a run does to the desk itself is to
set its state and to summon a backend. -/
lemma closed_forRuns : Office.ClosedForRuns (fun _ => True)
    fun _ (r : OfficeRoutine H _) => r.Keeps Desk.forRuns where
  toClosedAtBase := closed_keeping
  tell _ := keeps_act _
  record _ := keeps_act _
  setState _ := keeps_modify fun _ => rfl
  summon backend := keeps_summon (fun _ _ => rfl) backend

/-- **A run leaves the active run alone** and starts no other. -/
theorem keeps_run (s : Services H) (t : Timeline) : (run s t).Keeps Desk.forRuns :=
  closed_forRuns.run (Routine.maintains_anything _) (fun _ _ _ => Routine.maintains_anything _)
    fun _ => Routine.within_anything _

end Runs

/-! ## Calls -/

/-- The contract of whoever is not a run: the state is not their business. -/
abbrev Desk.forOthers : Contract (Office H) ExportState := Desk.keeping Desk.state True

/-- Setting the active run leaves the state of the desk alone. -/
lemma keeps_setActive (active : Option TaskId) :
    (Desk.setActive active : OfficeRoutine H Unit).Keeps Desk.forOthers :=
  keeps_modify fun _ => rfl

/-- So does a request when its run has ended. -/
lemma keeps_onExit (x : Exit Video) :
    (Request.onExit x : OfficeRoutine H Video).Keeps Desk.forOthers := by
  refine (keeps_setActive none).bind fun _ => ?_
  cases x with
  | returned v => exact Routine.keeps_done _
  | failed e => exact Routine.keeps_done _
  | cancelled =>
      refine (keeps_ask (q := .cancelling) fun _ => trivial).bind fun asked => ?_
      cases asked <;> exact Routine.keeps_done _

/-- **A request leaves the state of the desk alone.** -/
lemma keeps_requestExport (s : Services H) (input : ExportInput) :
    (requestExport s input).Keeps Desk.forOthers := by
  have waits : ∀ t id, (Request.awaitRun t id : OfficeRoutine H Video).Keeps Desk.forOthers := by
    intro t id
    rw [Request.awaitRun_eq]
    exact keeps_await keeps_onExit
  rw [requestExport_eq]
  exact closed_keeping.closed.get.bind fun d => (Routine.keeps_done _).bind fun t =>
    (keeps_ask (q := .start (.inl t)) fun _ => trivial).bind fun id =>
      (keeps_setActive (some id)).bind fun _ => waits t id

/-- **A call leaves the state alone.** -/
theorem keeps_routine (s : Services H) (c : DeskCall) : (c.routine s).Keeps Desk.forOthers := by
  cases c with
  | request input => exact keeps_requestExport s input
  | preload => exact keeps_preload s fun _ _ => rfl
  | cancel => exact keeps_cancel

/-- The contract of the last step of a request: no run is started. -/
abbrev Desk.freeing : Contract (Office H) (Option TaskId) where
  view s := s.2.active
  rely _ _ := True
  guarantee _ _ := True
  starts _ := False

/-- When a request has ended, no run is active. -/
lemma frees_onExit (x : Exit Video) (a : Option TaskId) :
    (Request.onExit x : OfficeRoutine H Video).Abides Desk.freeing (fun b _ => b = none) a := by
  refine .ask trivial fun s _ => .ask trivial fun _ _ => ?_
  cases x with
  | returned v => exact .done rfl
  | failed e => exact .done rfl
  | cancelled =>
      refine .ask trivial fun asked _ => ?_
      cases asked with
      | false => exact .done rfl
      | true => exact .done rfl

/-! ## The end of a run -/

section Settling

/-- The state that an end stands for. -/
def Exit.state : Exit α → ExportState
  | .returned _ => .succeeded
  | _ => .failed

/-- What a run can do when nobody else touches the state. -/
abbrev Desk.alone : Contract (Office H) ExportState where
  view s := s.2.state
  rely := Eq
  guarantee _ _ := True
  starts _ := True

variable {a : ExportState}

/-- Whatever a routine does, it abides by the contract of one who is alone at the desk. -/
lemma abides_alone (r : OfficeRoutine H α) : r.Abides Desk.alone (fun _ _ => True) a := by
  induction r generalizing a with
  | done x => exact .done trivial
  | ask q k ih =>
      refine .ask ?_ fun v _ => ih v
      cases q <;> trivial
  | await s k ih => exact .await fun b _ x => ih x

/-- Recording an end leaves its state. -/
lemma settles_conclude (state : ExportState) (backend : Option BackendKind) (outcome : String)
    (reason : Option String) {post : ExportState → Exit α → Prop}
    {f : Unit → OfficeRoutine H α} (rest : (f ()).Abides Desk.alone post state) :
    ((Run.conclude state backend outcome reason).bind f).Abides Desk.alone post a :=
  .ask trivial fun _ _ => .ask trivial fun _ _ => .ask trivial fun _ _ =>
    .ask trivial fun _ _ => rest

/-- A stage that has no value leaves the desk as its end says. -/
lemma settles_stage (backend : Option BackendKind) (r : OfficeRoutine H α) :
    (Run.stage backend r).Abides Desk.alone
      (fun b x => (∃ v, x = .returned v) ∨ b = x.state) a := by
  refine (abides_alone r).handle fun b x _ => ?_
  cases x with
  | returned v => exact .done (.inl ⟨v, rfl⟩)
  | cancelled => exact settles_conclude _ _ _ _ (.done (.inr rfl))
  | failed e =>
      cases e with
      | expected e => exact settles_conclude _ _ _ _ (.done (.inr rfl))
      | unexpected f => exact settles_conclude _ _ _ _ (.done (.inr rfl))

/-- What follows the value of a stage; a stage without one ends the run. -/
lemma settles_stage_bind {backend : Option BackendKind} {r : OfficeRoutine H α}
    {f : α → OfficeRoutine H β}
    (rest : ∀ b v, (f v).Abides Desk.alone (fun b x => b = x.state) b) :
    ((Run.stage backend r).bind f).Abides Desk.alone (fun b x => b = x.state) a := by
  refine (settles_stage backend r).bind (fun b v _ => rest b v) (fun b e holds => ?_)
    fun b holds => ?_
  · exact holds.resolve_left fun ⟨v, same⟩ => by cases same
  · exact holds.resolve_left fun ⟨v, same⟩ => by cases same

/-- A step that leaves the state alone and cannot fail. -/
def Passes (r : OfficeRoutine H α) : Prop :=
  ∀ a, r.Abides Desk.alone (fun b x => b = a ∧ ∃ v, x = .returned v) a

/-- A question that leaves the state alone passes it on. -/
lemma passes_ask {q : Request (Office H)} (leaves : ∀ a, q.leaves Desk.alone.view a = a) :
    Passes (.ask q fun v => .done (.returned v) : OfficeRoutine H q.Reply) := by
  refine fun a => .ask ?_ fun v _ => .done ⟨leaves a, v, rfl⟩
  cases q <;> trivial

/-- What follows a step that passes the state on starts from the same state. -/
lemma Passes.bind_abides {r : OfficeRoutine H α} (first : Passes r) {f : α → OfficeRoutine H β}
    {post : ExportState → Exit β → Prop} (rest : ∀ v, (f v).Abides Desk.alone post a) :
    (r.bind f).Abides Desk.alone post a := by
  refine (first a).handle fun b x holds => ?_
  obtain ⟨rfl, v, rfl⟩ := holds
  exact rest v

/-- Steps that pass the state on add up. -/
lemma Passes.bind {r : OfficeRoutine H α} (first : Passes r) {f : α → OfficeRoutine H β}
    (rest : ∀ v, Passes (f v)) : Passes (r.bind f) :=
  fun a => first.bind_abides fun v => rest v a

/-- What has ended passes the state on. -/
lemma passes_done (v : α) : Passes (.done (.returned v) : OfficeRoutine H α) :=
  fun _ => .done ⟨rfl, v, rfl⟩

/-- To leave the state alone goes from single questions to sequences of them. -/
lemma closed_passes : Office.Closed fun _ (r : OfficeRoutine H _) => Passes r where
  value := passes_done
  bind first := first.bind
  look := passes_ask (q := .get) fun _ => rfl
  stop t := passes_ask (q := .cancel t) fun _ => rfl

/-- An event leaves the state alone, whatever the listener asks for. -/
lemma passes_emit (t : Tracker) (e : ProgressEvent) :
    Passes (Run.emit t e : OfficeRoutine H Tracker) :=
  closed_passes.emit (passes_ask fun _ => rfl) t

/-- **The state in which a run leaves the desk is the one that its end stands for**, if nobody else
touches it. -/
theorem settles_run (s : Services H) (t : Timeline) :
    (run s t).Abides Desk.alone (fun b x => b = x.state) a :=
  settles_stage_bind fun _ _ => settles_stage_bind fun _ _ => settles_conclude _ _ _ _
    ((passes_emit _ _).bind_abides fun _ => .done rfl)

end Settling

end Montage
