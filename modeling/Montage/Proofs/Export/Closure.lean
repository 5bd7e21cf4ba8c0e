import Montage.Export.Run
import Montage.Proofs.Routine.Regime

/-!
# What goes from the parts of a run to the whole

A run is put together from a few questions at the desk and from what the classifier and the backends
do.  Much that is true of a run is true of each part and is passed on by every way of putting parts
together: that it joins nobody, that it tells its listener nothing, that it leaves something alone.
The way through the run is the same each time, so it is gone here once.

* `Office.Closed` — a property that goes from single questions to sequences of them.
* `Office.ClosedAtBase` — one that goes to whatever knows nothing of the desk, and to its ends;
  `ClosedAtBase.atBase`, `ClosedAtBase.follow` — to all of it.
* **`ClosedForRuns.run`** — one that goes to whole runs.
-/

namespace Montage

variable {H : Interface} {α β : Type} {P : (α : Type) → OfficeRoutine H α → Prop}

/-! ## Sequences of questions -/

/-- A property that goes from single questions at the desk to sequences of them.  Ends other than
values are not spoken of, so that it may also say that a routine cannot fail. -/
structure Office.Closed (P : (α : Type) → OfficeRoutine H α → Prop) : Prop where
  /-- To have a value and do nothing is no matter. -/
  value {α : Type} (a : α) : P α (.done (.returned a))
  /-- What is done one after the other has the property if each part has it. -/
  bind {α β : Type} {r : OfficeRoutine H α} {f : α → OfficeRoutine H β} (first : P α r)
    (rest : ∀ a, P β (f a)) : P β (r.bind f)
  /-- To look at the record is no matter. -/
  look : P _ (Routine.get (E := Office H))
  /-- To ask a task to stop is no matter. -/
  stop (t : TaskId) : P Bool (Routine.cancelTask (E := Office H) t)

namespace Office.Closed

lemma get (closed : Office.Closed P) : P Desk Desk.get :=
  closed.bind closed.look fun s => closed.value s.2

/-- A call of `cancel` looks at the desk, and asks the active run to stop if there is one. -/
lemma cancel (closed : Office.Closed P) : P Bool Desk.cancel := by
  refine closed.bind closed.get fun d => ?_
  cases d.active with
  | none => exact closed.value _
  | some t => exact closed.stop t

/-- To send an event is to tell the listener; whatever the listener asks for is no matter. -/
lemma emit (closed : Office.Closed P) {e : ProgressEvent} (tells : P Bool (Desk.tell e))
    (t : Tracker) : P Tracker (Run.emit t e) := by
  refine closed.bind tells fun asks => ?_
  cases asks with
  | false => exact closed.value _
  | true => exact closed.bind closed.cancel fun _ => closed.value _

/-- To record an end is to set a state and to record twice. -/
lemma conclude (closed : Office.Closed P) {state : ExportState}
    (sets : P Unit (Desk.setState state)) (records : ∀ m, P Unit (Desk.record m))
    (backend : Option BackendKind) (outcome : String) (reason : Option String) :
    P Unit (Run.conclude state backend outcome reason) :=
  closed.bind sets fun _ => closed.bind (records _) fun _ => records _

end Office.Closed

/-! ## Routines that know nothing of the desk -/

/-- A question at the desk that a routine may ask which knows nothing of it; to set the record is
not among these, since such a routine has to look at it first. -/
def Request.Foreign : Request (Office H) → Prop
  | .act (.inl _) => False
  | .set _ => False
  | .start (.inl _) => False
  | _ => True

/-- A property that goes from single questions, and from such suspensions, to whatever knows nothing
of the desk; how a routine ends is no matter. -/
structure Office.ClosedAtBase (may : Suspension H → Prop)
    (P : (α : Type) → OfficeRoutine H α → Prop) : Prop where
  ends {α : Type} (x : Exit α) : P α (.done x)
  handle {α β : Type} {r : OfficeRoutine H α} {f : Exit α → OfficeRoutine H β} (first : P α r)
    (rest : ∀ x, P β (f x)) : P β (r.handle f)
  ask (q : Request (Office H)) (foreign : q.Foreign) :
    P q.Reply (.ask q fun v => .done (.returned v))
  /-- To change the rest of the record leaves the desk as it was. -/
  set (s : H.Store) : P Unit (Routine.modify (E := Office H) fun old => (s, old.2))
  await (s : Suspension H) (allowed : may s) : P s.Answer ((Office.base H).onSuspension s)

namespace Office.ClosedAtBase

variable {may : Suspension H → Prop}

lemma bind (closed : Office.ClosedAtBase may P) {r : OfficeRoutine H α}
    {f : α → OfficeRoutine H β} (first : P α r) (rest : ∀ a, P β (f a)) : P β (r.bind f) := by
  refine closed.handle first fun x => ?_
  cases x with
  | returned a => exact rest a
  | failed e => exact closed.ends _
  | cancelled => exact closed.ends _

lemma closed (closed : Office.ClosedAtBase may P) : Office.Closed P where
  value _ := closed.ends _
  bind := closed.bind
  look := closed.ask .get trivial
  stop t := closed.ask (.cancel t) trivial

lemma question (closed : Office.ClosedAtBase may P) (q : Request H) :
    P q.Reply ((Office.base H).onRequest q) := by
  cases q with
  | act a => exact closed.ask (.act (.inr a)) trivial
  | get => exact closed.bind (closed.ask .get trivial) fun _ => closed.ends _
  | set s => exact closed.set s
  | leave g => exact closed.ask (.leave g) trivial
  | start j => exact closed.ask (.start (.inr j)) trivial
  | cancel t => exact closed.ask (.cancel t) trivial
  | cancelling => exact closed.ask .cancelling trivial

/-- Whatever knows nothing of the desk has the property, as far as its suspensions are allowed. -/
lemma atBase (closed : Office.ClosedAtBase may P) {r : Routine H α}
    (within : r.Within (fun _ => True) may) : P α (Montage.atBase r) := by
  induction r with
  | done x => exact closed.ends x
  | ask q k ih =>
      obtain ⟨-, rest⟩ := Routine.obeys_ask_iff.mp (within () trivial)
      exact closed.bind (closed.question q) fun v => ih v fun _ _ => rest v () trivial
  | await s k ih =>
      obtain ⟨allowed, rest⟩ := Routine.obeys_await_iff.mp (within () trivial)
      exact closed.handle (closed.await s allowed) fun x => ih x fun _ _ => rest x () trivial

/-- Cleaning up has the property if what the backend does to clean up has it. -/
lemma cleanUp (closed : Office.ClosedAtBase may P) {s : Services H} {backend : BackendKind}
    (cleans : (s.cleanup backend).Within (fun _ => True) may) : P Unit (Run.cleanUp s backend) := by
  refine closed.handle (closed.atBase cleans) fun x => ?_
  cases x with
  | returned u => exact closed.ends _
  | failed e => exact closed.ends _
  | cancelled => exact closed.ends _

end Office.ClosedAtBase

/-! ## Listening -/

namespace Run

lemma follow_question (t : Tracker) (q : Request H)
    (k : q.Reply → Routine (H.noting ProgressUpdate) α) :
    follow t (((Routine.Interpretation.lift ProgressUpdate H).onRequest q).bind k)
      = ((Office.base H).onRequest q).bind fun v => follow t (k v) := by
  cases q <;> rfl

lemma follow_suspension (t : Tracker) (s : Suspension H)
    (k : Exit s.Answer → Routine (H.noting ProgressUpdate) α) :
    follow t (((Routine.Interpretation.lift ProgressUpdate H).onSuspension s).handle k)
      = ((Office.base H).onSuspension s).handle fun x => follow t (k x) := by
  cases s <;> rfl

end Run

/-! ## Whole runs -/

/-- A property that also goes to whole runs: what a run itself does at the desk has it. -/
structure Office.ClosedForRuns (may : Suspension H → Prop)
    (P : (α : Type) → OfficeRoutine H α → Prop) : Prop extends Office.ClosedAtBase may P where
  tell (e : ProgressEvent) : P Bool (Desk.tell e)
  record (m : Metric) : P Unit (Desk.record m)
  setState (state : ExportState) : P Unit (Desk.setState state)
  summon (backend : BackendKind) : P Unit (Desk.summon backend)

namespace Office.ClosedForRuns

variable {may : Suspension H → Prop}

lemma emit (closed : Office.ClosedForRuns may P) (t : Tracker) (e : ProgressEvent) :
    P Tracker (Run.emit t e) := closed.closed.emit (closed.tell e) t

lemma conclude (closed : Office.ClosedForRuns may P) (state : ExportState)
    (backend : Option BackendKind) (outcome : String) (reason : Option String) :
    P Unit (Run.conclude state backend outcome reason) :=
  closed.closed.conclude (closed.setState state) closed.record backend outcome reason

/-- What is listened to has the property, as far as its suspensions are allowed. -/
lemma follow (closed : Office.ClosedForRuns may P) {t : Tracker}
    {r : Routine (H.noting ProgressUpdate) α}
    (within : r.Maintains ((Regime.only (fun _ => True) may).noting ProgressUpdate) fun _ => True) :
    P (α × Tracker) (Run.follow t r) := by
  induction r using Routine.noting_induction generalizing t with
  | done x => exact closed.ends _
  | note u k ih =>
      obtain ⟨-, rest⟩ := Routine.obeys_ask_iff.mp (within () trivial)
      exact closed.bind (closed.emit t _) fun t => ih () fun _ _ => rest () () rfl
  | question q k ih =>
      rw [Run.follow_question]
      exact closed.bind (closed.question q) fun v => ih v (Routine.within_question within v)
  | suspension s k ih =>
      obtain ⟨allowed, rest⟩ := Routine.within_suspension within
      rw [Run.follow_suspension]
      exact closed.handle (closed.await s allowed) fun x => ih x (rest x)

/-- A stage has the property if what is done in it has it, whatever its end. -/
lemma stage (closed : Office.ClosedForRuns may P) {r : OfficeRoutine H α} (has : P α r)
    (backend : Option BackendKind) : P α (Run.stage backend r) := by
  have concludes : ∀ outcome reason (x : Exit α),
      P α ((Run.conclude .failed backend outcome reason).bind fun _ => .done x) :=
    fun outcome reason x => closed.bind (closed.conclude _ _ _ _) fun _ => closed.ends x
  refine closed.handle has fun x => ?_
  cases x with
  | returned a => exact closed.ends _
  | cancelled => exact concludes _ _ _
  | failed e =>
      cases e with
      | expected e => exact concludes _ _ _
      | unexpected f => exact concludes _ _ _

/-- Compiling, executing and cleaning up have the property if what the backend does has it. -/
lemma processed (closed : Office.ClosedForRuns may P) {s : Services H} {t : Timeline}
    {p : Payloads} {backend : BackendKind}
    (executes : ∀ g, (s.execute backend g t p).Maintains
      ((Regime.only (fun _ => True) may).noting ProgressUpdate) fun _ => True)
    (cleans : (s.cleanup backend).Within (fun _ => True) may) (tracker : Tracker) :
    P (ByteArray × Tracker) (Run.processed s t p backend tracker) := by
  have tidies : ∀ x, P (ByteArray × Tracker)
      ((do Desk.setState .cleanup; Run.cleanUp s backend : OfficeRoutine H Unit).bind
        fun _ => .done x) := fun x =>
    closed.bind (closed.bind (closed.setState .cleanup) fun _ => closed.cleanUp cleans) fun _ =>
      closed.ends x
  refine closed.bind (closed.record _) fun _ => closed.bind (closed.ends _) fun m => ?_
  refine closed.bind (closed.emit tracker _) fun tracker => ?_
  refine closed.bind (closed.setState .compiling) fun _ => closed.bind (closed.ends _) fun g => ?_
  refine closed.bind (closed.setState .executing) fun _ => ?_
  exact closed.bind (closed.summon backend) fun _ => closed.handle (closed.follow (executes g)) tidies

/-- **A run has the property**, if what it relies on waits for nothing but what is allowed. -/
theorem run (closed : Office.ClosedForRuns may P) {s : Services H} {t : Timeline}
    (classifies : (s.classify t).Maintains
      ((Regime.only (fun _ => True) may).noting ProgressUpdate) fun _ => True)
    (executes : ∀ kind g p, (s.execute kind g t p).Maintains
      ((Regime.only (fun _ => True) may).noting ProgressUpdate) fun _ => True)
    (cleans : ∀ kind, (s.cleanup kind).Within (fun _ => True) may) :
    P Video (Montage.run s t) := by
  have classified : P (Payloads × Tracker) (Run.classified s t) :=
    closed.bind (closed.setState .classifying) fun _ => closed.bind (closed.emit _ _) fun _ =>
      closed.follow classifies
  refine closed.bind (closed.stage classified none) fun a => ?_
  refine closed.bind (closed.stage (closed.processed (fun g => executes _ g _) (cleans _) _) _)
    fun _ => ?_
  exact closed.bind (closed.conclude _ _ _ _) fun _ => closed.bind (closed.emit _ _) fun _ =>
    closed.ends _

end Office.ClosedForRuns

end Montage
