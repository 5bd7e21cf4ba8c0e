import Montage.Progress.Tracker
import Montage.Metrics
import Montage.Routine.Notes
import Montage.Timeline.Basic

/-!
# The export desk

One desk takes requests for exports and works on one at a time.  Where the files come from and how a
backend renders is not its business: the desk works over **any** interface.

* `ExportState` — what a desk is doing, or how its last export ended.
* `Desk` — the state of a desk.
* `Office` — an interface with a desk besides: its own effects, its own part of the shared record,
  and one more kind of task, the run of an export.
* `atBase` — a routine that knows nothing of the desk.
-/

namespace Montage

/-! ## The state of a desk -/

/-- What a desk is doing, or how its last export ended.  Between the first and the last come the
stages of `run`, in this order. -/
inductive ExportState where
  | idle
  | classifying
  | compiling
  | executing
  | cleanup
  | succeeded
  | failed
  deriving DecidableEq, Repr

/-- The name of a state as the desk tells it. -/
def ExportState.name : ExportState → String
  | idle => "idle"
  | classifying => "classifying"
  | compiling => "compiling"
  | executing => "executing"
  | cleanup => "cleanup"
  | succeeded => "succeeded"
  | failed => "failed"

/-- The state of a desk.  It is part of the shared record, so the run that is active and the calls
that come meanwhile see the same one. -/
structure Desk where
  state : ExportState := .idle
  /-- The run of the export that was accepted and has not ended yet. -/
  active : Option TaskId := none
  /-- The backends that were needed so far. -/
  backends : List BackendKind := []
  deriving DecidableEq

/-- The result of an export. -/
structure Video where
  content : ByteArray
  backend : BackendKind
  /-- The summed size of the files that went into it. -/
  totalBytes : Nat
  deriving DecidableEq

/-- The size of a video in mebibytes. -/
def Video.mebibytes (v : Video) : Binary64 := Montage.mebibytes v.content.size

/-! ## The interface -/

/-- What a desk does to its surroundings. -/
inductive DeskAct where
  /-- Tells a listener; the reply says whether the listener asked to cancel the export. -/
  | event (e : ProgressEvent)
  | metric (m : Metric)

/-- What these come to. -/
def DeskAct.Val : DeskAct → Type
  | event _ => Bool
  | metric _ => Unit

/-- An interface with a desk besides: its effects are those of the desk or of the surroundings, its
record is a pair, and its jobs are runs of timelines or jobs of the surroundings. -/
abbrev Office (H : Interface) : Interface where
  Act := DeskAct ⊕ H.Act
  Val := Sum.elim DeskAct.Val H.Val
  Wait := H.Wait
  Ans := H.Ans
  Gate := H.Gate
  Store := H.Store × Desk
  Job := Timeline ⊕ H.Job
  Out := Sum.elim (fun _ => Video) H.Out

/-- A routine at the desk. -/
abbrev OfficeRoutine (H : Interface) (α : Type) := Routine (Office H) α

variable {H : Interface} {α : Type}

/-- The questions that have nothing to do with the desk, as they are put at the desk.  To set the
record of the surroundings takes a look at the whole first, so that the desk is kept. -/
def Office.base (H : Interface) : Routine.Interpretation H (Office H) where
  onRequest
    | .act a => Routine.act (E := Office H) (.inr a)
    | .get => (Routine.get (E := Office H)).bind fun s => .done (.returned s.1)
    | .set s => Routine.modify (E := Office H) fun old => (s, old.2)
    | .leave g => .ask (E := Office H) (.leave g) fun u => .done (.returned u)
    | .start j => Routine.start (E := Office H) (.inr j)
    | .cancel t => Routine.cancelTask (E := Office H) t
    | .cancelling => Routine.cancelling (E := Office H)
  onSuspension
    | .wait w => Routine.wait (E := Office H) w
    | .enter g => .await (E := Office H) (.enter g) .done
    | .join j t => Routine.join (E := Office H) (.inr j) t
    | .watch j t => Routine.watch (E := Office H) (.inr j) t

/-- A routine that knows nothing of the desk, at the desk.  It may neither see nor change what the
desk keeps, which is what makes `Desk.keeping` hold of it. -/
def atBase (r : Routine H α) : OfficeRoutine H α := r.interpret (Office.base H)

/-! ## What a desk does -/

namespace Desk

/-- The state of the desk. -/
def get : OfficeRoutine H Desk :=
  (Routine.get (E := Office H)).bind fun s => .done (.returned s.2)

/-- Changes the desk and nothing else of the record. -/
def modify (f : Desk → Desk) : OfficeRoutine H Unit :=
  Routine.modify (E := Office H) fun s => (s.1, f s.2)

/-- Sets the state of the desk.  Only runs do this; requests and calls leave it alone
(`keeps_routine`). -/
def setState (state : ExportState) : OfficeRoutine H Unit := modify fun d => { d with state }

/-- Sets the run that is active.  Only requests do this: when their run has started, and when it has
ended; runs leave it alone (`keeps_run`). -/
def setActive (active : Option TaskId) : OfficeRoutine H Unit := modify fun d => { d with active }

/-- From now on this backend is there.  It is made when it is first needed and kept after that. -/
def summon (backend : BackendKind) : OfficeRoutine H Unit :=
  modify fun d =>
    { d with
      backends := if d.backends.contains backend then d.backends else d.backends ++ [backend] }

/-- Adds a record to the metrics. -/
def record (m : Metric) : OfficeRoutine H Unit := Routine.act (E := Office H) (.inl (.metric m))

/-- Tells the listener of an event; the reply says whether the listener asks to cancel the export,
which it may do by calling `cancel` before it returns. -/
def tell (e : ProgressEvent) : OfficeRoutine H Bool :=
  Routine.act (E := Office H) (.inl (.event e))

/-- Asks the run of the export to stop, if there is one; tells whether it had not ended yet.  The
run hears of it at its next suspension, or at its end if it comes to none. -/
def cancel : OfficeRoutine H Bool :=
  get.bind fun d =>
    match d.active with
    | some t => Routine.cancelTask (E := Office H) t
    | none => .done (.returned false)

end Desk

end Montage
