import Montage.Export.Calls
import Montage.Rehearsal.Performance
import Montage.Studio.Backend

/-!
# Rehearsals of the desk

* `OfficeStep` — what is asked of a desk, step by step; `Interjection` — what happens while an
  export is held.
* `OfficeRecord` — what comes of a step, with the state of everything after it.
* `rehearseOffice` — all steps on a host.

Whatever happens while an export is held happens between two turns: **a cancellation takes effect
afterwards**.
-/

namespace Montage

/-! ## The stage -/

/-- A host, and the events that were told. -/
structure Stage where
  host : Host
  events : List ProgressEvent := []

namespace Stage

/-- A reply of the host, and the stage after it. -/
def onHost {α : Type} (stage : Stage) (x : α × Host) : α × Stage :=
  (x.1, { stage with host := x.2 })

/-- What happens at once at a desk.  Events are noted; the listener never asks for the end. -/
def act (t : TaskId) : (a : (Office Studio).Act) → Stage → (Office Studio).Val a × Stage
  | .inl (.event e), stage => (false, { stage with events := stage.events ++ [e] })
  | .inl (.metric m), stage => stage.onHost (Host.act t (.metric m) stage.host)
  | .inr a, stage => stage.onHost (Host.act t a stage.host)

/-- What is waited for at a desk is what is waited for at the host. -/
def wait (t : TaskId) (w : StudioWait) (stage : Stage) : Option w.Ans × Stage :=
  stage.onHost (Host.wait t w stage.host)

/-- The reply to what was held. -/
def release (t : TaskId) (w : StudioWait) (stage : Stage) : w.Ans × Stage :=
  stage.onHost (Host.answer t w stage.host)

/-- Replies to all effects of a desk at the studio; the listener never asks to cancel. -/
def machine : Machine (Office Studio) where
  State := Stage
  act := act
  wait := wait
  release := release

end Stage

/-- How an office is set up. -/
structure OfficeSetup where
  settings : Settings
  freshId : String
  backend : BackendKind → Backend

namespace OfficeSetup

/-- What the runs of an office rely on. -/
def services (s : OfficeSetup) : Services Studio := studioServices s.settings s.freshId s.backend

/-- The tasks and the calls of an office: its desk beside the studio's own routines. -/
def program (s : OfficeSetup) : Program (Office Studio) :=
  deskProgram s.services (studioProgram s.settings Unit)

end OfficeSetup

/-- A desk at the studio. -/
abbrev OfficePerformance (s : OfficeSetup) := System s.program Stage.machine

/-! ## Scripts -/

/-- What happens while an export is held. -/
inductive Interjection where
  | status
  /-- The desk is asked to cancel the export. -/
  | cancel
  /-- Whoever waits for the export is cancelled. -/
  | cancelCaller
  /-- Another export is asked for. -/
  | request
  deriving DecidableEq, Repr

/-- What is asked of a desk in one step of a rehearsal; a step ends when whoever was asked has
answered, or waits for what is held. -/
inductive OfficeStep where
  | preload
  | cancel
  | status
  /-- Releases whatever is held and loads the engine. -/
  | release
  /-- An export, its timeline as it is or made beforehand. -/
  | request (payload : Json) (prebuilt : Bool) (interjections : List Interjection)

/-- The state of a desk and its engine. -/
structure OfficeStatus where
  desk : Desk
  engine : EngineState
  files : Option (List String)

/-- What comes of an interjection. -/
inductive InterjectionReply where
  | status (s : OfficeStatus)
  | cancelled (wasRunning : Bool)
  | requested (x : Exit Video)

/-- What comes of a step. -/
inductive OfficeReply where
  | nothing
  | cancelled (wasRunning : Bool)
  | loaded (x : Exit Unit)
  | requested (x : Exit Video) (events : List ProgressEvent) (during : List InterjectionReply)

/-- What comes of a step, with the state of everything after it and all that the host was asked for
so far. -/
structure OfficeRecord where
  reply : OfficeReply
  status : OfficeStatus
  journal : Journal

/-! ## Performances -/

namespace OfficePerformance

variable {s : OfficeSetup}

/-- A performance before its first step: the desk is idle and the engine is not loaded. -/
def ofHost (h : Host) : OfficePerformance s := { world := { host := h }, store := ({}, {}) }

/-- What can be seen of a desk and its engine from outside. -/
def status (p : OfficePerformance s) : OfficeStatus :=
  { desk := p.store.2, engine := p.store.1, files := workspaceNames p.world.host p.store.1 }

/-- Starts a call at the desk. -/
def ask (p : OfficePerformance s) (c : DeskCall) : TaskId × OfficePerformance s :=
  p.call (Sum.inl c : s.program.Call)

/-- How an export ended for its caller; one that waits forever counts as cancelled. -/
def videoOf (p : OfficePerformance s) (t : TaskId) : Exit Video :=
  match p.tasks[t]? with
  | some ⟨.call (.inl (.request _)), .ended x, _, _⟩ => x
  | _ => .cancelled

/-- How preparing the local backend ended; a call that waits forever counts as cancelled. -/
def preparedOf (p : OfficePerformance s) (t : TaskId) : Exit Unit :=
  match p.tasks[t]? with
  | some ⟨.call (.inl .preload), .ended x, _, _⟩ => x
  | _ => .cancelled

/-- What a call to cancel was told; one that has not ended was told nothing. -/
def cancelledOf (p : OfficePerformance s) (t : TaskId) : Bool :=
  match p.tasks[t]? with
  | some ⟨.call (.inl .cancel), .ended (.returned b), _, _⟩ => b
  | _ => false

/-- How a load of the engine ended; one that waits forever counts as cancelled. -/
def loadedOf (p : OfficePerformance s) (t : TaskId) : Exit Unit :=
  match p.tasks[t]? with
  | some ⟨.call (.inr _), .ended x, _, _⟩ => x
  | _ => .cancelled

/-- Asks something that is answered before anything else happens. -/
def askNow (p : OfficePerformance s) (c : DeskCall) : TaskId × OfficePerformance s :=
  let (t, p) := ask p c
  (t, p.resume t)

/-- What happens while the export of a caller is held. -/
def interject (payload : Json) (caller : TaskId) (p : OfficePerformance s) :
    Interjection → InterjectionReply × OfficePerformance s
  | .status => (.status (status p), p)
  | .cancel =>
    let (t, p) := askNow p .cancel
    (.cancelled (cancelledOf p t), p)
  | .cancelCaller =>
    let (wasRunning, p) := p.cancel caller
    (.cancelled wasRunning, p)
  | .request =>
    let (t, p) := askNow p (.request (.payload payload))
    (.requested (videoOf p t), p)

/-- All that happens while an export is held, in order and without a turn of the export in
between. -/
def interjectAll (payload : Json) (caller : TaskId) (p : OfficePerformance s) :
    List Interjection → List InterjectionReply × OfficePerformance s
  | [] => ([], p)
  | i :: rest =>
    let (reply, p) := interject payload caller p i
    let (replies, p) := interjectAll payload caller p rest
    (reply :: replies, p)

/-- Whether an interjection stops the export. -/
def stops (i : Interjection) : Bool := i = .cancel || i = .cancelCaller

/-- Asks for an export and lets it end, with what happens while it is held.  What is held is
released afterwards, unless the export was stopped. -/
def conduct (p : OfficePerformance s) (payload : Json) (input : ExportInput)
    (interjections : List Interjection) : OfficeReply × OfficePerformance s :=
  let before := p.world.events.length
  let (caller, p) := ask p (.request input)
  let p := p.settle
  let (during, p) :=
    if p.held.isEmpty then ([], p)
    else
      let (replies, p) := interjectAll payload caller p interjections
      let p := if interjections.any stops then p.settle else p.settleAll Performance.releaseLimit
      (replies, p)
  (.requested (videoOf p caller) (p.world.events.drop before) during, p)

/-- One step. -/
def perform (p : OfficePerformance s) : OfficeStep → OfficeReply × OfficePerformance s
  | .preload =>
    let (t, p) := ask p .preload
    let p := p.settleAll Performance.releaseLimit
    (.loaded (preparedOf p t), p)
  | .cancel =>
    let (t, p) := askNow p .cancel
    (.cancelled (cancelledOf p t), p)
  | .status => (.nothing, p)
  | .release =>
    let p := p.settleAll Performance.releaseLimit
    let (t, p) := p.call (Sum.inr Engine.load : s.program.Call)
    let p := p.settleAll Performance.releaseLimit
    (.loaded (loadedOf p t), p)
  | .request payload prebuilt interjections =>
    if prebuilt then
      match Timeline.ofPayload s.freshId payload with
      | .ok t => conduct p payload (.timeline t) interjections
      | .error e => (.requested (.failed e) [] [], p)
    else conduct p payload (.payload payload) interjections

end OfficePerformance

/-- What was asked of a host since an earlier moment. -/
def Journal.since (j before : Journal) : Journal :=
  { commands := j.commands.drop before.commands.length
    requests := j.requests.drop before.requests.length
    metrics := j.metrics.drop before.metrics.length
    kills := j.kills - before.kills }

/-- Steps one after the other, with a record for each. -/
def rehearseOffice {s : OfficeSetup} (p : OfficePerformance s) : List OfficeStep → List OfficeRecord
  | [] => []
  | step :: rest =>
    let before := p.world.host.journal
    let (reply, p) := OfficePerformance.perform p step
    let here : OfficeRecord :=
      { reply, status := OfficePerformance.status p, journal := p.world.host.journal.since before }
    here :: rehearseOffice p rest

end Montage
