import Montage.Export.Desk
import Montage.Graph.Compile

/-!
# Runs

A run takes an export through its stages: **classifying, compiling, executing, cleaning up**, and
then success or failure.

* `Services` — what a run relies on.
* `follow` — listens to the notes of a routine and merges them into the stream of events.
* `run` — the whole run.  Whatever ends it, its end is recorded once; a fault that nobody foresaw
  becomes a failure of the execution; **cleaning up follows every execution** and cannot change its
  end, a cancellation apart.
-/

namespace Montage

/-- What runs rely on: how files are classified and how each backend works.  These are parameters of
the desk, so that what holds of a run holds whatever they do; the studio's own are
`studioServices`. -/
structure Services (H : Interface) where
  /-- Up to so many bytes an export runs on the local engine. -/
  threshold : Int
  /-- The id of an entity that comes without one. -/
  freshId : String
  classify : Timeline → Routine (H.noting ProgressUpdate) Payloads
  execute : BackendKind → Graph → Timeline → Payloads →
    Routine (H.noting ProgressUpdate) ByteArray
  cleanup : BackendKind → Routine H Unit
  /-- How the local backend is prepared, if it needs to be. -/
  preload : Option (Routine H Unit)

namespace Run

variable {H : Interface} {α : Type}

/-! ## Progress -/

/-- Sends an event and goes on from there.  The listener may ask to cancel, and then the run is
asked to stop while it is in the middle of its own turn. -/
def emit (t : Tracker) (e : ProgressEvent) : OfficeRoutine H Tracker :=
  (Desk.tell e).bind fun asks =>
    if asks then Desk.cancel.bind fun _ => .done (.returned (t.advance e))
    else .done (.returned (t.advance e))

/-- Reports a phase and how far it is.  The tracker makes an event of it (`Tracker.report`), so that
what the listener is told never goes back. -/
def report (t : Tracker) (phase : Phase) (progress : Binary64) (message : String) :
    OfficeRoutine H Tracker :=
  emit t (t.report ⟨phase, progress, message⟩)

/-- Listens to the notes of a routine and tells each of them as an event; answers with its value and
the tracker after it.  Everything else that the routine asks for is asked at the desk as it is
(`Office.base`). -/
def follow (t : Tracker) :
    Routine (H.noting ProgressUpdate) α → OfficeRoutine H (α × Tracker)
  | .done x => .done (x.map fun a => (a, t))
  | .ask (.act (.inl u)) k => (emit t (t.report u)).bind fun t => follow t (k ())
  | .ask (.act (.inr a)) k => ((Office.base H).onRequest (.act a)).bind fun v => follow t (k v)
  | .ask .get k => ((Office.base H).onRequest .get).bind fun v => follow t (k v)
  | .ask (.set s) k => ((Office.base H).onRequest (.set s)).bind fun v => follow t (k v)
  | .ask (.leave g) k => ((Office.base H).onRequest (.leave g)).bind fun v => follow t (k v)
  | .ask (.start j) k => ((Office.base H).onRequest (.start j)).bind fun v => follow t (k v)
  | .ask (.cancel u) k => ((Office.base H).onRequest (.cancel u)).bind fun v => follow t (k v)
  | .ask .cancelling k => ((Office.base H).onRequest .cancelling).bind fun v => follow t (k v)
  | .await (.wait w) k => ((Office.base H).onSuspension (.wait w)).handle fun x => follow t (k x)
  | .await (.enter g) k => ((Office.base H).onSuspension (.enter g)).handle fun x => follow t (k x)
  | .await (.join j u) k =>
    ((Office.base H).onSuspension (.join j u)).handle fun x => follow t (k x)
  | .await (.watch j u) k =>
    ((Office.base H).onSuspension (.watch j u)).handle fun x => follow t (k x)

/-! ## Ends -/

/-- Records the end of a run: the state of the desk, the outcome and the time it took, in one
turn. -/
def conclude (state : ExportState) (backend : Option BackendKind) (outcome : String)
    (reason : Option String) : OfficeRoutine H Unit := do
  Desk.setState state
  Desk.record (.exportEnd (backend.map BackendKind.name) outcome reason)
  Desk.record (.exportDuration (backend.map BackendKind.name))

/-- The reason that is recorded for a failure that nobody foresaw; the others have the names of
their kinds. -/
def unexpectedReason : String := "unexpected"

/-- A stage of a run: if it does not end well, the run ends here and its end is recorded.  A failure
that nobody foresaw becomes one of the execution, so a caller hears of export failures only. -/
def stage (backend : Option BackendKind) (r : OfficeRoutine H α) : OfficeRoutine H α :=
  r.handle fun
    | .returned a => .done (.returned a)
    | .cancelled => do
      conclude .failed backend Metric.cancelled none
      .done .cancelled
    | .failed (.expected e) => do
      conclude .failed backend Metric.failed (some e.kind.name)
      Routine.refuse e
    | .failed (.unexpected f) => do
      conclude .failed backend Metric.failed (some unexpectedReason)
      Routine.refuse (.execution (.unforeseen f))

/-! ## Stages -/

/-- The first stage of a run: reads the files and listens to how that goes. -/
def classified (s : Services H) (t : Timeline) : OfficeRoutine H (Payloads × Tracker) := do
  Desk.setState .classifying
  let tracker ← report {} .classifying 0 "Checking file size..."
  follow tracker (s.classify t)

/-- What is said about the choice of the backend (`chooseBackend`).  A threshold beyond all numbers
cannot be put in words. -/
def choiceMessage (backend : BackendKind) (payloads : Payloads) (threshold : Int) :
    Except Fault String :=
  match backend with
  | .localEngine => .ok s!"Processing locally ({payloads.sizeText}MB)..."
  | .remoteWorker => do
    let limit ← Binary64.ofRatio? threshold mebibyte
    let excess := s!"File size ({payloads.sizeText}MB) exceeds {limit.compactText}MB."
    return excess ++ " Using cloud export..."

/-- Cleans up after an execution; only a cancellation is felt.  A failure of the cleanup is dropped,
so the end of the execution stands. -/
def cleanUp (s : Services H) (backend : BackendKind) : OfficeRoutine H Unit :=
  (atBase (s.cleanup backend)).handle fun
    | .cancelled => .done .cancelled
    | _ => .done (.returned ())

/-- The second stage of a run: compiles the timeline and executes the graph.  Once the execution has
been called, the cleanup follows it however it ended (`Routine.ensuring`). -/
def processed (s : Services H) (t : Timeline) (payloads : Payloads) (backend : BackendKind)
    (tracker : Tracker) : OfficeRoutine H (ByteArray × Tracker) := do
  Desk.record (.payloadSize payloads.totalBytes backend.name)
  let message ← Routine.ofFault (choiceMessage backend payloads s.threshold)
  let tracker ← report tracker .classifying 100 message
  Desk.setState .compiling
  let g ← Routine.ofExcept t.compile
  Desk.setState .executing
  Desk.summon backend
  (follow tracker (s.execute backend g t payloads)).ensuring do
    Desk.setState .cleanup
    cleanUp s backend

end Run

/-- A whole run, from the first state to the last.  The last event is told after the end has been
recorded, so a listener that cancels then finds it recorded as a success. -/
def run {H : Interface} (s : Services H) (t : Timeline) : OfficeRoutine H Video := do
  let (payloads, tracker) ← Run.stage none (Run.classified s t)
  let backend := chooseBackend payloads.totalBytes s.threshold
  let (content, tracker) ←
    Run.stage (some backend) (Run.processed s t payloads backend (tracker.bind backend))
  Run.conclude .succeeded (some backend) Metric.succeeded none
  let _ ← Run.emit tracker (tracker.complete Tracker.completeMessage)
  return { content, backend, totalBytes := payloads.totalBytes }

end Montage
