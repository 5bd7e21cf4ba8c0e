import Montage.Settings
import Montage.Studio.Tool

/-!
# The engine

One engine serves all exports.  It is loaded once and keeps a workspace of its own, which only one
export may use at a time and which is emptied after each.

* `Engine.load` — makes sure the engine is loaded.  **Callers that come while it is being loaded
  share that load**; a cancelled caller leaves the load alone; a failed load is not kept.
* `Engine.session` — exclusive use of the workspace, emptied at the end however that comes about.
* `Engine.writeFile`, `Engine.readFile`, `Engine.deleteFile`, `Engine.list`, `Engine.purge` — the
  files of the workspace, by their names.
-/

namespace Montage.Engine

/-! ## Loading -/

/-- How the names of workspaces begin; the rest of a name is found by the system. -/
def workspaceBeginning : String := "engine-"

/-- What is known about the engine.  Others may have a turn right after that, so what was read is
good until the next suspension only. -/
def getState : StudioRoutine EngineState := Routine.get (E := Studio)

/-- Changes what is known about the engine, without a suspension in between, so nobody else sees
anything but the record before and the record after. -/
def modifyState (f : EngineState → EngineState) : StudioRoutine Unit :=
  Routine.modify (E := Studio) f

/-- The load that is going on, or a new one.  Finding none and starting one happen in one turn; this
is why two callers never start two loads (`EngineState.Coherent`). -/
def currentLoad (s : EngineState) : StudioRoutine TaskId :=
  match s.load with
  | some t => pure t
  | none => do
    let t ← Routine.start (E := Studio) .loadEngine
    modifyState fun s => { s with phase := .loading, load := some t }
    return t

/-- Makes sure the engine is loaded.  All callers watch the same load, and a caller that is asked to
stop leaves it alone (`Routine.watch`). -/
def load : StudioRoutine Unit := do
  let s ← getState
  if s.phase = .loaded then return
  let t ← currentLoad s
  Routine.watch (E := Studio) .loadEngine t

/-- The problem of a load that failed in a foreseen way: one that `Tool.version` tells, or an error
of the system.  Any other failure is none, and then `loadOnce` does not reset the record. -/
def loadProblem? : Failure → Option EngineProblem
  | .expected (.engineLoad p) => some p
  | .unexpected (.os e) => some (.notStarted (.os e))
  | _ => none

/-- The engine after a load that succeeded: its version and its workspace are known, and no load is
going on. -/
def loaded (version : String) (workspace : Path) (s : EngineState) : EngineState :=
  { s with phase := .loaded, load := none, version := some version, workspace := some workspace }

/-- One load: asks the program for its version and makes a workspace.  A foreseen failure
(`loadProblem?`) is recorded, so that the next caller tries again; any other one leaves the record
as it is, with the load still in it. -/
def loadOnce (settings : Settings) : StudioRoutine Unit := do
  modifyState fun s => { s with attempts := s.attempts + 1 }
  let prepared := do
    let version ← Tool.version settings.ffmpeg
    let workspace ← Studio.makeWorkspace (.ofText settings.workspaceRoot) workspaceBeginning
    return (version, workspace)
  prepared.handle fun
    | .returned (version, workspace) => do
      modifyState (loaded version workspace)
      Studio.record (.engineLoad Metric.succeeded)
    | .failed e =>
      match loadProblem? e with
      | some p => do
        modifyState fun s => { s with phase := .failed, load := none }
        Studio.record (.engineLoad Metric.failed)
        Routine.refuse (.engineLoad p)
      | none => Routine.fail e
    | .cancelled => .done .cancelled

/-! ## Files of the workspace -/

/-- The workspace of a loaded engine; to ask for it before is a failure. -/
def workspace : StudioRoutine Path := do
  match (← getState).workspace with
  | some p => return p
  | none => Routine.refuse (.engineLoad .notLoaded)

/-- Whether a name is the last part of the path it makes.  So is `..`, which is no file of the
workspace all the same. -/
def isFileName (name : String) : Bool := name ≠ "" && (Path.ofText name).name = name

/-- The path of a file in the workspace.  The name is looked at before the workspace, so a bad name
is told also by an engine that is not loaded. -/
def pathOf (name : String) : StudioRoutine Path := do
  if !isFileName name then Routine.broken (.badFileName name)
  return (← workspace).child name

/-- Writes a file of the workspace, whether there was one of that name or not. -/
def writeFile (name : String) (content : ByteArray) : StudioRoutine Unit := do
  Studio.writeFile (← pathOf name) content

/-- Reads a file of the workspace; that there is none is an error of the system. -/
def readFile (name : String) : StudioRoutine ByteArray := do
  Studio.readFile (← pathOf name)

/-- Deletes a file of the workspace, or a directory with everything in it. -/
def deleteFile (name : String) : StudioRoutine Unit := do
  let path ← pathOf name
  if ← Studio.isDirectory path then Studio.removeTree path else Studio.unlink path

/-- The names in the workspace, in order; none before there is a workspace. -/
def list : StudioRoutine (List String) := do
  match (← getState).workspace with
  | some p => Studio.listDirectory p
  | none => return []

/-- Deletes files one by one and counts them.  A file that cannot be deleted stays and is not
counted; a request to stop ends it, and the files that remain are left where they are. -/
def deleteAll (count : Nat) : List String → StudioRoutine Nat
  | [] => pure count
  | name :: rest =>
    (deleteFile name).handle fun
      | .returned () => deleteAll (count + 1) rest
      | .failed (.unexpected (.os _)) => deleteAll count rest
      | .failed e => Routine.fail e
      | .cancelled => .done .cancelled

/-- Empties the workspace and tells how many files were deleted.  That the workspace cannot be
listed is a fault, unlike a file that cannot be deleted (`deleteAll`). -/
def purge : StudioRoutine Nat := do
  deleteAll 0 (← list)

/-- Exclusive use of the workspace, which is emptied at the end, however that came.  The gate is
left only after that (`Routine.within`), so nobody comes in while files are deleted. -/
def session {N α : Type} (r : NotingRoutine N α) : NotingRoutine N α :=
  Routine.within (E := Studio.noting N) .engine do
    r.ensuring (Routine.lift do let _ ← purge)

/-- Empties the workspace once nobody uses it.  An engine that was never loaded has none to be
emptied. -/
def purgeExclusive : StudioRoutine Nat := do
  if (← getState).phase ≠ .loaded then return 0
  Routine.within (E := Studio) .engine purge

/-! ## Programs in the workspace -/

/-- How long a video in the workspace is, if the prober can tell. -/
def duration? (settings : Settings) (name : String) : StudioRoutine (Option Binary64) := do
  Tool.duration? settings.ffprobe (← pathOf name)

/-- Runs a rendering with the workspace as its directory, so that its arguments are plain names, and
notes its progress. -/
def render (settings : Settings) (arguments : List String) (duration : Option Binary64) :
    NotingRoutine Binary64 Unit := do
  let directory ← Routine.lift workspace
  Tool.run settings.ffmpeg arguments (some directory) duration

end Montage.Engine
