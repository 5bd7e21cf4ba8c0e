import Montage.Rehearsal.Performance

/-!
# Rehearsals of the engine

* `EngineStep` — what is asked of the engine, step by step.
* `EngineReply` — what comes of it.
* `rehearseEngine` — all steps on a host, with the state of the engine after each.
-/

namespace Montage

/-- What is asked of an engine in one step of a rehearsal. -/
inductive EngineStep where
  | load
  /-- So many callers at once. -/
  | loadMany (callers : Nat)
  | write (name : String) (content : ByteArray)
  | read (name : String)
  | delete (name : String)
  | list
  | purge
  | purgeExclusive
  | workspace
  | probe (name : String)
  | render (arguments : List String) (duration : Option Binary64)
  /-- A directory with a file in it. -/
  | makeDirectory (name : String)
  /-- Exclusive use of the workspace, perhaps broken off at the end. -/
  | session (steps : List EngineStep) (breaksOff : Bool)
  deriving Inhabited

/-- What comes of a step. -/
inductive EngineReply where
  | nothing
  | text (s : String)
  | content (bytes : ByteArray)
  | names (xs : List String)
  | count (n : Nat)
  | duration (d : Option Binary64)
  | percentages (xs : List Binary64)
  | outcomes (xs : List (Exit EngineReply))

namespace EngineStep

/-- What breaks off a session. -/
def interruption : Failure := .unexpected (.stated "in session")

/-- A rendering with all its progress. -/
def renderAll (settings : Settings) (arguments : List String) (duration : Option Binary64) :
    StudioRoutine EngineReply := do
  let (percentages, x) ← (Engine.render settings arguments duration).gather
  Routine.stopWith x fun _ => pure (.percentages percentages)

/-- Puts a directory with a file in it into the workspace, as a program might. -/
def makeFilledDirectory (name : String) : StudioRoutine EngineReply := do
  let path := (← Engine.workspace).child name
  Studio.makeDirectory path
  Studio.writeFile (path.child Host.innerName) ByteArray.empty
  return .nothing

/-- Something that is done for its effect. -/
def silently (r : StudioRoutine Unit) : StudioRoutine EngineReply := do
  r
  return .nothing

/-- Exclusive use of the workspace for something that makes no notes. -/
def inSession {α : Type} (r : StudioRoutine α) : StudioRoutine α := do
  let (_, x) ← (Engine.session (N := Empty) (Routine.lift r)).gather
  Routine.stopWith x pure

mutual

/-- What is done in a step. -/
def routine (settings : Settings) : EngineStep → StudioRoutine EngineReply
  | load => silently Engine.load
  | loadMany callers => do
    return .outcomes (← (List.replicate callers Engine.load).mapM fun r => (silently r).outcome)
  | write name content => silently (Engine.writeFile name content)
  | read name => EngineReply.content <$> Engine.readFile name
  | delete name => silently (Engine.deleteFile name)
  | list => EngineReply.names <$> Engine.list
  | purge => EngineReply.count <$> Engine.purge
  | purgeExclusive => EngineReply.count <$> Engine.purgeExclusive
  | workspace => (fun path => EngineReply.text path.name) <$> Engine.workspace
  | probe name => EngineReply.duration <$> Engine.duration? settings name
  | render arguments duration => renderAll settings arguments duration
  | makeDirectory name => makeFilledDirectory name
  | session steps breaksOff => inSession do
    let xs ← outcomesOf settings steps
    if breaksOff then Routine.fail interruption else return .outcomes xs

/-- The outcomes of steps, one after the other. -/
def outcomesOf (settings : Settings) : List EngineStep → StudioRoutine (List (Exit EngineReply))
  | [] => pure []
  | step :: rest => do
    let x ← (routine settings step).outcome
    let xs ← outcomesOf settings rest
    return x :: xs

end

end EngineStep

/-- The engine after a step. -/
structure EngineRecord where
  result : Exit EngineReply
  state : EngineState
  files : Option (List String)
  metrics : List Metric

/-- One step. -/
def EngineStep.perform {settings : Settings} (p : Performance settings EngineReply) :
    EngineStep → Exit EngineReply × Performance settings EngineReply
  | .loadMany callers =>
    let (xs, p) := Performance.runAll p (List.replicate callers (EngineStep.load.routine settings))
    (.returned (.outcomes xs), p)
  | step => Performance.runOne p (step.routine settings)

/-- Steps one after the other; answers with a record for each, and the performance at the end. -/
def rehearseEngine {settings : Settings} (p : Performance settings EngineReply) :
    List EngineStep → List EngineRecord × Performance settings EngineReply
  | [] => ([], p)
  | step :: rest =>
    let before := p.world.journal.metrics.length
    let (result, p) := step.perform p
    let here : EngineRecord :=
      { result, state := p.store, files := workspaceNames p.world p.store
        metrics := p.world.journal.metrics.drop before }
    let (records, p) := rehearseEngine p rest
    (here :: records, p)

end Montage
