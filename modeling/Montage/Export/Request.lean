import Montage.Export.Run

/-!
# Requests

* `requestExport` — asks for an export and waits for its end.  **A desk that is busy refuses at
  once**, and so does any desk for a timeline that cannot be exported; neither leaves a trace.
* `preload` — prepares the local backend beforehand; a failure only means that it is not prepared.

A run that is cancelled at the desk ends its request with a failure; a caller that is itself
cancelled passes the cancellation on to the run and ends cancelled.
-/

namespace Montage

variable {H : Interface}

/-- The timeline of a request: as it is, or in the words of an editor, which are decoded first
(`Timeline.ofPayload`). -/
inductive ExportInput where
  | timeline (t : Timeline)
  | payload (j : Json)

namespace Request

/-- The timeline of a request, if it can be exported: decoded if need be, and valid
(`Timeline.validate`).  It all happens in the turn of the request, before there is a run. -/
def accepted (freshId : String) (input : ExportInput) : Except Failure Timeline := do
  let t ← match input with
    | .timeline t => pure t
    | .payload j => Timeline.ofPayload freshId j
  t.validate.mapError fun p => .expected (.validation p)
  return t

/-- Waits for the end of a run, and takes it from the desk however it ended.  A run that was
cancelled is a failure that says so, unless the caller was cancelled itself. -/
def awaitRun (t : Timeline) (id : TaskId) : OfficeRoutine H Video :=
  (Routine.join (E := Office H) (.inl t) id).handle fun x =>
    (Desk.setActive none).bind fun _ =>
      match x with
      | .cancelled =>
        (Routine.cancelling (E := Office H)).bind fun asked =>
          if asked then .done .cancelled else Routine.refuse .cancelled
      | x => .done x

end Request

/-- Asks for an export and waits for its end.  The desk is looked at and taken within one turn, so
of two requests one finds it busy; and a caller who is asked to stop passes the request on to the
run (`Routine.join`). -/
def requestExport (s : Services H) (input : ExportInput) : OfficeRoutine H Video := do
  let desk ← Desk.get
  if desk.active.isSome then Routine.refuse .busy
  let t ← Routine.ofExcept (Request.accepted s.freshId input)
  let id ← Routine.start (E := Office H) (.inl t)
  Desk.setActive (some id)
  Request.awaitRun t id

/-- Prepares the local backend beforehand.  A failure that is foreseen is swallowed, since the
export will try again; anything else is the caller's. -/
def preload (s : Services H) : OfficeRoutine H Unit := do
  Desk.summon .localEngine
  match s.preload with
  | none => return
  | some r =>
    (atBase r).handle fun
      | .failed (.expected _) => .done (.returned ())
      | x => .done x

end Montage
