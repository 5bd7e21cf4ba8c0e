import Montage.Rehearsal.Performance
import Montage.Worker.Rendering

/-!
# Rehearsals of the worker

* `rehearseForm` — one form on a host, from its arrival to the answer.
* `leftInWorkerRoot` — what is left behind afterwards.
-/

namespace Montage

/-- Works on a form. -/
def rehearseForm (settings : Settings) (freshId : String) (h : Host) (f : Form) :
    Exit WorkerReply × Host :=
  let p : Performance settings (List Binary64 × Exit WorkerReply) := .ofHost h
  let (x, p) := Performance.runOne p (answerForm settings freshId f).gather
  match x with
  | .returned (_, x) => (x, p.world)
  | .failed e => (.failed e, p.world)
  | .cancelled => (.cancelled, p.world)

/-- The number of entries in the directory of the worker, if there is one. -/
def leftInWorkerRoot (settings : Settings) (h : Host) : Except OsError (Option Nat) :=
  let root := Path.ofText settings.workerRoot
  match h.disk.list h.here root with
  | .ok names => .ok (some names.length)
  | .error .notFound => .ok none
  | .error p => .error (p.about root)

end Montage
