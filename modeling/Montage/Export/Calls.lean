import Montage.Export.Request
import Montage.Routine.System

/-!
# Calls at the desk

* `DeskCall` — what can be asked of a desk: an export, the preparation of the local backend, the end
  of the export that is going on.
* `deskProgram` — a desk over a program of its own surroundings: **runs are tasks of their own**,
  and so are the tasks of the surroundings.
-/

namespace Montage

variable {H : Interface}

/-- What a desk can be asked for from outside: an export, to get ready for one, or to end the one
that goes on.  Each is a task of its own, and any number of them may come at any time. -/
inductive DeskCall where
  | request (input : ExportInput)
  | preload
  | cancel

namespace DeskCall

/-- What each of these comes to. -/
def Result : DeskCall → Type
  | request _ => Video
  | preload => Unit
  | cancel => Bool

/-- What a desk does when it is asked: `requestExport`, `preload` or `Desk.cancel`. -/
def routine (s : Services H) : (c : DeskCall) → OfficeRoutine H c.Result
  | request input => requestExport s input
  | preload => Montage.preload s
  | cancel => Desk.cancel

end DeskCall

/-- A desk over a program of its own surroundings.  Its jobs are runs, and whatever jobs the
surroundings have; its calls are those of the desk, and whatever calls the surroundings have. -/
def deskProgram (s : Services H) (base : Program H) : Program (Office H) where
  job
    | .inl t => run s t
    | .inr j => atBase (base.job j)
  Call := DeskCall ⊕ base.Call
  Result := Sum.elim DeskCall.Result base.Result
  call
    | .inl c => c.routine s
    | .inr c => atBase (base.call c)
  capacity := base.capacity

end Montage
