import Montage.Progress.Phase

/-!
# Merged progress

The phases of an export, and the backends it runs on, report to one tracker, which keeps a single
stream of events: **it never goes back**, whatever is reported.

* `ProgressUpdate` — a report from within a phase.
* `ProgressEvent` — an event of the merged stream.
* `Tracker` — the last place and the backend; `report` and `complete` give the next event.

Whoever listens to the events has no influence on the tracker.
-/

namespace Montage

/-- A report: 0 to 100 within a phase, as a stage of an export tells it. -/
structure ProgressUpdate where
  phase : Phase
  progress : Binary64
  message : String
  deriving DecidableEq

/-- An event: 0 to 100 over the whole export, as the listener is told it. -/
structure ProgressEvent where
  progress : Binary64
  message : String
  phase : Phase
  backend : Option BackendKind
  deriving DecidableEq

/-- What a tracker keeps: the highest progress that it has told, and the backend once it is
known. -/
structure Tracker where
  last : Binary64 := 0
  backend : Option BackendKind := none
  deriving DecidableEq

namespace Tracker

/-- From now on events name this backend. -/
def bind (t : Tracker) (backend : BackendKind) : Tracker := { t with backend := some backend }

/-- Records an event. -/
def advance (t : Tracker) (event : ProgressEvent) : Tracker := { t with last := event.progress }

/-- The event of a report: its place on the bar (`Phase.place`), but not before the last one. -/
def report (t : Tracker) (u : ProgressUpdate) : ProgressEvent :=
  { progress := Binary64.maxFirst t.last (u.phase.place u.progress)
    message := u.message, phase := u.phase, backend := t.backend }

/-- What is told in the end. -/
def completeMessage : String := "Export complete!"

/-- The event of a finished export, at the end of the bar wherever the last event was. -/
def complete (t : Tracker) (message : String) : ProgressEvent :=
  { progress := 100, message, phase := .finalizing, backend := t.backend }

end Tracker

end Montage
