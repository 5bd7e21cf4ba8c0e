import Montage.Progress.Tracker

/-!
# The stream of a tracker

Every report, and the end of an export, makes one event.  It goes into the history of the export,
and then the listener is told of it, if there is one.

* `TrackerCall` — what is asked of a tracker; `Tracker.event?` — the event that comes of it.
* `Listener` — whoever is told of events, and may fail at any of them.
* `EventStream` — a tracker with its history and its listener; **a listener that fails leaves no
  trace in either of the others**.
-/

namespace Montage

/-- What is asked of a tracker.  Reports come from an export itself and from its backend alike. -/
inductive TrackerCall where
  | bind (backend : BackendKind)
  | report (u : ProgressUpdate)
  | complete (message : String)

namespace Tracker

/-- The event of a call, if it makes one. -/
def event? (t : Tracker) : TrackerCall → Option ProgressEvent
  | .bind _ => none
  | .report u => some (t.report u)
  | .complete message => some (t.complete message)

/-- The tracker after a call. -/
def apply (t : Tracker) : TrackerCall → Tracker
  | .bind backend => t.bind backend
  | .report u => t.advance (t.report u)
  | .complete message => t.advance (t.complete message)

end Tracker

/-- What a listener makes of an event: it may fail, and it may change, but it has no way to reach
the tracker. -/
abbrev Listener (σ : Type) := ProgressEvent → σ → Except Fault Unit × σ

/-- A tracker together with everything that it has told, and the listener as it is by now.  The
events are those of the tracker, whatever the listener does. -/
structure EventStream (σ : Type) where
  tracker : Tracker := {}
  history : List ProgressEvent := []
  listener : σ

namespace EventStream

variable {σ : Type}

/-- Tells a listener of an event.  That it fails is only noted in the log. -/
def tell (hears : Option (Listener σ)) (e : ProgressEvent) (listener : σ) : σ :=
  match hears with
  | none => listener
  | some hear =>
    match hear e listener with
    | (.ok (), listener) => listener
    | (.error _, listener) => listener

/-- Records an event and tells the listener. -/
def emit (hears : Option (Listener σ)) (s : EventStream σ) (e : ProgressEvent) : EventStream σ where
  tracker := s.tracker.advance e
  history := s.history ++ [e]
  listener := tell hears e s.listener

/-- The stream after a call.  Binding a backend tells nothing; everything else tells one event. -/
def apply (hears : Option (Listener σ)) (s : EventStream σ) : TrackerCall → EventStream σ
  | .bind backend => { s with tracker := s.tracker.bind backend }
  | .report u => s.emit hears (s.tracker.report u)
  | .complete message => s.emit hears (s.tracker.complete message)

/-- The stream after many calls. -/
def follow (hears : Option (Listener σ)) (s : EventStream σ) (calls : List TrackerCall) :
    EventStream σ :=
  calls.foldl (apply hears) s

end EventStream

end Montage
