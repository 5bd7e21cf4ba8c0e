import Montage.Rehearsal.Host
import Montage.Studio.Engine

/-!
# Performances

A performance runs routines on a host until nothing is left to do.

* `studioProgram` — the studio's own tasks, and routines from outside.
* `System.settle` — takes turns until all tasks wait or have ended; `System.settleAll` releases
  whatever is held as well.
* `Performance` — routines of the studio on a host, and how they ended.
-/

namespace Montage

/-- The studio's own tasks beside routines from outside.  The engine serves one at a time, the
worker as many as it is set to, but at least one. -/
def studioProgram (settings : Settings) (α : Type) : Program Studio where
  job | .loadEngine => Engine.loadOnce settings
  Call := StudioRoutine α
  Result _ := α
  call r := r
  capacity
    | .engine => 1
    | .worker => max 1 settings.workerConcurrency.toNat

/-! ## Running until nothing is left -/

namespace System

variable {E : Interface} [DecidableEq E.Gate] [DecidableEq E.Job]
variable {P : Program E} {M : Machine E}

/-- More turns than any performance takes. -/
def turnLimit : Nat := 1000000000000

/-- Takes turns until all tasks wait or have ended. -/
def settle (sys : System P M) : System P M := sys.run turnLimit

/-- Settles, and settles again after each release of what is held, at most so often. -/
def settleAll (sys : System P M) : (releases : Nat) → System P M
  | 0 => sys.settle
  | releases + 1 =>
    let settled := sys.settle
    if settled.held.isEmpty then settled else settled.releaseAll.settleAll releases

end System

/-! ## Performances of the studio -/

/-- Routines of the studio on a host. -/
abbrev Performance (settings : Settings) (α : Type) :=
  System (studioProgram settings α) Host.machine

namespace Performance

variable {settings : Settings} {α : Type}

/-- A performance before its first step: the engine is not loaded. -/
def ofHost (h : Host) : Performance settings α := { world := h, store := {} }

/-- The same performance with the journal of its host begun anew. -/
def newJournal (p : Performance settings α) : Performance settings α :=
  { p with world := { p.world with journal := {} } }

/-- How a routine ended, if it has. -/
def exit? (p : Performance settings α) (t : TaskId) : Option (Exit α) :=
  match p.tasks[t]? with
  | some ⟨.call _, .ended x, _, _⟩ => some x
  | _ => none

/-- How a routine ended; one that waits forever counts as cancelled. -/
def exitOf (p : Performance settings α) (t : TaskId) : Exit α := (exit? p t).getD .cancelled

/-- Starts routines together. -/
def callAll (p : Performance settings α) : List (StudioRoutine α) →
    List TaskId × Performance settings α
  | [] => ([], p)
  | r :: rest =>
    let (t, p) := p.call r
    let (ts, p) := callAll p rest
    (t :: ts, p)

/-- Whatever is held is released at most so often. -/
def releaseLimit : Nat := 1000

/-- Runs routines together to their ends. -/
def runAll (p : Performance settings α) (rs : List (StudioRoutine α)) :
    List (Exit α) × Performance settings α :=
  let (ts, p) := callAll p rs
  let p := p.settleAll releaseLimit
  (ts.map (exitOf p), p)

/-- Runs a routine to its end. -/
def runOne (p : Performance settings α) (r : StudioRoutine α) :
    Exit α × Performance settings α :=
  let (t, p) := p.call r
  let p := p.settleAll releaseLimit
  (exitOf p t, p)

/-- Runs a routine and cancels it where it is held. -/
def runCancelled (p : Performance settings α) (r : StudioRoutine α) :
    Exit α × Performance settings α :=
  let (t, p) := p.call r
  let p := p.settle
  let p := if p.held.isEmpty then p else (p.cancel t).2
  let p := p.settleAll releaseLimit
  (exitOf p t, p)

end Performance

/-- The files in the engine's workspace, if it is there. -/
def workspaceNames (h : Host) (s : EngineState) : Option (List String) :=
  s.workspace.bind fun path => (h.disk.list h.here path).toOption

end Montage
