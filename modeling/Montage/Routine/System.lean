import Montage.Routine.Basic

/-!
# Many routines at once

Tasks take turns: one runs until it suspends or ends, then another.  A `System` is the state between
two turns.

* `Program` — the routines behind the jobs of an interface, and the calls that come from outside.
* `Machine` — the surroundings: replies to effects, some of them held back until later.
* `System.resume` — one turn of one task; `System.cancel`, `System.call`, `System.release` — what
  can happen between turns.  **Any order of these is a schedule**; `System.run` takes tasks in the
  order in which they became ready.

## Cancellation

A cancellation reaches a task where it is suspended, as the reply to what it awaits.

* A task that has not taken its first step ends without taking it.
* A task that joins another passes the cancellation on and keeps waiting for the other's end.
* If the reply is there already but the task has not seen it, the cancellation takes its place; a
  place behind a gate is then passed on.
* A task that runs on to its end before it suspends again ends cancelled, its value lost; a failure
  stands.
-/

namespace Montage

variable {E : Interface}

/-! ## Programs and their surroundings -/

/-- The routines behind jobs and calls, and how many may be behind each gate at once. -/
structure Program (E : Interface) where
  job : (j : E.Job) → Routine E (E.Out j)
  /-- What can be started from outside. -/
  Call : Type
  Result : Call → Type
  call : (c : Call) → Routine E (Result c)
  /-- How many may be behind a gate. -/
  capacity : E.Gate → Nat

/-- Replies to effects, given who asks for them.  An effect that takes time is answered at once or
held, and a held one is answered when it is released. -/
structure Machine (E : Interface) where
  State : Type
  act : TaskId → (a : E.Act) → State → E.Val a × State
  wait : TaskId → (w : E.Wait) → State → Option (E.Ans w) × State
  /-- The reply to an effect that was held. -/
  release : TaskId → (w : E.Wait) → State → E.Ans w × State

/-- What a task runs. -/
inductive Origin (P : Program E) where
  | job (j : E.Job)
  | call (c : P.Call)

namespace Origin

variable {P : Program E}

/-- What a task comes to, whether it is a job or a call. -/
def Out : Origin P → Type
  | job j => E.Out j
  | call c => P.Result c

/-- The routine that a task runs. -/
def routine : (o : Origin P) → Routine E o.Out
  | job j => P.job j
  | call c => P.call c

end Origin

/-! ## Tasks -/

/-- Where a task is.  Between two turns it is fresh, waits, has a reply ready or has ended; only the
task whose turn it is runs. -/
inductive Fiber (E : Interface) (α : Type) where
  /-- Before its first step. -/
  | fresh
  | running
  | waiting (s : Suspension E) (k : Exit s.Answer → Routine E α)
  /-- The reply is there; the task has not seen it. -/
  | ready (s : Suspension E) (x : Exit s.Answer) (k : Exit s.Answer → Routine E α)
  | ended (x : Exit α)

/-- A task: where it comes from, how far it is, and what it was asked.  A request to stop that has
not reached it yet is kept, and so is the number of all requests. -/
structure Task (P : Program E) where
  origin : Origin P
  fiber : Fiber E origin.Out := .fresh
  /-- Whether a cancellation has yet to reach it. -/
  pending : Bool := false
  /-- How often it was asked to stop. -/
  cancels : Nat := 0

namespace Task

variable {P : Program E}

/-- Whether a task has ended. -/
def hasEnded (t : Task P) : Bool :=
  match t.fiber with
  | .ended _ => true
  | _ => false

/-- The end of a task that runs a job. -/
def exit? [DecidableEq E.Job] (t : Task P) (j : E.Job) : Option (Exit (E.Out j)) :=
  match t with
  | ⟨.job i, .ended x, _, _⟩ => if h : i = j then some (h ▸ x) else none
  | _ => none

/-- The end of a task that runs a call. -/
def result? [DecidableEq P.Call] (t : Task P) (c : P.Call) : Option (Exit (P.Result c)) :=
  match t with
  | ⟨.call d, .ended x, _, _⟩ => if h : d = c then some (h ▸ x) else none
  | _ => none

/-- A waiting task gets its reply. -/
def answer (t : Task P) (reply : (s : Suspension E) → Option (Exit s.Answer)) : Task P :=
  match t.fiber with
  | .waiting s k =>
    match reply s with
    | some x => { t with fiber := .ready s x k }
    | none => t
  | _ => t

end Task

/-! ## Systems -/

/-- A gate: how many are behind it, and who waits, the first in line first. -/
structure GateState where
  inside : Nat := 0
  line : List TaskId := []
  deriving DecidableEq

/-- The state between two turns: the surroundings, the shared record, all tasks that were ever
started, and who stands before which gate. -/
structure System (P : Program E) (M : Machine E) where
  world : M.State
  store : E.Store
  tasks : List (Task P) := []
  gates : E.Gate → GateState := fun _ => {}
  /-- Who can take a turn, in the order in which they became ready. -/
  queue : List TaskId := []

namespace System

variable [DecidableEq E.Gate] [DecidableEq E.Job]
variable {P : Program E} {M : Machine E}

/-- Changes one task. -/
def update (sys : System P M) (t : TaskId) (f : Task P → Task P) : System P M :=
  { sys with tasks := sys.tasks.modify t f }

/-- A task can take a turn. -/
def enqueue (sys : System P M) (t : TaskId) : System P M :=
  { sys with queue := sys.queue ++ [t] }

/-- Changes who is behind a gate and who stands in line before it. -/
def setGate (sys : System P M) (g : E.Gate) (state : GateState) : System P M :=
  { sys with gates := fun h => if h = g then state else sys.gates h }

/-- A new task. -/
def spawn (sys : System P M) (o : Origin P) : TaskId × System P M :=
  let t := sys.tasks.length
  (t, { sys with tasks := sys.tasks ++ [{ origin := o }], queue := sys.queue ++ [t] })

/-- Starts a call from outside. -/
def call (sys : System P M) (c : P.Call) : TaskId × System P M := sys.spawn (.call c)

/-! ### Replies -/

/-- The reply that stands for a place behind a gate. -/
def admitted (g : E.Gate) : (s : Suspension E) → Option (Exit s.Answer)
  | .enter h => if h = g then some (.returned ()) else none
  | _ => none

/-- Gives up a place behind a gate: the first in line gets it. -/
def leave (sys : System P M) (g : E.Gate) : System P M :=
  let state := sys.gates g
  match state.line with
  | [] => sys.setGate g { state with inside := state.inside - 1 }
  | t :: rest =>
    ((sys.setGate g { state with line := rest }).update t
      fun task => task.answer (admitted g)).enqueue t

/-- The exit that a suspension may wait for: the end of a task. -/
def exitFor? (ended : Task P) (t : TaskId) : (s : Suspension E) → Option (Exit s.Answer)
  | .join j u => if u = t then ended.exit? j else none
  | .watch j u => if u = t then ended.exit? j else none
  | _ => none

/-- Tells the end of a task to everyone who waits for it. -/
def announce (sys : System P M) (t : TaskId) (ended : Task P) : System P M :=
  let wakes (task : Task P) : Bool :=
    match task.fiber with
    | .waiting s _ => (exitFor? ended t s).isSome
    | _ => false
  let woken := (List.range sys.tasks.length).filter fun u => (sys.tasks[u]?).any wakes
  { sys with
    tasks := sys.tasks.map fun task => task.answer (exitFor? ended t)
    queue := sys.queue ++ woken }

/-- Ends a task and tells everyone who waits for it.  A value is lost if a cancellation has yet to
reach the task: its end is then a cancellation. -/
def finish (sys : System P M) (t : TaskId) (o : Origin P) (x : Exit o.Out) : System P M :=
  let old := sys.tasks[t]?
  let x := match x with
    | .returned a => if old.any Task.pending then .cancelled else .returned a
    | x => x
  let ended : Task P :=
    { origin := o, fiber := .ended x, pending := false, cancels := (old.map Task.cancels).getD 0 }
  (sys.update t fun _ => ended).announce t ended

/-! ### Cancellation -/

/-- The reply of every suspension to a cancellation. -/
def cancelledReply (s : Suspension E) : Option (Exit s.Answer) := some .cancelled

/-- Takes a task out of the line that it stands in, if it stands in one. -/
def withdraw (sys : System P M) (t : TaskId) : Suspension E → System P M
  | .enter g =>
    let state := sys.gates g
    sys.setGate g { state with line := state.line.filter (· ≠ t) }
  | _ => sys

/-- Lets a cancellation reach a suspended task: it leaves the line that it stands in, and hears of
the request in place of an answer. -/
def interrupt (sys : System P M) (t : TaskId) (s : Suspension E) : System P M :=
  ((sys.withdraw t s).update t fun task => task.answer cancelledReply).enqueue t

/-- Asks a task to stop, and tells whether it had not ended yet.  Whoever joins another task passes
the request on instead of hearing it; `depth` bounds how often, and there are never more tasks in a
line than there are tasks. -/
def cancelWithin (sys : System P M) (t : TaskId) : (depth : Nat) → Bool × System P M
  | 0 => (false, sys)
  | depth + 1 =>
    match sys.tasks[t]? with
    | none => (false, sys)
    | some task =>
      let counted := sys.update t fun task => { task with cancels := task.cancels + 1 }
      let marked := counted.update t fun task => { task with pending := true }
      match task.fiber with
      | .ended _ => (false, sys)
      | .waiting (.join _ u) _ =>
        match counted.cancelWithin u depth with
        | (true, next) => (true, next)
        | (false, _) => (true, marked)
      | .waiting s _ => (true, counted.interrupt t s)
      | _ => (true, marked)

/-- Asks a task to stop. -/
def cancel (sys : System P M) (t : TaskId) : Bool × System P M :=
  sys.cancelWithin t (sys.tasks.length + 1)

/-! ### Turns -/

/-- Answers a request. -/
def reply (sys : System P M) (self : TaskId) : (q : Request E) → q.Reply × System P M
  | .act a =>
    let (v, world) := M.act self a sys.world
    (v, { sys with world })
  | .get => (sys.store, sys)
  | .set s => ((), { sys with store := s })
  | .leave g => ((), sys.leave g)
  | .start j => sys.spawn (.job j)
  | .cancel t => sys.cancel t
  | .cancelling => (((sys.tasks[self]?).map Task.cancels).any (0 < ·), sys)

/-- What becomes of a suspension: its reply is there at once and the task goes on; or it comes with
a later turn; or it is not known when. -/
inductive Prospect (α : Type) where
  | now (x : Exit α)
  | later (x : Exit α)
  | unknown

/-- Begins a suspension: finds out whether its reply is there at once, comes with a later turn, or
is not known yet. -/
def begin (sys : System P M) (self : TaskId) :
    (s : Suspension E) → Prospect s.Answer × System P M
  | .wait w =>
    match M.wait self w sys.world with
    | (some v, world) => (.later (.returned v), { sys with world })
    | (none, world) => (.unknown, { sys with world })
  | .enter g =>
    let state := sys.gates g
    if state.inside < P.capacity g ∧ state.line = [] then
      (.now (.returned ()), sys.setGate g { state with inside := state.inside + 1 })
    else (.unknown, sys.setGate g { state with line := state.line ++ [self] })
  | .join j t =>
    match (sys.tasks[t]?).bind fun task => task.exit? j with
    | some x => (.now x, sys)
    | none => (.unknown, sys)
  | .watch j t =>
    match (sys.tasks[t]?).bind fun task => task.exit? j with
    | some x => (.now x, sys)
    | none => (.unknown, sys)

/-- Whether a suspension would really suspend. -/
def suspends (sys : System P M) : Suspension E → Bool
  | .wait _ => true
  | .enter g => !((sys.gates g).inside < P.capacity g && (sys.gates g).line.isEmpty)
  | .join j t => (((sys.tasks[t]?).bind fun task => task.exit? j)).isNone
  | .watch j t => (((sys.tasks[t]?).bind fun task => task.exit? j)).isNone

/-- Whether a cancellation has yet to reach a task. -/
def isPending (sys : System P M) (t : TaskId) : Bool := (sys.tasks[t]?).any Task.pending

/-- Runs a routine until it suspends or ends.  This is one turn: whatever is asked on the way is
answered without anybody else having a turn. -/
def perform (self : TaskId) (o : Origin P) (sys : System P M) : Routine E o.Out → System P M
  | .done x => sys.finish self o x
  | .ask q k =>
    let (v, sys) := sys.reply self q
    perform self o sys (k v)
  | .await s k =>
    let park (fiber : Fiber E o.Out) (sys : System P M) : System P M :=
      sys.update self fun task =>
        { origin := o, fiber, pending := task.pending, cancels := task.cancels }
    if sys.isPending self && sys.suspends s then
      -- the cancellation comes before the suspension has begun
      let sys := sys.update self fun task => { task with pending := false }
      match s, k with
      | .join j u, k =>
        let sys := park (.waiting (.join j u) k) sys
        (sys.cancelWithin u (sys.tasks.length + 1)).2
      | s, k => (park (.ready s .cancelled k) sys).enqueue self
    else
      match sys.begin self s with
      | (.now x, sys) => perform self o sys (k x)
      | (.later x, sys) => (park (.ready s x k) sys).enqueue self
      | (.unknown, sys) => park (.waiting s k) sys

/-- One turn of a task: the first, or one that goes on with a reply.  A request to stop that the
task has not heard of yet takes the place of the reply. -/
def resume (sys : System P M) (t : TaskId) : System P M :=
  match sys.tasks[t]? with
  | none => sys
  | some task =>
    match task with
    | ⟨o, .fresh, pending, cancels⟩ =>
      let sys := sys.update t fun _ => ⟨o, .running, pending, cancels⟩
      if pending then sys.finish t o .cancelled else sys.perform t o o.routine
    | ⟨o, .ready s x k, pending, cancels⟩ =>
      let sys := sys.update t fun _ => ⟨o, .running, false, cancels⟩
      if pending then
        -- a place that was granted meanwhile is passed on
        let sys := match s, x with
          | .enter g, .returned _ => sys.leave g
          | _, _ => sys
        sys.perform t o (k .cancelled)
      else sys.perform t o (k x)
    | _ => sys

/-- A held effect gets its reply, and whoever waits for it can take a turn. -/
def release (sys : System P M) (t : TaskId) : System P M :=
  match sys.tasks[t]? with
  | some ⟨o, .waiting (.wait w) k, pending, cancels⟩ =>
    let (v, world) := M.release t w sys.world
    let sys : System P M := { sys with world }
    (sys.update t fun _ => ⟨o, .ready (.wait w) (.returned v) k, pending, cancels⟩).enqueue t
  | _ => sys

/-- The tasks that wait for an effect that is held. -/
def held (sys : System P M) : List TaskId :=
  let isHeld (task : Task P) : Bool :=
    match task.fiber with
    | .waiting (.wait _) _ => true
    | _ => false
  (List.range sys.tasks.length).filter fun t => (sys.tasks[t]?).any isHeld

/-- Every held effect gets its reply. -/
def releaseAll (sys : System P M) : System P M := sys.held.foldl release sys

/-- Takes turns in the order in which tasks became ready, at most so many. -/
def run : (turns : Nat) → System P M → System P M
  | 0, sys => sys
  | turns + 1, sys =>
    match sys.queue with
    | [] => sys
    | t :: rest => run turns ({ sys with queue := rest }.resume t)

end System

/-! ## Schedules -/

/-- What can happen next.  Schedules are lists of choices, and since any choice may come at any time
they cover whatever order things happen in. -/
inductive Choice (P : Program E) where
  | turn (t : TaskId)
  | call (c : P.Call)
  | cancel (t : TaskId)
  | release (t : TaskId)

namespace System

variable [DecidableEq E.Gate] [DecidableEq E.Job]
variable {P : Program E} {M : Machine E}

/-- One step of a schedule: a turn, a new call, a request to stop, or the release of what was
held. -/
def apply (sys : System P M) : Choice P → System P M
  | .turn t => sys.resume t
  | .call c => (sys.call c).2
  | .cancel t => (sys.cancel t).2
  | .release t => sys.release t

/-- The state after a schedule.  What holds after every schedule holds however tasks take turns. -/
def follow (sys : System P M) (schedule : List (Choice P)) : System P M := schedule.foldl apply sys

end System

end Montage
