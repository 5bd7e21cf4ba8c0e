import Montage.Failure

/-!
# Routines: programs that can be suspended and cancelled

An export waits a great deal: for files, for programs, for the network, for other exports.  While it
waits it may be cancelled.  A routine is such a program **as a value**: a tree of what it asks for,
branching on the replies.  Every question about a routine, also *what if it is cancelled here?*, is
then a question about a tree.

* `Interface` — what routines of one kind can ask of their surroundings.
* `Request` — what is answered at once; `Suspension` — what may take time.
* `Routine` — the trees; **a cancellation is one more reply to a suspension**.
* `Routine.handle` — goes on after a routine however it ended; sequencing, recovery and final steps
  are instances of it.
-/

namespace Montage

/-! ## How a routine ends -/

/-- The end of a routine: a value, a failure, or a cancellation.  A cancellation is none of the
failures, so what is done about failures leaves it alone. -/
inductive Exit (α : Type) where
  | returned (a : α)
  | failed (failure : Failure)
  | cancelled
  deriving DecidableEq

namespace Exit

variable {α β : Type}

/-- The same end with another value. -/
def map (f : α → β) : Exit α → Exit β
  | returned a => returned (f a)
  | failed e => failed e
  | cancelled => cancelled

/-- A result as an end; nothing that has a result is cancelled. -/
def ofExcept : Except Failure α → Exit α
  | .ok a => returned a
  | .error e => failed e

end Exit

/-! ## What can be asked -/

/-- The number of a task: its place among all tasks ever started. -/
abbrev TaskId := Nat

/-- What routines of one kind can ask of their surroundings: effects that happen at once and effects
that take time, a shared record, gates, and jobs that can be started as tasks of their own. -/
structure Interface where
  /-- Effects that happen at once. -/
  Act : Type
  Val : Act → Type
  /-- Effects that take time. -/
  Wait : Type
  Ans : Wait → Type
  /-- Places where only so many may be at the same time. -/
  Gate : Type
  /-- The record that all routines share. -/
  Store : Type
  /-- Routines that run as tasks of their own. -/
  Job : Type
  Out : Job → Type

/-- What is answered without a pause.  Nobody else has a turn meanwhile, and no request to stop gets
in between. -/
inductive Request (E : Interface) where
  | act (a : E.Act)
  | get
  | set (s : E.Store)
  /-- Gives up a place behind a gate. -/
  | leave (g : E.Gate)
  /-- Starts a task; it takes its first step later. -/
  | start (j : E.Job)
  /-- Asks a task to stop; tells whether it had not ended yet. -/
  | cancel (t : TaskId)
  /-- Whether the asking task was itself asked to stop. -/
  | cancelling

/-- What the reply to a question is.  The reply to `cancel` tells whether the task had not ended
yet. -/
def Request.Reply {E : Interface} : Request E → Type
  | act a => E.Val a
  | get => E.Store
  | set _ => Unit
  | leave _ => Unit
  | start _ => TaskId
  | cancel _ => Bool
  | cancelling => Bool

/-- What may take time.  Others take their turns meanwhile, and a request to stop can come instead
of the answer. -/
inductive Suspension (E : Interface) where
  | wait (w : E.Wait)
  /-- A place behind a gate. -/
  | enter (g : E.Gate)
  /-- The end of a task; who is cancelled meanwhile passes the cancellation on to the task. -/
  | join (j : E.Job) (t : TaskId)
  /-- The end of a task that goes on when the waiting one is cancelled. -/
  | watch (j : E.Job) (t : TaskId)

/-- What the answer to a suspension is, if there is one: a routine hears of an `Exit` of it. -/
def Suspension.Answer {E : Interface} : Suspension E → Type
  | wait w => E.Ans w
  | enter _ => Unit
  | join j _ => E.Out j
  | watch j _ => E.Out j

/-! ## Routines -/

/-- A program that asks and awaits until it is done.  It is data: what it does next is seen from it,
and what follows is a function of the reply, so everything about a routine is shown by induction on
it. -/
inductive Routine (E : Interface) (α : Type) where
  | done (x : Exit α)
  | ask (q : Request E) (k : q.Reply → Routine E α)
  | await (s : Suspension E) (k : Exit s.Answer → Routine E α)

namespace Routine

variable {E F : Interface} {α β : Type}

/-- Goes on after a routine, however it ended: with a value, with a failure or cancelled. -/
def handle (r : Routine E α) (h : Exit α → Routine E β) : Routine E β :=
  match r with
  | done x => h x
  | ask q k => ask q fun v => handle (k v) h
  | await s k => await s fun x => handle (k x) h

/-- Ends as given, a value apart, with which it goes on. -/
def stopWith : Exit α → (α → Routine E β) → Routine E β
  | .returned a, f => f a
  | .failed e, _ => done (.failed e)
  | .cancelled, _ => done .cancelled

/-- Goes on with the value of a routine. -/
def bind (r : Routine E α) (f : α → Routine E β) : Routine E β := r.handle fun x => stopWith x f

instance : Monad (Routine E) where
  pure a := done (.returned a)
  bind := bind

/-! ### Ends -/

/-- Ends with a failure. -/
def fail (e : Failure) : Routine E α := done (.failed e)

/-- Ends with a failure of the export's own kind. -/
def refuse (e : ExportFailure) : Routine E α := fail (.expected e)

/-- Ends with a fault. -/
def broken (f : Fault) : Routine E α := fail (.unexpected f)

/-- Goes on with a result, or ends with its failure. -/
def ofExcept (x : Except Failure α) : Routine E α := done (.ofExcept x)

/-- Goes on with a result; a fault is a failure that nobody foresaw. -/
def ofFault (x : Except Fault α) : Routine E α := ofExcept (x.mapError .unexpected)

/-- Runs a routine and tells how it ended. -/
def outcome (r : Routine E α) : Routine E (Exit α) := r.handle fun x => done (.returned x)

/-- Takes a final step after a routine, however it ended.  Unless that step ends badly itself, the
end of the routine stands. -/
def ensuring (r : Routine E α) (last : Routine E Unit) : Routine E α :=
  r.handle fun x => last.bind fun _ => done x

/-! ### Single questions -/

/-- Does something at once and answers with its value. -/
def act (a : E.Act) : Routine E (E.Val a) := ask (.act a) fun v => done (.returned v)

/-- Waits for something and answers with what it comes to. -/
def wait (w : E.Wait) : Routine E (E.Ans w) := await (.wait w) done

/-- The shared record. -/
def get : Routine E E.Store := ask .get fun s => done (.returned s)

/-- Replaces the shared record. -/
def set (s : E.Store) : Routine E Unit := ask (.set s) fun _ => done (.returned ())

/-- Changes the shared record.  It is read and written without a suspension in between, so nobody
else has a turn meanwhile. -/
def modify (f : E.Store → E.Store) : Routine E Unit := get.bind fun s => set (f s)

/-- Starts a task and answers with its number. -/
def start (j : E.Job) : Routine E TaskId := ask (.start j) fun t => done (.returned t)

/-- Asks a task to stop, and tells whether it had not ended yet. -/
def cancelTask (t : TaskId) : Routine E Bool := ask (.cancel t) fun b => done (.returned b)

/-- Whether whoever asks this was itself asked to stop. -/
def cancelling : Routine E Bool := ask .cancelling fun b => done (.returned b)

/-- Waits for the end of a task and ends as it did.  Who is cancelled meanwhile passes this on to
the task and goes on waiting for its end. -/
def join (j : E.Job) (t : TaskId) : Routine E (E.Out j) := await (.join j t) done

/-- Waits for the end of a task, which goes on even if whoever waits is cancelled; so a task that
many wait for is not ended by one of them. -/
def watch (j : E.Job) (t : TaskId) : Routine E (E.Out j) := await (.watch j t) done

/-- Does something behind a gate, and gives the place up however that ended.  Who is cancelled while
still in line has no place to give up. -/
def within (g : E.Gate) (r : Routine E α) : Routine E α :=
  (await (.enter g) done).bind fun _ =>
    r.handle fun x => ask (.leave g) fun _ => done x

/-- One routine for every item, in order; the first that does not end well ends it. -/
def forEach (items : List α) (f : α → Routine E Unit) : Routine E Unit :=
  match items with
  | [] => done (.returned ())
  | a :: rest => (f a).bind fun _ => forEach rest f

/-! ### Changing the interface -/

/-- How the questions of one interface are answered in terms of another: each by a routine, which
may ask for more than one thing. -/
structure Interpretation (E F : Interface) where
  onRequest : (q : Request E) → Routine F q.Reply
  onSuspension : (s : Suspension E) → Routine F s.Answer

/-- The same routine over another interface.  It goes on with the replies that the interpretation
comes to, and ends as before. -/
def interpret (φ : Interpretation E F) : Routine E α → Routine F α
  | done x => done x
  | ask q k => (φ.onRequest q).bind fun v => interpret φ (k v)
  | await s k => (φ.onSuspension s).handle fun x => interpret φ (k x)

end Routine

end Montage
