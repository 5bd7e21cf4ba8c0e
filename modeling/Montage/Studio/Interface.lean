import Montage.Disk.Path
import Montage.Metrics
import Montage.Routine.Notes

/-!
# The studio

What exports and the worker need from their surroundings: files, programs, the network, and one
engine that they share.

* `Studio` — the interface; `StudioAct` happens at once, `StudioWait` takes time.
* `EngineState` — what is known about the engine; all routines share it.
* `Channels`, `Response` — what a program writes and what a server sends.  Both are fixed when the
  program starts or the response begins; **reading them takes time, piece by piece**, and every
  piece is a place where a cancellation can come in.
-/

namespace Montage

/-! ## Programs -/

/-- The number of a program: its place among all programs that were ever started. -/
abbrev ProcessId := Nat

/-- What a program writes: the lines of its output and of its error output. -/
structure Channels where
  output : List ByteArray := []
  errors : List ByteArray := []
  deriving DecidableEq

/-- How a program ended, with everything it wrote. -/
structure Collected where
  code : Int
  output : ByteArray
  errors : ByteArray
  deriving DecidableEq

/-- Why a program could not be started. -/
inductive SpawnProblem where
  | os (error : OsError)
  /-- No argument may hold a null character. -/
  | nullArgument
  /-- Every argument must have bytes. -/
  | unencodable (problem : Text.EncodingProblem)
  deriving DecidableEq

namespace SpawnProblem

/-- The fault that comes out of a caller that does not handle it.  Only `os` is one that the
operating system tells; the other two are found before it is asked. -/
def fault : SpawnProblem → Fault
  | os e => .os e
  | nullArgument => .embeddedNull
  | unencodable p => .unencodable p

/-- Why a text cannot be handed to the operating system. -/
def ofText? (text : String) : Option SpawnProblem :=
  match Text.Alphabet.fileNames.problem? 0 (Text.codes text.toList) with
  | some p => some (.unencodable p)
  | none => if text.toList.contains '\x00' then some .nullArgument else none

end SpawnProblem

/-! ## The network -/

/-- One part of a form. -/
inductive FormPart where
  | field (name text : String)
  | file (name fileName : String) (content : ByteArray)
  deriving DecidableEq

/-- What is sent to a server: a request for an address, or a form for the worker. -/
inductive HttpRequest where
  | fetch (url : String)
  | post (url : String) (parts : List FormPart)
  deriving DecidableEq

/-- What broke an exchange, in the words of whoever noticed. -/
structure HttpFault where
  problem : HttpProblem
  message : String
  deriving DecidableEq

/-- The fault that comes out of a caller that does not handle it. -/
def HttpFault.fault (f : HttpFault) : Fault := .http f.problem f.message

/-- A response: its head, the pieces of its body, and what breaks it off after them. -/
structure Response where
  status : Int := 200
  headers : List (String × String) := []
  chunks : List ByteArray := []
  broken : Option HttpFault := none
  deriving DecidableEq

/-- A header by its name in lower case; the values of repeated headers are joined. -/
def Response.header? (r : Response) (name : String) : Option String :=
  match r.headers.filter fun h => h.1.toLower = name with
  | [] => none
  | found => some (", ".intercalate (found.map Prod.snd))

/-! ## The engine -/

/-- How far the engine is loaded. -/
inductive EnginePhase where
  | unloaded
  | loading
  | loaded
  | failed
  deriving DecidableEq, Repr

/-- The name of a phase as the desk tells it to whoever asks how far the engine is. -/
def EnginePhase.name : EnginePhase → String
  | unloaded => "unloaded"
  | loading => "loading"
  | loaded => "loaded"
  | failed => "failed"

/-- All that is known about the engine.  It is what every routine of the studio shares, so a load
that is going on is seen by all of them. -/
structure EngineState where
  phase : EnginePhase := .unloaded
  /-- The load that is going on. -/
  load : Option TaskId := none
  workspace : Option Path := none
  version : Option String := none
  attempts : Nat := 0
  deriving DecidableEq

/-! ## The interface -/

/-- What the studio does at once, without giving others a turn.  Directories of a request are made
this way, and programs are started and killed. -/
inductive StudioAct where
  | metric (m : Metric)
  | isDirectory (path : Path)
  /-- A directory below one that is there. -/
  | makeDirectory (path : Path)
  | makeDirectories (path : Path)
  /-- A new directory below another one, its name beginning as given. -/
  | makeTemporary (parent : Path) (beginning : String)
  /-- An empty file, in the place of an old one. -/
  | createFile (path : Path)
  /-- Starts a program with its arguments, in a directory. -/
  | spawn (command : List String) (directory : Option Path)
  | isRunning (p : ProcessId)
  | kill (p : ProcessId)

/-- What each of these comes to.  Only what the operating system can refuse may fail. -/
def StudioAct.Val : StudioAct → Type
  | metric _ => Unit
  | isDirectory _ => Except OsError Bool
  | makeDirectory _ => Except OsError Unit
  | makeDirectories _ => Except OsError Unit
  | makeTemporary _ _ => Except OsError Path
  | createFile _ => Except OsError Unit
  | spawn _ _ => Except SpawnProblem ProcessId
  | isRunning _ => Bool
  | kill _ => Unit

/-- What the studio waits for.  While a routine waits others take their turns, and it may be
cancelled; so these are all the places where an export can be interrupted. -/
inductive StudioWait where
  /-- Lets others take a turn. -/
  | pause
  | read (path : Path)
  | write (path : Path) (content : ByteArray)
  | append (path : Path) (content : ByteArray)
  | unlink (path : Path)
  | removeTree (path : Path)
  | list (path : Path)
  /-- Makes a directory with all above it, and a new one below it. -/
  | makeWorkspace (root : Path) (beginning : String)
  /-- Connects to a program that has started. -/
  | attach (p : ProcessId)
  /-- One more line from a program. -/
  | line (p : ProcessId)
  /-- The end of a program. -/
  | exit (p : ProcessId)
  /-- The end of a program, with everything it wrote. -/
  | collect (p : ProcessId)
  | send (request : HttpRequest)
  /-- One more piece of a response, or of an upload. -/
  | piece
  deriving DecidableEq

/-- What each of these comes to.  Where it may fail, it fails in the words of whoever was asked. -/
def StudioWait.Ans : StudioWait → Type
  | pause => Unit
  | read _ => Except OsError ByteArray
  | write _ _ => Except OsError Unit
  | append _ _ => Except OsError Unit
  | unlink _ => Except OsError Unit
  | removeTree _ => Except OsError Unit
  | list _ => Except OsError (List String)
  | makeWorkspace _ _ => Except OsError Path
  | attach _ => Channels
  | line _ => Unit
  | exit _ => Int
  | collect _ => Collected
  | send _ => Except HttpFault Response
  | piece => Unit

/-- Where only so many may be at a time. -/
inductive StudioGate where
  /-- The engine's workspace. -/
  | engine
  /-- The renderings of the worker. -/
  | worker
  deriving DecidableEq, Repr

/-- The tasks that the studio starts by itself. -/
inductive StudioJob where
  | loadEngine
  deriving DecidableEq, Repr

/-- The interface of exports and of the worker. -/
abbrev Studio : Interface where
  Act := StudioAct
  Val := StudioAct.Val
  Wait := StudioWait
  Ans := StudioWait.Ans
  Gate := StudioGate
  Store := EngineState
  Job := StudioJob
  Out := fun _ => Unit

/-- A routine of the studio. -/
abbrev StudioRoutine (α : Type) := Routine Studio α

/-- A routine of the studio that makes notes. -/
abbrev NotingRoutine (N α : Type) := Routine (Studio.noting N) α

namespace Studio

variable {α : Type}

/-- Does something at once. -/
def perform (a : StudioAct) : StudioRoutine a.Val := Routine.act (E := Studio) a

/-- Waits for something; a cancellation is one more way in which this can end. -/
def wait (w : StudioWait) : StudioRoutine w.Ans := Routine.wait (E := Studio) w

/-- Adds a record to the metrics, which cannot fail. -/
def record (m : Metric) : StudioRoutine Unit := perform (.metric m)

/-- Lets others take a turn, as what waits for nothing in particular does. -/
def pause : StudioRoutine Unit := wait .pause

/-! ### Programs and the network -/

/-- Starts a program with its arguments.  Whether it could be started is known at once. -/
def spawn (command : List String) (directory : Option Path) :
    StudioRoutine (Except SpawnProblem ProcessId) := perform (.spawn command directory)

/-- Whether a program has not ended yet. -/
def isRunning (p : ProcessId) : StudioRoutine Bool := perform (.isRunning p)

/-- Kills a program; its end is still to be waited for. -/
def kill (p : ProcessId) : StudioRoutine Unit := perform (.kill p)

/-- Waits until a program that has started is connected to its streams. -/
def attach (p : ProcessId) : StudioRoutine Channels := wait (.attach p)

/-- Waits for one more line of a program; which line it is is known from its `Channels`. -/
def nextLine (p : ProcessId) : StudioRoutine Unit := wait (.line p)

/-- Waits for the end of a program and tells its exit code. -/
def exitOf (p : ProcessId) : StudioRoutine Int := wait (.exit p)

/-- Waits for the end of a program and tells all that it wrote. -/
def collect (p : ProcessId) : StudioRoutine Collected := wait (.collect p)

/-- Sends a request and waits for the head of the response. -/
def send (request : HttpRequest) : StudioRoutine (Except HttpFault Response) := wait (.send request)

/-- Waits for one more piece of a response; which piece it is is known from its `Response`. -/
def nextPiece : StudioRoutine Unit := wait .piece

/-! ### Files -/

/-- The reply of the operating system, an error becoming the failure of the routine. -/
def orFault (reply : Except OsError α) : StudioRoutine α :=
  Routine.ofFault (reply.mapError .os)

/-- Why a path cannot be handed to the operating system. -/
def pathFault? (path : Path) : Option Fault :=
  (SpawnProblem.ofText? path.text).map SpawnProblem.fault

/-- Something that happens at once, on a path. -/
def atOnce (path : Path) (a : StudioAct) (h : a.Val = Except OsError α) : StudioRoutine α := do
  if let some f := pathFault? path then Routine.broken f
  orFault (h ▸ (← perform a))

/-- Something that takes time, on a path: others get a turn before it begins. -/
def inTime (path : Path) (w : StudioWait) (h : w.Ans = Except OsError α) : StudioRoutine α := do
  pause
  if let some f := pathFault? path then Routine.broken f
  orFault (h ▸ (← wait w))

/-- The content of a file. -/
def readFile (path : Path) : StudioRoutine ByteArray := inTime path (.read path) rfl

/-- Writes a file, in the place of an old one if there is one. -/
def writeFile (path : Path) (content : ByteArray) : StudioRoutine Unit :=
  inTime path (.write path content) rfl

/-- Writes at the end of a file, which is how the pieces of an upload are put together. -/
def appendFile (path : Path) (content : ByteArray) : StudioRoutine Unit :=
  inTime path (.append path content) rfl

/-- Deletes a file, and no directory. -/
def unlink (path : Path) : StudioRoutine Unit := inTime path (.unlink path) rfl

/-- Deletes a directory with all that lies in it. -/
def removeTree (path : Path) : StudioRoutine Unit := inTime path (.removeTree path) rfl

/-- The names in a directory, sorted. -/
def listDirectory (path : Path) : StudioRoutine (List String) := inTime path (.list path) rfl

/-- Makes a new directory for an engine, its name beginning as given, with all above it. -/
def makeWorkspace (root : Path) (beginning : String) : StudioRoutine Path :=
  inTime root (.makeWorkspace root beginning) rfl

/-- Makes a directory below one that is there. -/
def makeDirectory (path : Path) : StudioRoutine Unit := atOnce path (.makeDirectory path) rfl

/-- Makes a directory with all above it, as far as they are missing. -/
def makeDirectories (path : Path) : StudioRoutine Unit := atOnce path (.makeDirectories path) rfl

/-- Makes a new directory whose name nothing has yet. -/
def makeTemporary (parent : Path) (beginning : String) : StudioRoutine Path :=
  atOnce parent (.makeTemporary parent beginning) rfl

/-- Makes an empty file, in the place of an old one if there is one. -/
def createFile (path : Path) : StudioRoutine Unit := atOnce path (.createFile path) rfl

/-- Whether a path leads to a directory; one that cannot be handed over does not. -/
def isDirectory (path : Path) : StudioRoutine Bool :=
  if (pathFault? path).isSome then pure false
  else do orFault (← perform (.isDirectory path))

end Studio

end Montage
