import Montage.Disk.Basic
import Montage.Rehearsal.Script
import Montage.Routine.System
import Montage.Settings

/-!
# The host of a rehearsal

A host is a studio on paper: files are a table, programs and servers follow scripts, and a journal
says what was asked of it.

* `Host` — the files, the scripts, what is running, the journal.
* `Host.start` — starting a program, with its effects on files.
* `Host.machine` — the replies to all effects of the studio.
-/

namespace Montage

/-- A program that has started. -/
structure RunningProgram where
  script : ProgramScript
  ended : Bool := false
  killed : Bool := false

/-- What was asked of a host, in order. -/
structure Journal where
  commands : List (List String) := []
  requests : List HttpRequest := []
  metrics : List Metric := []
  kills : Nat := 0

/-- A host: files, programs that do what their scripts say, and servers that answer as their scripts
say.  It also keeps a journal of all that it was asked for. -/
structure Host where
  disk : Disk := {}
  /-- The working directory. -/
  here : Place := []
  /-- How generated names end. -/
  generated : String := "X"
  /-- The program that tells how long a video is. -/
  prober : String := Settings.defaults.ffprobe
  versions : Cues ProgramScript := ⟨{}, []⟩
  probes : Cues ProgramScript := ⟨{}, []⟩
  renderings : Cues ProgramScript := ⟨{}, []⟩
  /-- The answers to forms that are sent. -/
  submissions : Cues ResponseScript := ⟨.unreachable, []⟩
  /-- The answers to requests for an address. -/
  pages : List (String × ResponseScript) := []
  programs : List RunningProgram := []
  /-- Answers that are on their way to a task. -/
  underway : List (TaskId × ResponseScript) := []
  journal : Journal := {}

namespace Host

/-! ## Files -/

/-- The path of the working directory. -/
def herePath (h : Host) : Path := ⟨.slash, h.here⟩

/-- The reply to an operation that changes the disk. -/
def changing (h : Host) (path : Path) (result : Except DiskProblem Disk) :
    Except OsError Unit × Host :=
  match result with
  | .ok disk => (.ok (), { h with disk })
  | .error p => (.error (p.about path), h)

/-- The reply to an operation that leaves the disk as it is. -/
def reading {α : Type} (path : Path) (result : Except DiskProblem α) : Except OsError α :=
  result.mapError fun p => p.about path

/-- Deletes a directory with all that lies in it; what was deleted before a failure stays
deleted. -/
def removeTree (h : Host) (path : Path) : Except OsError Unit × Host :=
  let (result, disk) := h.disk.removeTree h.here path
  (result.mapError fun p => p.about path, { h with disk })

/-- Makes a directory with all above it; a failure tells at which of them it came. -/
def makeDirectories (h : Host) (path : Path) : Except OsError Unit × Host :=
  match h.disk.makeDirectories h.here path with
  | .ok disk => (.ok (), { h with disk })
  | .error (about, p) => (.error (p.about about), h)

/-- A path with a name that nothing has yet: it begins as given, and the usual end follows, once or
more often. -/
def freshPath (h : Host) (parent : Path) (beginning : String) : (attempts : Nat) → Path
  | 0 => parent.child beginning
  | attempts + 1 =>
    let name := beginning ++ h.generated
    let path := parent.child name
    if (h.disk.find h.here path).isOk then h.freshPath parent name attempts else path

/-- A new directory below another one. -/
def makeTemporary (h : Host) (parent : Path) (beginning : String) : Except OsError Path × Host :=
  let path := h.freshPath parent beginning (h.disk.nodes.length + 1)
  match h.changing path (h.disk.makeDirectory h.here path) with
  | (.ok (), h) => (.ok path, h)
  | (.error e, h) => (.error e, h)

/-- A directory with all above it, and a new one below it. -/
def makeWorkspace (h : Host) (root : Path) (beginning : String) : Except OsError Path × Host :=
  match h.makeDirectories root with
  | (.ok (), h) => h.makeTemporary root beginning
  | (.error e, h) => (.error e, h)

/-! ## Programs -/

/-- The name of the file in every directory that a program makes. -/
def innerName : String := "inner"

/-- Whether the effect of a program on files succeeds, and the host after it. -/
abbrev Effect := Host → Except SpawnProblem Unit × Host

/-- An effect after others, unless one of them has failed. -/
def Effect.after (effect : Effect) (x : Except SpawnProblem Unit × Host) :
    Except SpawnProblem Unit × Host :=
  match x with
  | (.ok (), h) => effect h
  | (.error e, h) => (.error e, h)

/-- An operation on a path, if the path can be handed to the operating system. -/
def onPath (path : Path) (operation : Host → Except OsError Unit × Host) : Effect := fun h =>
  match SpawnProblem.ofText? path.text with
  | some p => (.error p, h)
  | none =>
    let (result, h) := operation h
    (result.mapError .os, h)

/-- The effect of a program that writes a file. -/
def writing (path : Path) (content : ByteArray) : Effect :=
  onPath path fun h => h.changing path (h.disk.write h.here path content)

/-- A directory with a file in it. -/
def fillingDirectory (path : Path) : Effect := fun h =>
  Effect.after (writing (path.child innerName) ByteArray.empty)
    (onPath path (fun h => h.changing path (h.disk.makeDirectory h.here path)) h)

/-- What a rendering does to files. -/
def effects (script : ProgramScript) (command : List String) (directory : Path) : List Effect :=
  let extras := script.extras.map fun e => writing (directory.child e.1) e.2
  let result := script.result.toList.map fun content =>
    writing (directory.child (command.getLastD "")) content
  let directories := script.directories.map fun name => fillingDirectory (directory.child name)
  let removal :=
    if script.removesDirectory then [onPath directory fun h => h.removeTree directory] else []
  extras ++ result ++ directories ++ removal

/-- All effects, one after the other. -/
def undergo (h : Host) (es : List Effect) : Except SpawnProblem Unit × Host :=
  es.foldl (fun x e => e.after x) (.ok (), h)

/-- Notes a command in the journal. -/
def addCommand (h : Host) (command : List String) : Host :=
  { h with journal := { h.journal with commands := h.journal.commands ++ [command] } }

/-- A program that has started. -/
def launch (h : Host) (script : ProgramScript) : Except SpawnProblem ProcessId × Host :=
  (.ok h.programs.length, { h with programs := h.programs ++ [{ script }] })

/-- What a command asks for: a version, the duration of a video, or a rendering. -/
inductive CommandKind where
  | version
  | probe
  | rendering
  deriving DecidableEq, Repr

/-- The arguments of a program that is asked what it is. -/
def versionArguments : List String := ["-version"]

/-- What a command is for: it asks for a version, it probes a file, or it renders. -/
def kindOf (h : Host) (command : List String) : CommandKind :=
  if command.tail = versionArguments then .version
  else if command.head? = some h.prober then .probe
  else .rendering

/-- The script for a command, and the host with the script used. -/
def cue (h : Host) : CommandKind → ProgramScript × Host
  | .version => (h.versions.next, { h with versions := h.versions.advance })
  | .probe => (h.probes.next, { h with probes := h.probes.advance })
  | .rendering => (h.renderings.next, { h with renderings := h.renderings.advance })

/-- Starts a program in a directory. -/
def start (h : Host) (command : List String) (directory : Option Path) :
    Except SpawnProblem ProcessId × Host :=
  let h := h.addCommand command
  let kind := h.kindOf command
  let (script, h) := h.cue kind
  match script.refusal with
  | some (number, text) => (.error (.os ⟨number, text, command.head?⟩), h)
  | none =>
    if kind = .rendering then
      match h.undergo (effects script command (directory.getD h.herePath)) with
      | (.ok (), h) => h.launch script
      | (.error p, h) => (.error p, h)
    else h.launch script

/-- The program with a number, if it was ever started. -/
def program? (h : Host) (p : ProcessId) : Option RunningProgram := h.programs[p]?

/-- What a program is told to do; one that was never started does nothing. -/
def scriptOf (h : Host) (p : ProcessId) : ProgramScript :=
  ((h.program? p).map RunningProgram.script).getD {}

/-- Changes what is known of a program. -/
def setProgram (h : Host) (p : ProcessId) (f : RunningProgram → RunningProgram) : Host :=
  { h with programs := h.programs.modify p f }

/-- Whether a program was started and has not been waited for yet. -/
def isRunning (h : Host) (p : ProcessId) : Bool := (h.program? p).any fun r => !r.ended

/-- Kills a program, and notes this. -/
def kill (h : Host) (p : ProcessId) : Host :=
  { h.setProgram p fun r => { r with killed := true } with
    journal := { h.journal with kills := h.journal.kills + 1 } }

/-- The end of a program has been told to whoever waited for it. -/
def finish (h : Host) (p : ProcessId) : Host := h.setProgram p fun r => { r with ended := true }

/-! ## The network -/

/-- The script for a request, and the host with the script used. -/
def cueResponse (h : Host) : HttpRequest → ResponseScript × Host
  | .fetch url => ((h.pages.lookup url).getD .unreachable, h)
  | .post .. => (h.submissions.next, { h with submissions := h.submissions.advance })

/-- Sends a request: from now on its answer is on its way. -/
def dispatch (h : Host) (t : TaskId) (request : HttpRequest) : Host :=
  let (script, h) := h.cueResponse request
  { h with
    underway := (t, script) :: h.underway.filter fun u => u.1 ≠ t
    journal := { h.journal with requests := h.journal.requests ++ [request] } }

/-- The answer that is on its way to a task. -/
def responseFor (h : Host) (t : TaskId) : ResponseScript :=
  (h.underway.lookup t).getD .unreachable

/-! ## Replies -/

/-- What happens at once at a host. -/
def act (_ : TaskId) : (a : StudioAct) → Host → a.Val × Host
  | .metric m, h =>
    ((), { h with journal := { h.journal with metrics := h.journal.metrics ++ [m] } })
  | .isDirectory path, h => (reading path (h.disk.isDirectory h.here path), h)
  | .makeDirectory path, h => h.changing path (h.disk.makeDirectory h.here path)
  | .makeDirectories path, h => h.makeDirectories path
  | .makeTemporary parent beginning, h => h.makeTemporary parent beginning
  | .createFile path, h => h.changing path (h.disk.write h.here path ByteArray.empty)
  | .spawn command directory, h => h.start command directory
  | .isRunning p, h => (h.isRunning p, h)
  | .kill p, h => ((), h.kill p)

/-- What happens when an effect begins. -/
def begin (t : TaskId) : StudioWait → Host → Host
  | .send request, h => h.dispatch t request
  | _, h => h

/-- Whether the reply to an effect is held. -/
def holds (h : Host) (t : TaskId) : StudioWait → Bool
  | .exit p => (h.scriptOf p).held && !(h.program? p).any RunningProgram.killed
  | .collect p => (h.scriptOf p).held
  | .send _ => (h.responseFor t).held
  | _ => false

/-- The reply to an effect that has begun. -/
def answer (t : TaskId) : (w : StudioWait) → Host → w.Ans × Host
  | .pause, h => ((), h)
  | .read path, h => (reading path (h.disk.read h.here path), h)
  | .write path content, h => h.changing path (h.disk.write h.here path content)
  | .append path content, h => h.changing path (h.disk.append h.here path content)
  | .unlink path, h => h.changing path (h.disk.unlink h.here path)
  | .removeTree path, h => h.removeTree path
  | .list path, h => (reading path (h.disk.list h.here path), h)
  | .makeWorkspace root beginning, h => h.makeWorkspace root beginning
  | .attach p, h => ((h.scriptOf p).channels, h)
  | .line _, h => ((), h)
  | .exit p, h => ((h.scriptOf p).code, h.finish p)
  | .collect p, h => ((h.scriptOf p).collected, h.finish p)
  | .send _, h => ((h.responseFor t).reply, h)
  | .piece, h => ((), h)

/-- Begins an effect and answers it unless the reply is held. -/
def wait (t : TaskId) (w : StudioWait) (h : Host) : Option w.Ans × Host :=
  let h := h.begin t w
  if h.holds t w then (none, h)
  else
    let (v, h) := h.answer t w
    (some v, h)

/-- Replies to all effects of the studio. -/
def machine : Machine Studio where
  State := Host
  act := act
  wait := wait
  release := answer

end Host

end Montage
