import Montage.Progress.Report
import Montage.Studio.Interface

/-!
# Running programs

* `Tool.run` — a rendering from start to end, its progress noted: **only new maxima are noted**,
  and whoever is cancelled kills the program and waits for its end.
* `Tool.version` — the first line of what a program says about itself.
* `Tool.duration?` — how long a video is; a probe that fails in any way says nothing.
-/

namespace Montage.Tool

/-! ## Starting and stopping -/

/-- Waits until a program has ended, killing it first if it is still running.  It is done for
whoever was cancelled, so that no program goes on that nobody listens to. -/
def stop (p : ProcessId) : StudioRoutine Unit := do
  if ← Studio.isRunning p then
    Studio.kill p
    let _ ← Studio.exitOf p

/-- Does something with a running program; who is cancelled meanwhile stops it (`stop`).  Any other
end, a failure too, leaves the program alone. -/
def guarding {N α : Type} (p : ProcessId) (r : NotingRoutine N α) : NotingRoutine N α :=
  r.handle fun
    | .cancelled => (Routine.lift (stop p)).bind fun _ => .done .cancelled
    | x => .done x

/-- Connects to a program that has started; who is cancelled meanwhile stops it.  Connecting is a
wait of its own, so a program may be running that nobody has heard of yet. -/
def attach (p : ProcessId) : StudioRoutine Channels :=
  (Studio.attach p).handle fun
    | .cancelled => (stop p).bind fun _ => .done .cancelled
    | x => .done x

/-! ## Rendering -/

/-- How many lines of error output are kept; the last ones say why a program has failed. -/
def tailLength : Nat := 40

/-- What is told where a program has failed without a word on its error output. -/
def noErrorOutput : String := "No error output"

/-- A line as it is kept: what is no character is replaced, and the blanks at its end are
dropped. -/
def keptLine (line : ByteArray) : String := String.ofList (Text.trimEnd (Text.lossyChars line))

/-- What is kept of the error output: its last lines (`tailLength`), or a text that says there are
none. -/
def diagnostics (errors : List ByteArray) : String :=
  let kept := errors.drop (errors.length - tailLength)
  let text := "\n".intercalate (kept.map keptLine)
  if text = "" then noErrorOutput else text

/-- A line may be so many bytes long, its line feed not counted.  It is the default of the stream
that lines are read from. -/
def lineLimit : Nat := 65536

/-- What is wrong with a line that is too long (`lineLimit`).  The words differ for a line whose end
has not come yet. -/
def overrun? (line : ByteArray) : Option Fault :=
  let complete := line.toList.getLast? = some 0x0A
  let length := if complete then line.size - 1 else line.size
  if lineLimit < length then some (.overlongLine complete) else none

/-- Waits for one more line and takes it; a line that is too long (`overrun?`) breaks the
reading. -/
def takeLine (p : ProcessId) (line : ByteArray) : StudioRoutine Unit := do
  Studio.nextLine p
  match overrun? line with
  | some f => Routine.broken f
  | none => pure ()

/-- Reads the output line by line and notes every new maximum (`Report.newMaximum?`).  Without a
duration there is nothing to note, but the lines are read all the same. -/
def followOutput (p : ProcessId) (duration : Option Binary64) (last : Binary64) :
    List ByteArray → NotingRoutine Binary64 Unit
  | [] => pure ()
  | line :: rest => do
    Routine.lift (takeLine p line)
    match duration with
    | none => followOutput p duration last rest
    | some d =>
      match ← Routine.ofFault (Report.newMaximum? d last line) with
      | none => followOutput p duration last rest
      | some percent =>
        Routine.note percent
        followOutput p duration percent rest

/-- Reads the error output line by line; what it says is told by `diagnostics` once the program has
ended. -/
def followErrors (p : ProcessId) (errors : List ByteArray) : StudioRoutine Unit :=
  Routine.forEach errors (takeLine p)

/-- The duration that progress is measured against, if there is any; zero is none. -/
def measurable : Option Binary64 → Option Binary64
  | some d => if d.isZero then none else some d
  | none => none

/-- Runs a rendering from start to end and notes its progress.

The two streams of a program are read at the same time.  Here the output is read to its end first
and the error output after it, each line being a place where a cancellation can come in.  This makes
no difference to what is noted, since notes come from the output alone; nor to how the rendering
ends, since that depends on the lines and on the exit code and not on when they come.  The exception
is a program of which **both** streams break: it is then the fault of the output that is told.
Where the error output breaks, the rendering may have ended before the last of the notes that stand
here. -/
def run (binary : String) (arguments : List String) (directory : Option Path)
    (duration : Option Binary64) : NotingRoutine Binary64 Unit := do
  match ← Studio.spawn (binary :: arguments) directory with
  | .error (.os e) =>
    if e.number = OsError.notFoundNumber then
      Routine.refuse (.engineLoad (.notFound binary (.os e)))
    else Routine.broken (.os e)
  | .error p => Routine.broken p.fault
  | .ok p =>
    let channels ← Routine.lift (attach p)
    let code ← guarding p do
      followOutput p (measurable duration) 0 channels.output
      Routine.lift (followErrors p channels.errors)
      Routine.lift (Studio.exitOf p)
    if code ≠ 0 then Routine.refuse (.execution (.exitCode code (diagnostics channels.errors)))

/-! ## Probing -/

/-- Runs a program to its end and collects what it wrote.  That it could not be started is an answer
and not a failure, so each caller has its own words for it. -/
def collect (command : List String) : StudioRoutine (Except SpawnProblem Collected) := do
  match ← Studio.spawn command none with
  | .error e => return .error e
  | .ok p =>
    let _ ← attach p
    return .ok (← Studio.collect p)

/-- What is told where an engine has failed without a word. -/
def unknownError : String := "unknown error"

/-- The text of some output without the blanks around it, its characters replaced where they are
none. -/
def trimmed (output : ByteArray) : String := String.ofList (Text.trim (Text.lossyChars output))

/-- The first line of what a program says about itself; its own name if it says nothing.  It is how
the engine finds out whether the program is there (`Engine.loadOnce`). -/
def version (binary : String) : StudioRoutine String := do
  match ← collect [binary, "-version"] with
  | .error (.os e) => Routine.refuse (.engineLoad (.notStarted (.os e)))
  | .error p => Routine.broken p.fault
  | .ok c =>
    if c.code ≠ 0 then
      let reason := trimmed c.errors
      Routine.refuse (.engineLoad (.exited (if reason = "" then unknownError else reason)))
    else
      return match Text.lines (Text.lossyChars c.output) with
        | [] => binary
        | first :: _ => String.ofList first

/-- The arguments of a probe for the duration; it writes one number and nothing else. -/
def probeArguments (path : String) : List String :=
  ["-v", "error", "-show_entries", "format=duration", "-of",
    "default=noprint_wrappers=1:nokey=1", path]

/-- The duration that a probe has written, if it ended well and wrote a number. -/
def durationOf? (c : Collected) : Option Binary64 :=
  if c.code ≠ 0 then none else Text.Numeral.number? (Text.trim (Text.lossyChars c.output))

/-- How long a video is, if the prober can be started and can tell.  Only an argument that cannot be
handed over is a fault. -/
def duration? (binary : String) (path : Path) : StudioRoutine (Option Binary64) := do
  match ← collect (binary :: probeArguments path.text) with
  | .error (.os _) => return none
  | .error p => Routine.broken p.fault
  | .ok c => return durationOf? c

end Montage.Tool
