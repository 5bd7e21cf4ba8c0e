import Montage.Studio.Http
import Montage.Studio.LocalBackend

/-!
# Classification

Before it is decided where an export runs, all its files are read, **each as often as the timeline
names it, one after the other**.  A file that cannot be read ends the export; it does not count as
empty.

* `fetchFile` — the content that a reference stands for.
* `classify` — all contents in the order of the timeline, with progress.
-/

namespace Montage.Classification

open LocalBackend (report partPercent)

/-- The content that a reference stands for: what is behind an address (`Http.fetch`), or else what
a file holds, whose path is what `Reference.toPath` makes of the reference. -/
def fetchFile (follow : Bool) (source : String) : StudioRoutine ByteArray := do
  if Reference.isRemote source then Http.fetch follow source
  else Studio.readFile (← Routine.ofFault (Reference.toPath source))

/-- Whether a fault means that a file could not be read, so that it becomes a failure of the
classification.  Any other fault is passed on as it is and ends the run as an unforeseen one. -/
def isUnreadable : Fault → Bool
  | .os _ => true
  | .http p _ => p.isTransport || p = .invalidAddress
  | .embeddedNull => true
  | .unbalancedBrackets => true
  | .badFutureHost => true
  | .bracketedIpv4 => true
  | .badHost _ => true
  | .disguisedSeparator _ => true
  | .badName _ => true
  | .unknownAddress _ => true
  | .unencodable _ => true
  | _ => false

/-- A file that cannot be read (`isUnreadable`) is a failure of the classification, which names the
reference that was asked for. -/
def readingExpected (source : String) (r : StudioRoutine ByteArray) : StudioRoutine ByteArray :=
  r.handle fun
    | .failed (.unexpected f) =>
      if isUnreadable f then Routine.refuse (.classification source f) else Routine.broken f
    | x => .done x

/-- Reads files one after the other, numbered from `index` on, of `total` altogether.  Each is
reported before it is read, so that the first report comes before the first wait; with the first
file that cannot be read the others are not tried. -/
def readAll (follow : Bool) (total index : Nat) :
    List String → NotingRoutine ProgressUpdate (List ByteArray)
  | [] => pure []
  | source :: rest => do
    report .classifying (partPercent index total) "Checking file size..."
    let content ← Routine.lift (readingExpected source (fetchFile follow source))
    let more ← readAll follow total (index + 1) rest
    return content :: more

/-- The contents of all files of a timeline, the clips first and then the images, each in their
order (`Timeline.sources`).  `follow` says whether redirects are followed. -/
def classify (follow : Bool) (t : Timeline) : NotingRoutine ProgressUpdate Payloads := do
  let files ← readAll follow t.sources.length 0 t.sources
  let payloads := Payloads.ofFiles t.clips.length files
  report .classifying 100 s!"Total size {payloads.sizeText}MB"
  return payloads

end Montage.Classification
