import Montage.Command
import Montage.Progress.Tracker
import Montage.Studio.Engine

/-!
# Exports on the local engine

The files of an export are written to the engine's workspace, rendered there, and the result is read
back.  Exports on the same engine take their turns.

* `LocalBackend.execute` — the whole export; a problem with the files is a failure of the execution.
* `LocalBackend.cleanup` — empties the workspace.
-/

namespace Montage.LocalBackend

/-- How far an export is, as a note. -/
def report (phase : Phase) (progress : Binary64) (message : String) :
    NotingRoutine ProgressUpdate Unit :=
  Routine.note ⟨phase, progress, message⟩

/-- Part of a whole, in percent.  No whole is zero where this is used. -/
def partPercent (part whole : Nat) : Binary64 := Binary64.ofRatio part whole * 100

/-- What is said about the file with a given number: the clips come first, then the images. -/
def fileMessage (clips index : Nat) : String :=
  if index < clips then "Loading video files..." else "Loading images..."

/-- Writes files under their names, numbered from `index` on, of `total` altogether, and reports
each one once it is written. -/
def storeFiles (clips total index : Nat) :
    List (String × ByteArray) → NotingRoutine ProgressUpdate Unit
  | [] => pure ()
  | (name, content) :: rest => do
    Routine.lift (Engine.writeFile name content)
    report .preparing (partPercent (index + 1) total) (fileMessage clips index)
    storeFiles clips total (index + 1) rest

/-- The duration to measure progress against: as probed, or else as the timeline says.  A probed
duration of zero is as good as none. -/
def durationOf (probed : Option Binary64) (t : Timeline) : Binary64 :=
  match probed with
  | some d => if d.isZero then t.latestFinish else d
  | none => t.latestFinish

/-- How the local engine renders.  Unlike the worker (`Worker.encoding`) it tells how far it is. -/
def encoding (settings : Settings) : Encoding :=
  { preset := settings.videoPreset, crf := settings.crf, audioBitrate := settings.audioBitrate
    reportProgress := true }

/-- The progress of a rendering as the progress of an export; the message shows it without its
fraction. -/
def renderingUpdate (percent : Binary64) : ProgressUpdate :=
  ⟨.processing, percent, s!"Processing... {percent.nearestInt}%"⟩

/-- A problem with the files is a failure of the execution.  This is done inside of
`Engine.session`, so a problem of its final purge is not among them. -/
def filesExpected {α : Type} (r : NotingRoutine ProgressUpdate α) :
    NotingRoutine ProgressUpdate α :=
  r.handle fun
    | .failed (.unexpected (.os e)) => Routine.refuse (.execution (.workspace e))
    | x => .done x

/-- What is done while the workspace is this export's own: the files are stored, the first is
probed, the graph is rendered and its output is read. -/
def render (settings : Settings) (g : Graph) (t : Timeline) (payloads : Payloads) :
    NotingRoutine ProgressUpdate ByteArray := do
  let names := t.inputNames
  storeFiles payloads.clips.length names.length 0 (names.zip payloads.files)
  let probed ← Routine.lift (Engine.duration? settings (names.headD ""))
  let arguments := commandArguments g names outputName (encoding settings)
  report .processing 0 "Processing video..."
  Routine.relay renderingUpdate (Engine.render settings arguments (some (durationOf probed t)))
  report .finalizing 0 "Reading output..."
  Routine.lift (Engine.readFile outputName)

/-- A whole export on the local engine.  The counts are compared first, since files are matched with
streams by their order alone; then the engine is loaded, if it has to be, and the rest happens in a
`Engine.session`. -/
def execute (settings : Settings) (g : Graph) (t : Timeline) (payloads : Payloads) :
    NotingRoutine ProgressUpdate ByteArray := do
  if payloads.clips.length ≠ t.clips.length ∨ payloads.images.length ≠ t.images.length then
    Routine.refuse (.execution .payloadCount)
  report .preparing 0 "Loading FFmpeg..."
  Routine.lift Engine.load
  let output ← Engine.session (filesExpected (render settings g t payloads))
  report .finalizing 100 "Complete!"
  return output

/-- Empties the workspace, after whoever is working there (`Engine.purgeExclusive`); the session of
the export has done so already, unless it was broken off. -/
def cleanup : StudioRoutine Unit := do
  let _ ← Engine.purgeExclusive

end Montage.LocalBackend
