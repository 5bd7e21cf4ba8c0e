import Mathlib.Tactic.Common
import Montage.Proofs.Command
import Montage.Proofs.Json.Equality
import Montage.Proofs.Json.RoundTrip
import Montage.Proofs.Studio.LocalRun
import Montage.Proofs.Worker.Rendering

/-!
# The worker renders what the engine would

An export runs on the local engine or on a worker, and the user is not to see a difference.

* **`worker_starts_as_engine`** — both come to start the same rendering of the same files.
-/

namespace Montage

open Scene

/-- **The worker renders what the local engine would.**  A timeline is submitted to a worker, its
files within the limit, and nothing of the form is lost on the way.  The worker accepts the form and
comes to start the program, and so does the local engine.  The arguments of both have one graph to
render, the serialized graph of the timeline (`filterGraphs`).  Their input files (`inputFiles`) are
the files of the timeline in the order of `Timeline.inputNames`, one for each clip and each image,
and the k-th of them holds the k-th payload by then: first the clips, then the images. -/
theorem worker_starts_as_engine {fresh : String} {payload : Json} {t : Timeline} {g : Graph}
    {payloads : Payloads} {f : RawForm} {settings settings' : Settings} {h h' : Host}
    {s s' : EngineState} {directory workspace : Path}
    (constructed : Timeline.ofPayload fresh payload = .ok t) (valid : t.validate = .ok ())
    (compiled : t.compile = .ok g) (fresh' : String)
    (clips : payloads.clips.length = t.clips.length)
    (images : payloads.images.length = t.images.length)
    (fits : (payloads.totalBytes : Int) ≤ settings.workerMaxUploadBytes)
    {submission : Submission} (made : Submission.ofTimeline t payloads = .ok submission)
    (parsed : Json.parse submission.metadata = .ok t.toMetadata) (carried : f.Carries submission)
    (ready : Worker.Ready settings h t directory)
    (engine : LocalBackend.Ready settings' h' s' t workspace) :
    (∃ form arguments, f.decode = .ok form
      ∧ arguments = commandArguments g (t.inputNames.map fun name => (directory.child name).text)
        (directory.child outputName).text (Worker.encoding settings)
      ∧ filterGraphs arguments = [g.serialize]
      ∧ inputFiles arguments = (t.inputNames.map directory.child).map Path.text
      ∧ Performance.Starts settings h s (answerForm settings fresh' form)
        (settings.ffmpeg :: arguments) directory (t.inputNames.map directory.child) payloads.files)
    ∧ (∃ arguments, arguments = commandArguments g t.inputNames outputName
        (LocalBackend.encoding settings')
      ∧ filterGraphs arguments = [g.serialize]
      ∧ inputFiles arguments = t.inputNames
      ∧ Performance.Starts settings' h' s' (LocalBackend.execute settings' g t payloads)
        (settings'.ffmpeg :: arguments) workspace (t.inputNames.map workspace.child)
        payloads.files)
    ∧ t.inputNames.length = t.clips.length + t.images.length := by
  have decoded := carried.decode made valid clips images
  have contents := carried.content_uploads made clips images
  obtain ⟨videos, pictures⟩ := Submission.contents_ofTimeline made clips images
  refine ⟨?_, ?_, t.length_inputNames⟩
  · have submitted : Worker.Submitted t ⟨f.videos.getD [], submission.metadata, t.canvasWidth,
        t.canvasHeight, f.images.getD []⟩ := by
      refine ⟨(Submission.exists_text_of_ofTimeline made).1, rfl, rfl, ?_, ?_⟩
      · rw [← clips, ← videos, ← carried.videos, List.length_map]
      · rw [← images, ← pictures, ← carried.images, List.length_map]
    have free : 0 < (studioProgram settings (List Binary64 × Exit WorkerReply)).capacity .worker :=
      Nat.lt_of_lt_of_le Nat.one_pos (Nat.le_max_left _ _)
    refine ⟨_, _, decoded, rfl, filterGraphs_commandArguments _ _ _ _, ?_, ?_⟩
    · rw [inputFiles_commandArguments, List.map_map]
      rfl
    · exact Performance.starts_of_scene (Worker.starts_answerForm
        (Timeline.wellFormed_of_payload constructed) valid compiled submitted parsed contents fits
        ready free fresh')
  · have base : t.clips ≠ [] := by
      intro none
      rw [Timeline.validate, none] at valid
      cases valid
    have free : 0 < (studioProgram settings' (List ProgressUpdate × Exit ByteArray)).capacity
        .engine := Nat.one_pos
    exact ⟨_, rfl, filterGraphs_commandArguments _ _ _ _, inputFiles_commandArguments _ _ _ _,
      Performance.starts_of_scene (LocalBackend.starts_execute engine base clips images free)⟩

/-! ## A sample -/

/-- A timeline of a clip and an image, its times being those that JSON has names for. -/
def Timeline.sampleEndless : Timeline where
  canvasWidth := 640
  canvasHeight := 360
  clips := [⟨"a", ⟨.infinite false, .nan⟩, "a.mp4", none, none, 0, 0⟩]
  images := [⟨"b", ⟨.infinite false, .nan⟩, "b.png", 60, 30, 320, 180⟩]
  texts := []

lemma Timeline.ofPayload_sampleEndless :
    ofPayload "" sampleEndless.payload = .ok sampleEndless := by decide +kernel

/-- A clip of two bytes and an image of one. -/
def Payloads.sample : Payloads := ⟨[ByteArray.mk #[1, 2]], [ByteArray.mk #[3]]⟩

/-- A directory, and one in it. -/
def Disk.sample : Disk :=
  { nodes := [(["work", "process-X"], .directory), (["work"], .directory)] }

/-- Settings under which requests get directories below a relative root. -/
def Settings.sample : Settings := { workerRoot := "work" }

/-- An engine whose workspace is the directory that a request would get. -/
def EngineState.sample : EngineState :=
  { phase := .loaded, workspace := some (.ofText "work/process-X") }

lemma Studio.takes_sample :
    Takes { disk := .sample } (.ofText "work/process-X") .sampleEndless := by
  have plain : ∀ name ∈ Timeline.sampleEndless.inputNames,
      Text.Alphabet.fileNames.problem? 0 (Text.codes
        ((Path.ofText "work/process-X").child name).text.toList) = none
      ∧ '\x00' ∉ ((Path.ofText "work/process-X").child name).text.toList := by decide +kernel
  have target : ∀ name ∈ Timeline.sampleEndless.inputNames,
      Disk.sample.target [] ((Path.ofText "work/process-X").child name)
        = .ok ["work", "process-X", name] := by decide +kernel
  exact ⟨fun name hn => pathFault?_eq_none (plain name hn).1 (plain name hn).2,
    fun name hn => ⟨_, Disk.hasRoom_iff.mpr (target name hn)⟩⟩

lemma Worker.ready_sample :
    Worker.Ready .sample {} .sampleEndless (.ofText "work/process-X") where
  root := Studio.pathFault?_eq_none (by decide +kernel) (by decide +kernel)
  unicode := by decide +kernel
  opens := ⟨{ nodes := [(["work"], .directory)] }, .sample, by decide +kernel, by decide +kernel,
    by decide +kernel, Studio.takes_sample⟩

lemma LocalBackend.ready_sample :
    LocalBackend.Ready .sample { disk := .sample } .sample .sampleEndless (.ofText "work/process-X")
    where
  loaded := rfl
  here := rfl
  prober := rfl
  takes := Studio.takes_sample

/-- What is submitted for the sample. -/
def Submission.sample : Submission where
  metadata := String.ofList (Json.valueWritten Json.spaced Timeline.sampleEndless.toMetadata)
  canvasWidth := "640"
  canvasHeight := "360"
  files := [⟨"videos", "a.mp4", ByteArray.mk #[1, 2], "video/mp4"⟩,
    ⟨"images", "b.png", ByteArray.mk #[3], "image/png"⟩]

lemma Submission.ofTimeline_sample :
    Submission.ofTimeline .sampleEndless .sample = .ok .sample := by decide +kernel

/-- The metadata of the sample is read as it was written, the endless times included. -/
lemma Submission.parse_sample :
    Json.parse Submission.sample.metadata = .ok Timeline.sampleEndless.toMetadata := by
  rw [Json.parse_of_write (exists_text_of_ofTimeline ofTimeline_sample).1]
  decide +kernel

/-- The form of the sample, in pieces. -/
def RawForm.sample : RawForm := Submission.sample.form

/-- A clip and an image whose times JSON has names for, on a worker and on an engine. -/
theorem worker_starts_as_engine_sample :
    Timeline.ofPayload "" Timeline.sampleEndless.payload = .ok .sampleEndless
      ∧ Timeline.sampleEndless.validate = .ok ()
      ∧ (Payloads.sample.totalBytes : Int) ≤ Settings.sample.workerMaxUploadBytes
      ∧ Submission.ofTimeline .sampleEndless .sample = .ok .sample
      ∧ Json.parse Submission.sample.metadata = .ok Timeline.sampleEndless.toMetadata
      ∧ ∃ g, Timeline.sampleEndless.compile = .ok g
        ∧ (∃ form arguments, RawForm.sample.decode = .ok form
          ∧ filterGraphs arguments = [g.serialize]
          ∧ inputFiles arguments = ["work/process-X/input0.mp4", "work/process-X/image0.png"]
          ∧ Performance.Starts .sample {} {} (answerForm .sample "" form) ("ffmpeg" :: arguments)
            (.ofText "work/process-X")
            [.ofText "work/process-X/input0.mp4", .ofText "work/process-X/image0.png"]
            [ByteArray.mk #[1, 2], ByteArray.mk #[3]])
        ∧ ∃ arguments, filterGraphs arguments = [g.serialize]
          ∧ inputFiles arguments = ["input0.mp4", "image0.png"]
          ∧ Performance.Starts .sample { disk := .sample } .sample
            (LocalBackend.execute .sample g .sampleEndless .sample) ("ffmpeg" :: arguments)
            (.ofText "work/process-X")
            [.ofText "work/process-X/input0.mp4", .ofText "work/process-X/image0.png"]
            [ByteArray.mk #[1, 2], ByteArray.mk #[3]] := by
  have constructed := Timeline.ofPayload_sampleEndless
  have valid : Timeline.sampleEndless.validate = .ok () := rfl
  have fits : (Payloads.sample.totalBytes : Int) ≤ Settings.sample.workerMaxUploadBytes := by
    decide
  have made := Submission.ofTimeline_sample
  have parsed := Submission.parse_sample
  obtain ⟨g, compiled⟩ := exists_of_isOk
    (show (Timeline.sampleEndless.compile).isOk = true by decide +kernel)
  have carried : RawForm.sample.Carries .sample := Submission.carries_form _
  obtain ⟨⟨form, sent, decoded, -, rendered, read, remote⟩, ⟨given, -, rendered', read', here⟩, -⟩ :=
    worker_starts_as_engine (s := {}) constructed valid compiled "" rfl rfl fits made parsed carried
      Worker.ready_sample LocalBackend.ready_sample
  have paths : Timeline.sampleEndless.inputNames.map (Path.ofText "work/process-X").child
        = [.ofText "work/process-X/input0.mp4", .ofText "work/process-X/image0.png"]
      ∧ (Timeline.sampleEndless.inputNames.map (Path.ofText "work/process-X").child).map Path.text
        = ["work/process-X/input0.mp4", "work/process-X/image0.png"]
      ∧ Timeline.sampleEndless.inputNames = ["input0.mp4", "image0.png"] := by
    decide +kernel
  rw [paths.2.1] at read
  rw [paths.1] at remote here
  rw [paths.2.2] at read'
  exact ⟨constructed, valid, fits, made, parsed, g, compiled,
    ⟨form, sent, decoded, rendered, read, remote⟩, given, rendered', read', here⟩

end Montage
