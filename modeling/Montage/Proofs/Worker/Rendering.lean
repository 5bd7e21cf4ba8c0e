import Mathlib.Tactic.Common
import Montage.Proofs.Studio.Starting
import Montage.Proofs.Timeline.Metadata
import Montage.Proofs.Worker.Form

/-!
# What the worker renders

A worker stores the files of a form, makes the timeline again from the metadata, and compiles it.

* `Worker.graphOf_eq` — **the graph of a submitted timeline is the graph of the timeline**.
* `Worker.Ready` — surroundings in which a request goes on until the program is started.
* `Worker.starts_answerForm` — the command that is started then, and the files it finds.
-/

namespace Montage

open Scene

namespace Worker

variable {settings : Settings} {t : Timeline} {g : Graph} {f : Form} {directory : Path}

/-! ## The graph -/

/-- A form that was decoded from the submission of a timeline. -/
structure Submitted (t : Timeline) (f : Form) : Prop where
  metadata : t.toMetadata.write = .ok f.metadata
  canvasWidth : f.canvasWidth = t.canvasWidth
  canvasHeight : f.canvasHeight = t.canvasHeight
  videos : f.videos.length = t.clips.length
  images : f.images.length = t.images.length

/-- The files are stored under the names that the local engine gives them. -/
lemma Submitted.paths (h : Submitted t f) :
    clipPaths directory f ++ imagePaths directory f = t.inputNames.map directory.child := by
  simp [clipPaths, imagePaths, Timeline.inputNames, fileNames, Function.comp_def, h.videos,
    h.images]

lemma metadataOf_toMetadata {text : String} (parsed : Json.parse text = .ok t.toMetadata) :
    metadataOf text = .ok t.toMetadata := by
  rw [metadataOf, parsed]
  rfl

/-- **The graph of a submitted timeline is the graph of the timeline.** -/
lemma graphOf_eq (h : Submitted t f) (wellFormed : t.WellFormed) (valid : t.validate = .ok ())
    (compiled : t.compile = .ok g) (parsed : Json.parse f.metadata = .ok t.toMetadata)
    (references : ∀ name ∈ t.inputNames, IsReference (directory.child name).text)
    (fresh : String) : graphOf fresh directory f = .ok g := by
  have clips : ((clipPaths directory f).map Path.text).length = t.clips.length := by
    simp [clipPaths, h.videos]
  have images : ((imagePaths directory f).map Path.text).length = t.images.length := by
    simp [imagePaths, h.images]
  have sources : ∀ source ∈ (clipPaths directory f).map Path.text
      ++ (imagePaths directory f).map Path.text, IsReference source := by
    rw [← List.map_append, h.paths, List.map_map]
    intro source hs
    obtain ⟨name, hn, rfl⟩ := List.mem_map.mp hs
    exact references name hn
  have decoded := Timeline.ofMetadata_of_wellFormed wellFormed fresh clips images sources
  rw [← h.canvasWidth, ← h.canvasHeight] at decoded
  refine bind_eq_ok.mpr ⟨t.toMetadata, ?_, bind_eq_ok.mpr ⟨_, decoded,
    bind_eq_ok.mpr ⟨(), ?_, ?_⟩⟩⟩
  · exact metadataOf_toMetadata parsed
  · rw [Timeline.validate_movedTo _ clips, valid]
    rfl
  · rw [Timeline.compile_movedTo clips images, compiled]

/-! ## The run -/

/-- Surroundings in which a directory for a request can be made, with a path that is Unicode text,
and takes the files of a timeline. -/
structure Ready (settings : Settings) (h : Host) (t : Timeline) (directory : Path) : Prop where
  root : Studio.pathFault? (.ofText settings.workerRoot) = none
  unicode : ∀ name ∈ t.inputNames, Text.hasHalf (directory.child name).text = false
  opens : ∃ rooted made, h.disk.makeDirectories h.here (.ofText settings.workerRoot) = .ok rooted
    ∧ (h.onDisk rooted).freshPath (.ofText settings.workerRoot) directoryBeginning
      (rooted.nodes.length + 1) = directory
    ∧ rooted.makeDirectory h.here directory = .ok made
    ∧ Studio.Takes (h.onDisk made) directory t

variable {h : Host} {s : EngineState} {i capacity : StudioGate → Nat}

/-- Once the files are stored nothing but a place behind the gate stands before the program. -/
lemma starts_render {paths : List Path} {contents : List ByteArray}
    (free : i .worker < capacity .worker) {fresh : String}
    (graph : graphOf fresh directory f = .ok g) (found : h.Finds paths contents) :
    Starts capacity ⟨h, s, i, render settings fresh directory f⟩
      (settings.ffmpeg :: arguments settings directory f g) directory paths contents := by
  have routine : render settings fresh directory f
      = (Routine.within (E := Studio.noting Binary64) .worker
          (Tool.run settings.ffmpeg (arguments settings directory f g) (some directory) none)).bind
        fun _ => (Routine.lift (Studio.readFile (directory.child outputName))).bind fun content =>
          pure (.video content) := by
    unfold render
    rw [graph]
    rfl
  rw [routine]
  have behind : Starts capacity ⟨h, s, occupy (E := Studio) i .worker, Tool.run settings.ffmpeg
      (arguments settings directory f g) (some directory) none⟩ _ directory paths contents :=
    Tool.starts_run found settings.ffmpeg (arguments settings directory f g) directory none
  exact (behind.within free).handle _

/-- The files of a form are stored, and rendered as the timeline would be. -/
lemma starts_work {payloads : Payloads} (submitted : Submitted t f)
    (carried : f.uploads.map Upload.content = payloads.files)
    (fits : (payloads.totalBytes : Int) ≤ settings.workerMaxUploadBytes)
    (takes : Studio.Takes h directory t) (free : i .worker < capacity .worker) {fresh : String}
    (graph : graphOf fresh directory f = .ok g) :
    Starts capacity ⟨h, s, i, work settings fresh directory f⟩
      (settings.ffmpeg :: arguments settings directory f g) directory
      (t.inputNames.map directory.child) payloads.files := by
  have length : payloads.files.length = t.inputNames.length := by
    rw [← carried, List.length_map, Form.uploads, List.length_append, submitted.videos,
      submitted.images, Timeline.inputNames, fileNames, List.length_append]
    simp
  obtain ⟨slots, paths, contents, opened, encodable⟩ := takes.exists_slots length
  have size : (totalSize (slots.map Slot.content) : Int) ≤ settings.workerMaxUploadBytes := by
    rw [contents, Payloads.files, totalSize_append]
    exact fits
  have stored : Reaches Host.machine capacity ⟨h, s, i, storeAll settings.workerMaxUploadBytes
      ((slots.map Slot.path).zip f.uploads)⟩ _ :=
    reaches_storeAll encodable (carried.trans contents.symm) opened size
  rw [paths, ← submitted.paths] at stored
  have found := opened.read_fill
  rw [paths, contents] at found
  exact stored.lift_starts (starts_render free graph found)

/-- **The command of the worker**: the graph of the timeline, and the payloads as input files. -/
lemma starts_answerForm {payloads : Payloads} (wellFormed : t.WellFormed)
    (valid : t.validate = .ok ()) (compiled : t.compile = .ok g)
    (submitted : Submitted t f) (parsed : Json.parse f.metadata = .ok t.toMetadata)
    (carried : f.uploads.map Upload.content = payloads.files)
    (fits : (payloads.totalBytes : Int) ≤ settings.workerMaxUploadBytes)
    (ready : Ready settings h t directory) (free : i .worker < capacity .worker)
    (fresh : String) :
    Starts capacity ⟨h, s, i, answerForm settings fresh f⟩
      (settings.ffmpeg :: commandArguments g
        (t.inputNames.map fun name => (directory.child name).text)
        (directory.child outputName).text (encoding settings))
      directory (t.inputNames.map directory.child) payloads.files := by
  obtain ⟨rooted, made, roots, names, makes, takes⟩ := ready.opens
  have references : ∀ name ∈ t.inputNames, IsReference (directory.child name).text := by
    intro name hn
    exact ⟨Path.text_child_ne_empty (isName_of_mem_fileNames hn) directory, ready.unicode name hn⟩
  have graph := graphOf_eq submitted wellFormed valid compiled parsed references fresh
  have working := starts_work (s := s) submitted carried fits takes free graph
  rw [arguments, submitted.paths, List.map_map] at working
  have answered : Starts capacity ⟨h.onDisk made, s, i,
      (answering (work settings fresh directory f)).ensuring (Routine.lift (clear directory f))⟩
      _ directory _ _ := (working.handle _).handle _
  exact (Studio.reaches_makeDirectories ready.root roots).lift_starts
    ((Studio.reaches_makeTemporary ready.root names makes).lift_starts answered)

end Worker

end Montage
