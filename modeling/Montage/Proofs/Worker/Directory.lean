import Mathlib.Tactic.Common
import Montage.Proofs.Disk.Children
import Montage.Proofs.Disk.Names
import Montage.Proofs.Worker.Agreement

/-!
# Where the worker's paths lead

The worker stores the files of a request in a directory of its own and runs the program **in that
directory**, but it hands over the same texts that it uses itself.  A relative text is read twice
then: once from where the worker is, and once from the directory.

* `Worker.map_text_files` — the arguments of the program name the files of the request.
* **`Worker.paths_lead`** — with an absolute root every path leads to its file; with a relative one
  that does not go up none does.
* `Worker.relative_root_misleads` — a run whose paths lead nowhere.
-/

namespace Montage

/-! ## The paths of a request -/

namespace Worker

variable {directory : Path} {f : Form} {p : Path}

/-- The files of a request: those that are stored, and the video. -/
def files (directory : Path) (f : Form) : List Path :=
  clipPaths directory f ++ imagePaths directory f ++ [directory.child outputName]

/-- Every file of a request has a name in its directory. -/
lemma exists_name_of_mem_files (h : p ∈ files directory f) :
    ∃ name, Path.IsName name ∧ p = directory.child name := by
  have numbered : ∀ clips images, ∀ name ∈ fileNames clips images, p = directory.child name →
      ∃ name, Path.IsName name ∧ p = directory.child name :=
    fun _ _ name hn same => ⟨name, isName_of_mem_fileNames hn, same⟩
  rw [files, List.mem_append, List.mem_append, List.mem_singleton] at h
  rcases h with (h | h) | h
  · obtain ⟨i, hi, rfl⟩ := List.mem_map.mp h
    exact numbered f.videos.length 0 _ (List.mem_append_left _ (List.mem_map_of_mem hi)) rfl
  · obtain ⟨i, hi, rfl⟩ := List.mem_map.mp h
    exact numbered 0 f.images.length _ (List.mem_append_right _ (List.mem_map_of_mem hi)) rfl
  · exact ⟨outputName, ⟨by decide, by decide, by decide, List.forall_mem_ne'.mpr (by decide)⟩, h⟩

/-- **The command names the files of the request**, each by its text: its input files are those that
are stored, in order, and it ends with the video. -/
theorem map_text_files (settings : Settings) (directory : Path) (f : Form) (g : Graph) :
    (files directory f).map Path.text = inputFiles (arguments settings directory f g)
      ++ (arguments settings directory f g).getLast?.toList := by
  rw [arguments, inputFiles_commandArguments, getLast?_commandArguments, files, List.map_append]
  rfl

/-- **Where the paths of a request lead.**  The directory of a request lies below the root that is
set.  Every file of the request is an argument of the program: an input file, or the result.  If the
worker finds the file in one place, then a program that runs in the directory finds it there, under
the text that it is given, exactly when the directory leads to itself.  With an absolute root that
is so; with a relative root that does not go up it is not. -/
theorem paths_lead {settings : Settings} {name : String} (isName : Path.IsName name)
    (below : directory = (Path.ofText settings.workerRoot).child name) {d : Disk}
    {here place file : Place} (leads : d.resolve here directory = .ok place)
    (mem : p ∈ files directory f) (saved : d.resolve here p = .ok file) :
    (∀ g, p.text ∈ inputFiles (arguments settings directory f g)
        ∨ (arguments settings directory f g).getLast? = some p.text)
      ∧ (d.resolve place (Path.ofText p.text) = .ok file ↔ d.resolve place directory = .ok place)
      ∧ ((Path.ofText settings.workerRoot).isAbsolute = true →
          d.resolve place (Path.ofText p.text) = .ok file)
      ∧ ((Path.ofText settings.workerRoot).isAbsolute = false →
          ".." ∉ (Path.ofText settings.workerRoot).parts →
          d.resolve place (Path.ofText p.text) ≠ .ok file) := by
  have named : ∀ g, p.text ∈ inputFiles (arguments settings directory f g)
      ∨ (arguments settings directory f g).getLast? = some p.text := by
    intro g
    have listed := List.mem_map_of_mem (f := Path.text) mem
    rw [map_text_files settings directory f g, List.mem_append, Option.mem_toList] at listed
    exact listed
  obtain ⟨own, isOwn, rfl⟩ := exists_name_of_mem_files mem
  have parts : directory.parts = (Path.ofText settings.workerRoot).parts ++ [name] := by
    rw [below, Path.child_eq isName]
  have root : directory.isAbsolute = (Path.ofText settings.workerRoot).isAbsolute := by
    rw [below, Path.child_eq isName]
    rfl
  have read : Path.ofText (directory.child own).text = directory.child own := by
    rw [Path.child_eq isOwn]
    refine Path.ofText_text (by simp) ?_
    rw [parts]
    simp only [List.forall_mem_append, List.forall_mem_singleton]
    exact ⟨⟨fun _ => Path.isPart_of_mem_ofText, isName.isPart⟩, isOwn.isPart⟩
  have found := Disk.resolve_child_iff isOwn leads saved
  rw [read]
  refine ⟨named, found, fun absolute => ?_, fun relative down => ?_⟩
  · rw [found, Disk.resolve_absolute (root.trans absolute) place]
    exact leads
  · rw [ne_eq, found]
    refine Disk.resolve_again_ne (root.trans relative) ?_ (by simp [parts])
    rw [parts, List.mem_append, List.mem_singleton]
    exact fun up => up.elim down fun same => isName.notUp same.symm

/-! ### Runs -/

lemma isName_sample : Path.IsName "process-X" :=
  ⟨by decide, by decide, by decide, List.forall_mem_ne'.mpr (by decide)⟩

/-- A form with the files of the sample. -/
def formSample : Form where
  videos := [.ofContent (ByteArray.mk #[1, 2])]
  metadata := Submission.sample.metadata
  canvasWidth := 640
  canvasHeight := 360
  images := [.ofContent (ByteArray.mk #[3])]

/-- The clip, the image and the video of a request, below a relative root and below an absolute
one. -/
theorem paths_lead_sample :
    (files (.ofText "work/process-X") formSample).map Path.name
        = ["input0.mp4", "image0.png", "output.mp4"]
      ∧ ∀ name ∈ ["input0.mp4", "image0.png", "output.mp4"],
          Disk.sample.resolve ["work", "process-X"] (.ofText ("work/process-X/" ++ name))
              ≠ .ok ["work", "process-X", name]
            ∧ Disk.sample.resolve ["work", "process-X"] (.ofText ("/work/process-X/" ++ name))
              = .ok ["work", "process-X", name] := by
  have listed : ∀ directory : Path, (files directory formSample)
      = ["input0.mp4", "image0.png", "output.mp4"].map directory.child := fun directory => rfl
  have below : Path.ofText "work/process-X"
        = (Path.ofText Settings.sample.workerRoot).child "process-X"
      ∧ Path.ofText "/work/process-X"
        = (Path.ofText { Settings.sample with workerRoot := "/work" }.workerRoot).child
          "process-X" := by decide +kernel
  have leads : Disk.sample.resolve [] (.ofText "work/process-X") = .ok ["work", "process-X"]
      ∧ Disk.sample.resolve [] (.ofText "/work/process-X") = .ok ["work", "process-X"] := by
    decide +kernel
  have saved : ∀ name ∈ ["input0.mp4", "image0.png", "output.mp4"],
      Disk.sample.resolve [] ((Path.ofText "work/process-X").child name)
          = .ok ["work", "process-X", name]
        ∧ Disk.sample.resolve [] ((Path.ofText "/work/process-X").child name)
          = .ok ["work", "process-X", name]
        ∧ ((Path.ofText "work/process-X").child name).text = "work/process-X/" ++ name
        ∧ ((Path.ofText "/work/process-X").child name).text = "/work/process-X/" ++ name := by
    decide +kernel
  have mem : ∀ directory : Path, ∀ name ∈ ["input0.mp4", "image0.png", "output.mp4"],
      directory.child name ∈ files directory formSample := by
    intro directory name hn
    rw [listed]
    exact List.mem_map_of_mem hn
  refine ⟨by decide +kernel, fun name hn => ?_⟩
  obtain ⟨relative, absolute, text, text'⟩ := saved name hn
  rw [← text, ← text']
  exact ⟨(paths_lead isName_sample below.1 leads.1 (mem _ name hn) relative).2.2.2
      (by decide +kernel) (by decide +kernel),
    (paths_lead isName_sample below.2 leads.2 (mem _ name hn) absolute).2.2.1
      (by decide +kernel)⟩

/-- **A run whose paths lead nowhere.**  The root is relative.  The worker stores the files and will
read the video in the directory of the request; the program is started in that directory, and from
there the texts that it is given lead nowhere. -/
theorem relative_root_misleads :
    ∃ g, Timeline.sampleEndless.compile = .ok g
      ∧ Performance.Starts .sample {} {} (answerForm .sample "" formSample)
          ("ffmpeg" :: commandArguments g
            ["work/process-X/input0.mp4", "work/process-X/image0.png"]
            "work/process-X/output.mp4" (encoding .sample))
          (.ofText "work/process-X")
          [.ofText "work/process-X/input0.mp4", .ofText "work/process-X/image0.png"]
          [ByteArray.mk #[1, 2], ByteArray.mk #[3]]
      ∧ Disk.sample.resolve [] (.ofText "work/process-X") = .ok ["work", "process-X"]
      ∧ ∀ name ∈ ["input0.mp4", "image0.png", "output.mp4"],
          Disk.sample.resolve [] (.ofText ("work/process-X/" ++ name))
            = .ok ["work", "process-X", name]
          ∧ Disk.sample.resolve ["work", "process-X"] (.ofText ("work/process-X/" ++ name))
            = .error .notFound := by
  obtain ⟨g, compiled⟩ := exists_of_isOk
    (show Timeline.sampleEndless.compile.isOk = true by decide +kernel)
  have wellFormed := Timeline.wellFormed_of_payload Timeline.ofPayload_sampleEndless
  have valid : Timeline.sampleEndless.validate = .ok () := by decide +kernel
  have fits : (Payloads.sample.totalBytes : Int) ≤ Settings.sample.workerMaxUploadBytes := by
    decide +kernel
  have submitted : Submitted .sampleEndless formSample :=
    ⟨(Submission.exists_text_of_ofTimeline Submission.ofTimeline_sample).1, rfl, rfl, rfl, rfl⟩
  have carried : formSample.uploads.map Upload.content = Payloads.sample.files := by
    simp [Form.uploads, formSample, Upload.content_ofContent, Payloads.files, Payloads.sample]
  have free : 0 < (studioProgram .sample (List Binary64 × Exit WorkerReply)).capacity .worker :=
    Nat.lt_of_lt_of_le Nat.one_pos (Nat.le_max_left _ _)
  have starts := Performance.starts_of_scene (starts_answerForm (s := {}) wellFormed valid compiled
    submitted Submission.parse_sample carried fits ready_sample free "")
  have texts : (Timeline.sampleEndless.inputNames.map fun name =>
      ((Path.ofText "work/process-X").child name).text)
        = ["work/process-X/input0.mp4", "work/process-X/image0.png"] := by decide +kernel
  have paths : Timeline.sampleEndless.inputNames.map (Path.ofText "work/process-X").child
      = [.ofText "work/process-X/input0.mp4", .ofText "work/process-X/image0.png"] := by
    decide +kernel
  have output : ((Path.ofText "work/process-X").child outputName).text
      = "work/process-X/output.mp4" := by decide +kernel
  rw [texts, paths, output] at starts
  exact ⟨g, compiled, starts, by decide +kernel, by decide +kernel⟩

end Worker

end Montage
