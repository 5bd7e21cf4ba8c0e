import Mathlib.Tactic.Common
import Montage.Proofs.Disk.Names
import Montage.Proofs.Studio.Workspace

/-!
# The files of a host

On a host files stay as they are until somebody writes or deletes.  Programs that are only asked
something change none, nor do new directories; and a file that is written is there, beside the
others.

* `Host.files` — what can be read; `Host.keeps_makeWorkspace`, `Host.written_write` — what changes
  it.
* `Host.prober_start` — the program that tells how long a video is stays the same;
  `Host.disk_start` — and when it starts, so does the disk.
* **`Host.filing`** — **hosts are surroundings with files**.
-/

namespace Montage

namespace Host

variable {h : Host} {path : Path} {content : ByteArray} {t : TaskId}

/-- What can be read. -/
def files (h : Host) : Files := fun path => (h.disk.read h.here path).toOption

/-- A file is seen exactly where the disk holds it. -/
lemma files_eq_some :
    h.files path = some content ↔ ∃ place, h.disk.Holds h.here path place content := by
  rw [← Disk.read_eq_ok, files]
  cases h.disk.read h.here path with
  | error p => simp [Except.toOption]
  | ok found => simp [Except.toOption]

/-- Files that outlast a change of the disk. -/
lemma keeps_onDisk {d : Disk}
    (holds : ∀ {path place content}, h.disk.Holds h.here path place content →
      d.Holds h.here path place content) : h.files.Keeps (files { h with disk := d }) := by
  intro path content found
  obtain ⟨place, here⟩ := files_eq_some.mp found
  exact files_eq_some.mpr ⟨place, holds here⟩

/-! ## New directories -/

/-- To make directories loses no file. -/
lemma keeps_makeDirectories (path : Path) : h.files.Keeps (h.makeDirectories path).2.files := by
  unfold makeDirectories
  split
  · rename_i made
    exact keeps_onDisk fun holds => holds.makeDirectoriesWithin made
  · exact fun _ _ => id

lemma keeps_makeTemporary (parent : Path) (beginning : String) :
    h.files.Keeps (h.makeTemporary parent beginning).2.files := by
  unfold makeTemporary changing
  dsimp only
  cases made : h.disk.makeDirectory h.here
      (h.freshPath parent beginning (h.disk.nodes.length + 1)) with
  | error p => exact fun _ _ => id
  | ok d => exact keeps_onDisk fun holds => holds.makeDirectory made

/-- Nor does it to make a new workspace. -/
lemma keeps_makeWorkspace (root : Path) (beginning : String) :
    h.files.Keeps (h.makeWorkspace root beginning).2.files := by
  unfold makeWorkspace
  have first := h.keeps_makeDirectories root
  generalize h.makeDirectories root = made at first
  obtain ⟨result, h'⟩ := made
  cases result with
  | error e => exact first
  | ok u => exact fun path content found =>
      keeps_makeTemporary root beginning path content (first path content found)

/-! ## Writing -/

/-- **A file that is written is there, beside the others.** -/
lemma written_write {d : Disk} (written : h.disk.write h.here path content = .ok d) :
    h.files.Written path content (files { h with disk := d }) where
  here := by
    rw [files, Disk.read_write written]
    rfl
  beside := by
    rintro directory a b rfl isName isName' apart other found
    obtain ⟨place, target, same⟩ := bind_eq_ok.mp written
    cases same
    have room := Disk.hasRoom_iff.mpr target
    obtain ⟨place', holds⟩ := files_eq_some.mp found
    have elsewhere : place' ≠ place :=
      (Disk.HasRoom.ne_of_child isName isName' room holds.hasRoom apart).symm
    exact files_eq_some.mpr ⟨place', holds.put room.free elsewhere _⟩

/-! ## The program that tells how long a video is -/

/-- Operations on files do not change which program is the prober. -/
lemma prober_changing (path : Path) (result : Except DiskProblem Disk) :
    (h.changing path result).2.prober = h.prober := by
  cases result <;> rfl

lemma prober_makeDirectories (path : Path) : (h.makeDirectories path).2.prober = h.prober := by
  unfold makeDirectories
  split <;> rfl

lemma prober_makeTemporary (parent : Path) (beginning : String) :
    (h.makeTemporary parent beginning).2.prober = h.prober := by
  unfold makeTemporary changing
  dsimp only
  cases h.disk.makeDirectory h.here
    (h.freshPath parent beginning (h.disk.nodes.length + 1)) <;> rfl

lemma prober_makeWorkspace (root : Path) (beginning : String) :
    (h.makeWorkspace root beginning).2.prober = h.prober := by
  unfold makeWorkspace
  have first := h.prober_makeDirectories root
  generalize h.makeDirectories root = made at first
  obtain ⟨result, h'⟩ := made
  cases result with
  | error e => exact first
  | ok u =>
      dsimp only
      rw [prober_makeTemporary]
      exact first

/-- An effect leaves the program alone. -/
def Effect.Minds (effect : Effect) : Prop := ∀ h, (effect h).2.prober = h.prober

/-- An effect on a path does not change which program is the prober, if what it does there does
not. -/
lemma minds_onPath {operation : Host → Except OsError Unit × Host}
    (minds : ∀ h, (operation h).2.prober = h.prober) (path : Path) :
    (onPath path operation).Minds := by
  intro h
  have operated := minds h
  unfold onPath
  generalize operation h = x at operated
  cases SpawnProblem.ofText? path.text with
  | some p => rfl
  | none => exact operated

lemma minds_writing (path : Path) (content : ByteArray) : (writing path content).Minds :=
  minds_onPath (fun _ => prober_changing path _) path

lemma prober_after {effect : Effect} (minds : effect.Minds) (x : Except SpawnProblem Unit × Host) :
    (effect.after x).2.prober = x.2.prober := by
  obtain ⟨result, h⟩ := x
  cases result with
  | error e => rfl
  | ok u => exact minds h

lemma minds_fillingDirectory (path : Path) : (fillingDirectory path).Minds := by
  intro h
  unfold fillingDirectory
  rw [prober_after (minds_writing _ _)]
  exact minds_onPath (fun _ => prober_changing path _) path h

/-- No effect of a program does. -/
lemma minds_effects (script : ProgramScript) (command : List String) (directory : Path) :
    ∀ e ∈ effects script command directory, Effect.Minds e := by
  intro e among
  simp only [effects, List.mem_append, List.mem_map] at among
  obtain ((⟨f, -, rfl⟩ | ⟨content, -, rfl⟩) | ⟨name, -, rfl⟩) | removal := among
  · exact minds_writing _ _
  · exact minds_writing _ _
  · exact minds_fillingDirectory _
  · split at removal
    · rw [List.mem_singleton.mp removal]
      exact minds_onPath (fun _ => rfl) directory
    · cases removal

/-- Nor do all of them together. -/
lemma prober_undergo {es : List Effect} (minds : ∀ e ∈ es, Effect.Minds e) (h : Host) :
    (h.undergo es).2.prober = h.prober := by
  unfold undergo
  suffices ∀ x : Except SpawnProblem Unit × Host,
      (es.foldl (fun x e => e.after x) x).2.prober = x.2.prober from this (.ok (), h)
  induction es with
  | nil => exact fun _ => rfl
  | cons e rest ih =>
      intro x
      rw [List.forall_mem_cons] at minds
      rw [List.foldl_cons, ih minds.2, prober_after minds.1]

lemma prober_cue (kind : CommandKind) : (h.cue kind).2.prober = h.prober := by
  cases kind <;> rfl

/-- Nor does it to start a program with all its effects. -/
lemma prober_start (command : List String) (directory : Option Path) :
    (h.start command directory).2.prober = h.prober := by
  have cued := (h.addCommand command).prober_cue ((h.addCommand command).kindOf command)
  unfold start
  dsimp only
  generalize (h.addCommand command).kindOf command = kind at cued ⊢
  generalize (h.addCommand command).cue kind = c at cued
  obtain ⟨script, h'⟩ := c
  cases script.refusal with
  | some e => exact cued
  | none =>
      dsimp only
      split
      · have undergone := prober_undergo (minds_effects script command
          (directory.getD h'.herePath)) h'
        generalize h'.undergo (effects script command (directory.getD h'.herePath)) = x at undergone
        obtain ⟨result, h''⟩ := x
        cases result with
        | error e => exact undergone.trans cued
        | ok u => exact undergone.trans cued
      · exact cued

/-! ## Questions to programs -/

/-- To take the next script from the cue changes no file. -/
lemma disk_cue (h : Host) (kind : CommandKind) :
    (h.cue kind).2.disk = h.disk ∧ (h.cue kind).2.here = h.here := by
  cases kind <;> exact ⟨rfl, rfl⟩

/-- Programs that are asked something leave the disk as it is. -/
lemma disk_start {settings : Settings} (prober : h.prober = settings.ffprobe)
    {command : List String} (query : Engine.IsQuery settings command) :
    (h.start command none).2.disk = h.disk ∧ (h.start command none).2.here = h.here := by
  have asked : (h.addCommand command).kindOf command ≠ .rendering := by
    have same : (h.addCommand command).prober = settings.ffprobe := prober
    rcases query with rfl | ⟨path, rfl⟩
    · simp [kindOf, versionArguments]
    · unfold kindOf
      split
      · simp
      · simp [same]
  have cued := disk_cue (h.addCommand command) ((h.addCommand command).kindOf command)
  unfold start
  dsimp only
  generalize (h.addCommand command).kindOf command = kind at asked cued ⊢
  generalize (h.addCommand command).cue kind = c at cued
  obtain ⟨script, h'⟩ := c
  cases script.refusal with
  | some e => exact cued
  | none =>
      dsimp only
      rw [if_neg asked]
      exact cued

/-- So they change no files. -/
lemma files_start {settings : Settings} (prober : h.prober = settings.ffprobe)
    {command : List String} (query : Engine.IsQuery settings command) :
    (h.start command none).2.files = h.files := by
  obtain ⟨disk, here⟩ := disk_start prober query
  unfold files
  rw [disk, here]

/-! ## Replies -/

/-- Nothing that happens at once changes which program is the prober. -/
lemma prober_act (e : StudioAct) : (act t e h).2.prober = h.prober := by
  cases e with
  | metric m => rfl
  | isDirectory path => rfl
  | makeDirectory path => exact prober_changing path _
  | makeDirectories path => exact prober_makeDirectories path
  | makeTemporary parent beginning =>
      have made := h.prober_makeTemporary parent beginning
      simp only [act]
      generalize h.makeTemporary parent beginning = x at made ⊢
      exact made
  | createFile path => exact prober_changing path _
  | spawn command directory => exact prober_start command directory
  | isRunning p => rfl
  | kill p => rfl

/-- What happens at once loses no file, if it is nothing but the start of a probe or of a
version. -/
lemma keeps_act {settings : Settings} (prober : h.prober = settings.ffprobe) {e : StudioAct}
    (idle : Engine.idleAct settings e) : h.files.Keeps (act t e h).2.files := by
  cases e with
  | metric m => exact fun _ _ => id
  | isRunning p => exact fun _ _ => id
  | kill p => exact fun _ _ => id
  | spawn command directory =>
      cases directory with
      | some d => cases idle
      | none =>
          have same : (act t (.spawn command none) h).2.files = h.files := files_start prober idle
          rw [same]
          exact fun _ _ => id
  | _ => cases idle

lemma begin_eq (q : StudioWait) :
    (h.begin t q).prober = h.prober ∧ (h.begin t q).files = h.files := by
  cases q with
  | send request => cases request <;> exact ⟨rfl, rfl⟩
  | _ => exact ⟨rfl, rfl⟩

/-- Nor does any answer change it. -/
lemma prober_answer (q : StudioWait) : (answer t q h).2.prober = h.prober := by
  cases q with
  | write path content => exact prober_changing path _
  | append path content => exact prober_changing path _
  | unlink path => exact prober_changing path _
  | makeWorkspace root beginning => exact prober_makeWorkspace root beginning
  | _ => rfl

/-- What an answer tells of a file is so. -/
lemma told_answer (q : StudioWait) :
    Engine.Told h.files q (answer t q h).1 (answer t q h).2.files := by
  cases q with
  | write path content =>
      change Engine.Told h.files (.write path content)
        (h.changing path (h.disk.write h.here path content)).1
        (h.changing path (h.disk.write h.here path content)).2.files
      cases written : h.disk.write h.here path content with
      | error p => trivial
      | ok d => exact written_write written
  | _ => trivial

/-- An answer to a suspension that changes no file loses none. -/
lemma keeps_answer {q : StudioWait} (idle : Engine.idleWait q) :
    h.files.Keeps (answer t q h).2.files := by
  cases q with
  | pause => exact fun _ _ => id
  | attach p => exact fun _ _ => id
  | exit p => exact fun _ _ => id
  | collect p => exact fun _ _ => id
  | makeWorkspace root beginning => exact keeps_makeWorkspace root beginning
  | _ => cases idle

/-- **A host is a place for files** when it knows the program that tells how long a video is. -/
def filing (settings : Settings) : Filing settings machine where
  files := files
  sane h := h.prober = settings.ffprobe
  act t e h sane := ⟨(prober_act (t := t) e).trans sane, keeps_act (t := t) sane⟩
  held t q h sane := by
    obtain ⟨prober, same⟩ := h.begin_eq (t := t) q
    change (wait t q h).2.prober = settings.ffprobe
      ∧ ((wait t q h).1 = none → h.files.Keeps (wait t q h).2.files)
    unfold wait
    dsimp only
    split
    · exact ⟨prober.trans sane, fun _ => same ▸ fun _ _ => id⟩
    · exact ⟨(prober_answer q).trans (prober.trans sane), nofun⟩
  wait t q h v sane reply := by
    obtain ⟨-, same⟩ := h.begin_eq (t := t) q
    change (wait t q h).1 = some v at reply
    change Engine.Told h.files q v (wait t q h).2.files
      ∧ (Engine.idleWait q → h.files.Keeps (wait t q h).2.files)
    unfold wait at reply ⊢
    dsimp only at reply ⊢
    split at reply
    · cases reply
    · rename_i unheld
      cases reply
      rw [if_neg unheld, ← same]
      exact ⟨told_answer q, keeps_answer⟩
  release t q h sane := ⟨(prober_answer q).trans sane, told_answer q, keeps_answer⟩

end Host

end Montage
