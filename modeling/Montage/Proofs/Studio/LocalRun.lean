import Mathlib.Tactic.Common
import Montage.Proofs.Studio.Starting
import Montage.Studio.LocalBackend

/-!
# An export on the loaded engine

The local engine writes the payloads into its workspace, asks how long the first of them is, and
renders them there.

* `LocalBackend.reaches_storeFiles` — **every payload is written under its name**.
* `Tool.reaches_duration` — asking for a duration leaves the files alone.
* `LocalBackend.Ready` — an engine that is loaded, with room for the files.
* `LocalBackend.starts_execute` — the command that is started in the end, and the files it finds.
-/

namespace Montage

open Scene

variable {h : Host} {s : EngineState} {i capacity : StudioGate → Nat} {workspace : Path}

/-! ## Files of the workspace -/

namespace Engine

lemma reaches_getState : Reaches Host.machine capacity ⟨h, s, i, getState⟩
    ⟨h, s, i, .done (.returned s)⟩ :=
  .single .get

lemma reaches_workspace (here : s.workspace = some workspace) :
    Reaches Host.machine capacity ⟨h, s, i, Engine.workspace⟩
      ⟨h, s, i, .done (.returned workspace)⟩ := by
  refine reaches_getState.bind ?_
  rw [here]
  exact .refl

lemma isFileName_of_isName {name : String} (isName : Path.IsName name) :
    isFileName name = true := by
  simp [isFileName, isName.nonempty, isName.ofText_eq, Path.name]

lemma reaches_pathOf (here : s.workspace = some workspace) {name : String}
    (isName : Path.IsName name) :
    Reaches Host.machine capacity ⟨h, s, i, pathOf name⟩
      ⟨h, s, i, .done (.returned (workspace.child name))⟩ := by
  have routine : pathOf name = Engine.workspace.bind fun directory =>
      .done (.returned (directory.child name)) := by
    unfold pathOf
    rw [isFileName_of_isName isName]
    rfl
  rw [routine]
  exact (reaches_workspace here).bind .refl

/-- An engine that is loaded is not loaded again. -/
lemma reaches_load (loaded : s.phase = .loaded) :
    Reaches Host.machine capacity ⟨h, s, i, load⟩ ⟨h, s, i, .done (.returned ())⟩ := by
  refine reaches_getState.bind ?_
  rw [if_pos loaded]
  exact .refl

end Engine

namespace LocalBackend

lemma reaches_report (phase : Phase) (progress : Binary64) (message : String) :
    Reaches (Host.machine.noting ProgressUpdate) capacity ⟨h, s, i, report phase progress message⟩
      ⟨h, s, i, .done (.returned ())⟩ :=
  .single .act

/-- **Every payload is written under its name.** -/
lemma reaches_storeFiles (here : s.workspace = some workspace) {names : List String}
    {slots : List Slot} (isName : ∀ name ∈ names, Path.IsName name)
    (paths : slots.map Slot.path = names.map workspace.child)
    (encodable : ∀ slot ∈ slots, Studio.pathFault? slot.path = none)
    (opened : h.disk.Open h.here slots) (clips total index : Nat) :
    Reaches (Host.machine.noting ProgressUpdate) capacity
      ⟨h, s, i, storeFiles clips total index (names.zip (slots.map Slot.content))⟩
      ⟨h.onDisk (h.disk.fill slots), s, i, .done (.returned ())⟩ := by
  induction slots generalizing h names index with
  | nil =>
      rw [List.map_nil, List.zip_nil_right]
      exact .refl
  | cons slot slots ih =>
      obtain ⟨name, names, rfl⟩ : ∃ n ns, names = n :: ns := by
        cases names with
        | nil => cases paths
        | cons n ns => exact ⟨n, ns, rfl⟩
      obtain ⟨path, others⟩ := List.cons.inj paths
      have written : Reaches Host.machine capacity ⟨h, s, i, Engine.writeFile name slot.content⟩
          ⟨h.onDisk (h.disk.put slot.place (.file slot.content)), s, i, .done (.returned ())⟩ := by
        refine (Engine.reaches_pathOf here (isName name List.mem_cons_self)).bind ?_
        rw [← path]
        exact Studio.reaches_writeFile (encodable slot List.mem_cons_self) opened.head slot.content
      have later := ih (h := h.onDisk (h.disk.put slot.place (.file slot.content)))
        (fun n hn => isName n (List.mem_cons_of_mem _ hn)) others
        (fun r hr => encodable r (List.mem_cons_of_mem _ hr)) opened.tail (index + 1)
      exact (written.lift ProgressUpdate).bind ((reaches_report _ _ _).bind later)

end LocalBackend

/-! ## The duration -/

/-- Starting a probe leaves the files alone: it is started or refused by the operating system. -/
lemma Host.start_probe {command : List String} (prober : command.head? = some h.prober)
    (rest : command.tail ≠ versionArguments) (directory : Option Path) :
    ∃ h' : Host, h'.disk = h.disk ∧ h'.here = h.here
      ∧ ((∃ e, h.start command directory = (.error (.os e), h'))
        ∨ ∃ p, h.start command directory = (.ok p, h')) := by
  have kind : (h.addCommand command).kindOf command = .probe :=
    (if_neg rest).trans (if_pos prober)
  let script := (h.addCommand command).probes.next
  let cued := ((h.addCommand command).cue .probe).2
  cases refusal : (h.addCommand command).probes.next.refusal with
  | none =>
      refine ⟨(cued.launch script).2, rfl, rfl, .inr ⟨cued.programs.length, ?_⟩⟩
      simp only [start, kind, cue, refusal]
      rfl
  | some e =>
      refine ⟨cued, rfl, rfl, .inl ⟨⟨e.1, e.2, command.head?⟩, ?_⟩⟩
      simp only [start, kind, cue, refusal]
      rfl

namespace Tool

/-- However a probe goes, something is known about the duration in the end. -/
lemma reaches_duration {binary : String} (prober : h.prober = binary) (path : Path) :
    ∃ (h' : Host) (duration : Option Binary64), h'.disk = h.disk ∧ h'.here = h.here
      ∧ Reaches Host.machine capacity ⟨h, s, i, duration? binary path⟩
        ⟨h', s, i, .done (.returned duration)⟩ := by
  have first : (binary :: probeArguments path.text).head? = some h.prober := by
    rw [prober]
    rfl
  have other : (binary :: probeArguments path.text).tail ≠ Host.versionArguments := by
    simp [probeArguments, Host.versionArguments]
  obtain ⟨started, disk, here, outcome⟩ := Host.start_probe first other none
  rcases outcome with ⟨e, refused⟩ | ⟨p, launched⟩
  · refine ⟨started, none, disk, here, ?_⟩
    have spawned : Reaches Host.machine capacity
        ⟨h, s, i, Studio.spawn (binary :: probeArguments path.text) none⟩
        ⟨started, s, i, .done (.returned (.error (.os e)))⟩ := Studio.reaches_act refused
    have collected : Reaches Host.machine capacity
        ⟨h, s, i, collect (binary :: probeArguments path.text)⟩
        ⟨started, s, i, .done (.returned (.error (.os e)))⟩ := spawned.bind .refl
    exact collected.bind .refl
  · refine ⟨started.finish p, durationOf? (started.scriptOf p).collected, disk, here, ?_⟩
    have spawned : Reaches Host.machine capacity
        ⟨h, s, i, Studio.spawn (binary :: probeArguments path.text) none⟩
        ⟨started, s, i, .done (.returned (.ok p))⟩ := Studio.reaches_act launched
    have attached : Reaches Host.machine capacity ⟨started, s, i, attach p⟩
        ⟨started, s, i, .done (.returned (started.scriptOf p).channels)⟩ :=
      Reaches.handle (Studio.reaches_wait (w := .attach p) rfl) _
    have ended : Reaches Host.machine capacity ⟨started, s, i, Studio.collect p⟩
        ⟨started.finish p, s, i, .done (.returned (started.scriptOf p).collected)⟩ :=
      Studio.reaches_wait (w := .collect p) rfl
    have collected : Reaches Host.machine capacity
        ⟨h, s, i, collect (binary :: probeArguments path.text)⟩
        ⟨started.finish p, s, i, .done (.returned (.ok (started.scriptOf p).collected))⟩ :=
      spawned.bind (attached.bind (ended.bind .refl))
    exact collected.bind .refl

end Tool

/-! ## The run -/

namespace Engine

variable {settings : Settings}

lemma reaches_duration (here : s.workspace = some workspace) (prober : h.prober = settings.ffprobe)
    {name : String} (isName : Path.IsName name) :
    ∃ (h' : Host) (duration : Option Binary64), h'.disk = h.disk ∧ h'.here = h.here
      ∧ Reaches Host.machine capacity ⟨h, s, i, duration? settings name⟩
        ⟨h', s, i, .done (.returned duration)⟩ := by
  obtain ⟨h', duration, disk, place, probed⟩ :=
    Tool.reaches_duration (s := s) (i := i) prober (workspace.child name)
  exact ⟨h', duration, disk, place, (reaches_pathOf here isName).bind probed⟩

lemma starts_render (here : s.workspace = some workspace) {paths : List Path}
    {contents : List ByteArray} (found : h.Finds paths contents) (arguments : List String)
    (duration : Option Binary64) :
    Starts capacity ⟨h, s, i, render settings arguments duration⟩ (settings.ffmpeg :: arguments)
      workspace paths contents :=
  (reaches_workspace here).lift_starts (Tool.starts_run found _ _ _ _)

end Engine

namespace LocalBackend

/-- An engine that is loaded, with a workspace that takes the files of a timeline, on a host that
knows the program that tells durations. -/
structure Ready (settings : Settings) (h : Host) (s : EngineState) (t : Timeline)
    (workspace : Path) : Prop where
  loaded : s.phase = .loaded
  here : s.workspace = some workspace
  prober : h.prober = settings.ffprobe
  takes : Studio.Takes h workspace t

variable {settings : Settings} {g : Graph} {t : Timeline} {payloads : Payloads}

/-- The payloads are written, and then the rendering is started. -/
lemma starts_render (ready : Ready settings h s t workspace) (base : t.clips ≠ [])
    (clips : payloads.clips.length = t.clips.length)
    (images : payloads.images.length = t.images.length) :
    Starts capacity ⟨h, s, i, render settings g t payloads⟩
      (settings.ffmpeg :: commandArguments g t.inputNames outputName (encoding settings))
      workspace (t.inputNames.map workspace.child) payloads.files := by
  have isName : ∀ name ∈ t.inputNames, Path.IsName name := fun _ => isName_of_mem_fileNames
  have length : payloads.files.length = t.inputNames.length := by
    simp [Payloads.files, Timeline.inputNames, fileNames, clips, images]
  obtain ⟨slots, paths, contents, opened, encodable⟩ := ready.takes.exists_slots length
  have stored : Reaches (Host.machine.noting ProgressUpdate) capacity
      ⟨h, s, i, storeFiles payloads.clips.length t.inputNames.length 0
        (t.inputNames.zip (slots.map Slot.content))⟩ _ :=
    reaches_storeFiles ready.here isName paths encodable opened _ _ _
  rw [contents] at stored
  have first : t.inputNames.headD "" ∈ t.inputNames := by
    have nonempty : t.inputNames ≠ [] := by
      rw [← List.length_pos_iff, ← length, Payloads.files, List.length_append, clips]
      exact Nat.add_pos_left (List.length_pos_iff.mpr base) _
    obtain ⟨name, names, cons⟩ := List.exists_cons_of_ne_nil nonempty
    rw [cons]
    exact List.mem_cons_self
  obtain ⟨probed, duration, disk, place, asked⟩ := Engine.reaches_duration (s := s) (i := i)
    (h := h.onDisk (h.disk.fill slots)) ready.here ready.prober (isName _ first)
  have found : probed.Finds (t.inputNames.map workspace.child) payloads.files := by
    rw [Host.Finds, disk, place, ← paths, ← contents]
    exact opened.read_fill
  have rendered : Starts capacity ⟨probed, s, i, Engine.render settings
      (commandArguments g t.inputNames outputName (encoding settings))
      (some (durationOf duration t))⟩ _ workspace _ _ :=
    Engine.starts_render ready.here found _ _
  exact stored.starts (asked.lift_starts ((reaches_report _ _ _).starts
    ((rendered.relay renderingUpdate).handle _)))

/-- **The command of the local engine**: the graph, and the payloads as input files. -/
lemma starts_execute (ready : Ready settings h s t workspace) (base : t.clips ≠ [])
    (clips : payloads.clips.length = t.clips.length)
    (images : payloads.images.length = t.images.length) (free : i .engine < capacity .engine) :
    Starts capacity ⟨h, s, i, execute settings g t payloads⟩
      (settings.ffmpeg :: commandArguments g t.inputNames outputName (encoding settings))
      workspace (t.inputNames.map workspace.child) payloads.files := by
  have counted : ¬ (payloads.clips.length ≠ t.clips.length
      ∨ payloads.images.length ≠ t.images.length) := by
    rintro (h | h)
    · exact h clips
    · exact h images
  have routine : execute settings g t payloads
      = (report .preparing 0 "Loading FFmpeg...").bind fun _ => (Routine.lift Engine.load).bind
        fun _ => (Engine.session (filesExpected (render settings g t payloads))).bind
        fun output => (report .finalizing 100 "Complete!").bind fun _ => pure output := by
    unfold execute
    rw [if_neg counted]
    rfl
  rw [routine]
  have rendered : Starts capacity ⟨h, s, occupy (E := Studio) i .engine,
      render settings g t payloads⟩ _ workspace _ _ := starts_render ready base clips images
  have inside : Starts capacity ⟨h, s, i,
      Engine.session (filesExpected (render settings g t payloads))⟩ _ workspace _ _ :=
    ((rendered.handle _).handle _).within free
  exact (reaches_report _ _ _).starts ((Engine.reaches_load ready.loaded).lift_starts
    (inside.handle _))

end LocalBackend

end Montage
