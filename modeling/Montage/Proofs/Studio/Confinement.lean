import Mathlib.Tactic.Common
import Montage.Proofs.Disk.Confinement
import Montage.Proofs.Routine.Lives
import Montage.Proofs.Routine.Record
import Montage.Proofs.Routine.Upkeep
import Montage.Proofs.Studio.Callers
import Montage.Proofs.Studio.HostFiles
import Montage.Proofs.Studio.Loading

/-!
# The files of the workspace stay in the workspace

The engine takes names of files from whoever uses it, and hands on paths below its workspace.  A
name is checked: it has to be a single part of a path.  There is one single part that leads out
again.

* `Engine.isFileName_iff` — which names are accepted.
* `FileUse`, `fileProgram` — what can be done with a file, by any number of tasks.
* `Move.On` — a move that has to do with one path only; `Engine.fileRegime`, `FileCall.obeys` — all
  that a call asks for.
* `Host.Touches`, `Host.touches_answer` — what such a move can change.
* `Engine.enclosure` — what the tasks know of the record of all that was done.
* **`Engine.files_confined`** — **whatever the schedule, nothing outside the workspace is read,
  written or deleted**, unless somebody uses the name that leads out.
* `Engine.parent_deleted` — what comes of that.
-/

namespace Montage

open Routine

/-! ## Names -/

namespace Engine

/-- **The names that are accepted**: the ordinary names, and the one that leads back up. -/
lemma isFileName_iff {name : String} : isFileName name = true ↔ Path.IsName name ∨ name = ".." := by
  constructor
  · intro accepted
    obtain ⟨nonempty, last⟩ : name ≠ "" ∧ (Path.ofText name).name = name := by
      simpa [isFileName] using accepted
    have part : name ∈ (Path.ofText name).parts := by
      cases found : (Path.ofText name).parts.getLast? with
      | none =>
          rw [Path.name, found] at last
          exact absurd last.symm nonempty
      | some part =>
          rw [Path.name, found] at last
          obtain rfl : part = name := last
          exact List.mem_of_getLast? found
    have isPart := Path.isPart_of_mem_ofText part
    by_cases up : name = ".."
    · exact .inr up
    · exact .inl ⟨isPart.nonempty, isPart.notHere, up, isPart.noSlash⟩
  · rintro (isName | rfl)
    · exact isFileName_of_isName isName
    · decide +kernel

/-- A name that is refused ends with a fault that says so. -/
lemma pathOf_refused {name : String} (refused : isFileName name = false) :
    pathOf name = broken (.badFileName name) := by
  unfold pathOf
  rw [refused]
  rfl

end Engine

/-! ## Uses of files -/

/-- What can be done with a file of the workspace. -/
inductive FileUse where
  | write (content : ByteArray)
  | read
  | delete
  /-- Asks how long the video is. -/
  | measure

/-- What each of these comes to. -/
def FileUse.Out : FileUse → Type
  | write _ => Unit
  | read => ByteArray
  | delete => Unit
  | measure => Option Binary64

/-- A call at the engine about a file: the name that is given, and what is to be done. -/
structure FileCall where
  name : String
  use : FileUse

/-- What the engine does for such a call.  The name goes through `Engine.pathOf` each time, which is
why one lemma about the path covers all of them. -/
def FileCall.routine (settings : Settings) : (c : FileCall) → StudioRoutine c.use.Out
  | ⟨name, .write content⟩ => Engine.writeFile name content
  | ⟨name, .read⟩ => Engine.readFile name
  | ⟨name, .delete⟩ => Engine.deleteFile name
  | ⟨name, .measure⟩ => Engine.duration? settings name

/-- Any number of users of the files of one engine. -/
def fileProgram (settings : Settings) : Program Studio where
  job := (studioProgram settings Unit).job
  Call := FileCall
  Result c := c.use.Out
  call c := c.routine settings
  capacity := (studioProgram settings Unit).capacity

/-- A name that is refused is no use at all. -/
lemma FileCall.routine_refused (settings : Settings) {c : FileCall}
    (refused : Engine.isFileName c.name = false) :
    c.routine settings = broken (.badFileName c.name) := by
  obtain ⟨name, use⟩ := c
  have stops := Engine.pathOf_refused refused
  cases use with
  | write content => exact congrArg (Routine.bind · _) stops
  | read => exact congrArg (Routine.bind · _) stops
  | delete => exact congrArg (Routine.bind · _) stops
  | measure => exact congrArg (Routine.bind · _) stops

/-! ## Moves that have to do with one path -/

/-- To look at a path, to ask a program how long the video there is, or to attend to a program. -/
def StudioAct.On (settings : Settings) (path : Path) : StudioAct → Prop
  | .isDirectory p => p = path
  | .spawn command directory =>
    command = settings.ffprobe :: Tool.probeArguments path.text ∧ directory = none
  | .isRunning _ | .kill _ => True
  | _ => False

/-- To read, write or delete what a path leads to, or to wait for a program. -/
def StudioWait.On (path : Path) : StudioWait → Prop
  | .read p | .write p _ | .unlink p | .removeTree p => p = path
  | .pause | .attach _ | .exit _ | .collect _ => True
  | _ => False

/-- The path that is read, written or deleted. -/
def StudioWait.path? : StudioWait → Option Path
  | .read p | .write p _ | .append p _ | .unlink p | .removeTree p | .list p => some p
  | _ => none

/-- What is waited for at a path names no other path. -/
lemma StudioWait.On.eq_of_path? {path p : Path} {q : StudioWait} (about : q.On path)
    (named : q.path? = some p) : p = path := by
  cases q with
  | append p' content => cases about
  | list p' => cases about
  | read p' | write p' content | unlink p' | removeTree p' =>
      cases named
      exact about
  | _ => exact absurd named nofun

namespace Move

/-- A move that is about one path only: nothing else is read, written, deleted or handed to a
program. -/
def On (settings : Settings) (path : Path) : Move Studio → Prop
  | .act a => a.On settings path
  | .begin q | .finish q => q.On path

/-- The path that a move waits for, if it waits for one. -/
def path? : Move Studio → Option Path
  | .act _ => none
  | .begin q | .finish q => q.path?

/-- A move at a path names no other path. -/
lemma On.eq_of_path? {settings : Settings} {path p : Path} {m : Move Studio}
    (about : m.On settings path) (named : m.path? = some p) : p = path := by
  cases m with
  | act a => cases named
  | begin q => exact StudioWait.On.eq_of_path? about named
  | finish q => exact StudioWait.On.eq_of_path? about named

end Move

/-! ## All that a call asks for -/

namespace Engine

/-- Who has a name that is accepted asks where the workspace is, and then for nothing but the file
of that name in there. -/
def fileRegime (settings : Settings) (name : String) : Regime Studio (Option Path) where
  mayAsk
    | _, .get => True
    | some w, .act a => isFileName name = true ∧ a.On settings (w.child name)
    | _, _ => False
  asked
    | none, .get, s, b => b = s.workspace
    | a, _, _, b => b = a
  mayAwait
    | some w, .wait q => isFileName name = true ∧ q.On (w.child name)
    | _, _ => False
  awaited a _ _ b := b = a

variable {settings : Settings} {name : String} {w : Path} {α : Type}

/-- Who knows the workspace may do whatever concerns the file, and knows it afterwards. -/
lemma spares_fileRegime (accepted : isFileName name = true) :
    (fileRegime settings name).Spares (· = some w) (StudioAct.On settings (w.child name))
      (StudioWait.On (w.child name)) where
  get := by
    rintro _ rfl
    exact ⟨trivial, fun _ _ same => same⟩
  act := by
    rintro e about _ rfl
    exact ⟨⟨accepted, about⟩, fun _ _ same => same⟩
  wait := by
    rintro q about _ rfl
    exact ⟨⟨accepted, about⟩, fun _ _ same => same⟩

/-- What it takes to attend to a program may be done whatever path is meant. -/
lemma attends_on (path : Path) : Tool.Attends (StudioAct.On settings path) (StudioWait.On path) :=
  ⟨fun _ => trivial, fun _ => trivial, fun _ => trivial, fun _ => trivial, fun _ => trivial⟩

/-- What is found as the workspace is the workspace that is known. -/
lemma finds_workspace : workspace.Obeys (fileRegime settings name)
    (fun b x => ∀ path, x = .returned path → b = some path) none := by
  refine .ask trivial ?_
  rintro s _ rfl
  dsimp only [Routine.handle, stopWith]
  cases s.workspace with
  | none => exact .done nofun
  | some w =>
      refine .done ?_
      rintro _ ⟨⟩
      rfl

/-- **The path that is handed on** is that of the name in the workspace. -/
lemma obeys_pathOf : (pathOf name).Obeys (fileRegime settings name) (fun b x => ∀ path,
    x = .returned path → isFileName name = true ∧ ∃ w, b = some w ∧ path = w.child name) none := by
  unfold pathOf
  cases accepted : isFileName name with
  | false => exact .done nofun
  | true =>
      refine finds_workspace.bind (fun b w known => ?_) (fun _ _ _ => nofun) fun _ _ => nofun
      refine .done ?_
      rintro _ ⟨⟩
      exact ⟨rfl, w, known w rfl, rfl⟩

/-- What follows the path. -/
lemma obeys_bind_pathOf {f : Path → StudioRoutine α}
    (follows : ∀ w, (fileRegime settings name).Spares (· = some w)
        (StudioAct.On settings (w.child name)) (StudioWait.On (w.child name)) →
      (f (w.child name)).Maintains (fileRegime settings name) (· = some w)) :
    ((pathOf name).bind f).Obeys (fileRegime settings name) (fun _ _ => True) none := by
  refine obeys_pathOf.bind (fun b path known => ?_) (fun _ _ _ => trivial) fun _ _ => trivial
  obtain ⟨accepted, w, rfl, rfl⟩ := known path rfl
  exact (follows w (spares_fileRegime accepted) _ rfl).mono fun _ _ _ => trivial

end Engine

/-- **A call asks for nothing but its file.** -/
lemma FileCall.obeys (settings : Settings) (c : FileCall) :
    (c.routine settings).Obeys (Engine.fileRegime settings c.name) (fun _ _ => True) none := by
  obtain ⟨name, use⟩ := c
  cases use with
  | write content =>
      exact Engine.obeys_bind_pathOf fun w spares => Studio.maintains_inTime spares rfl trivial rfl
  | read =>
      exact Engine.obeys_bind_pathOf fun w spares => Studio.maintains_inTime spares rfl trivial rfl
  | delete => exact Engine.obeys_bind_pathOf fun w spares =>
      Engine.maintains_delete spares rfl trivial rfl rfl
  | measure =>
      exact Engine.obeys_bind_pathOf fun w spares =>
        Tool.maintains_duration spares (Engine.attends_on _) ⟨rfl, rfl⟩

/-! ## What a move changes -/

namespace Host

/-- Nothing is different but what is at the destination of a path or below it. -/
structure Touches (path? : Option Path) (h h' : Host) : Prop where
  here : h'.here = h.here
  prober : h'.prober = h.prober
  disk : ∀ place, (∀ path ∈ path?, ¬ path.destination h.here <+: place) →
    h'.disk.node? place = h.disk.node? place

variable {settings : Settings} {start h h' : Host} {path : Path} {path? : Option Path} {t : TaskId}

/-- Nothing at all is different. -/
lemma Touches.refl (path? : Option Path) (h : Host) : h.Touches path? h :=
  ⟨rfl, rfl, fun _ _ => rfl⟩

/-- A disk that differs at and below a path only is such a change. -/
lemma touches_onDisk {d : Disk} (beside : h.disk.SameBeside (path.destination h.here) d) :
    h.Touches (some path) (h.onDisk d) :=
  ⟨rfl, rfl, fun place outside => beside place (outside path rfl)⟩

/-- So is a change of the disk that may fail. -/
lemma touches_changing {result : Except DiskProblem Disk}
    (beside : ∀ d, result = .ok d → h.disk.SameBeside (path.destination h.here) d) :
    h.Touches (some path) (h.changing path result).2 := by
  cases result with
  | error p => exact .refl _ h
  | ok d => exact touches_onDisk (beside d rfl)

/-- Who looks at a path, or asks a program, changes nothing. -/
lemma touches_act (prober : h.prober = settings.ffprobe) {a : StudioAct}
    (about : a.On settings path) : h.Touches none (act t a h).2 := by
  cases a with
  | isDirectory p => exact .refl none h
  | isRunning p => exact .refl none h
  | kill p => exact ⟨rfl, rfl, fun _ _ => rfl⟩
  | spawn command directory =>
      obtain ⟨rfl, rfl⟩ := about
      obtain ⟨disk, here⟩ := disk_start prober (.inr ⟨path.text, rfl⟩)
      exact ⟨here, prober_start _ _, fun place _ => congrArg (Disk.node? · place) disk⟩
  | _ => cases about

/-- Beginning to wait for something at a path does nothing yet. -/
lemma begin_of_on {q : StudioWait} (about : q.On path) : h.begin t q = h := by
  cases q with
  | send request => cases about
  | _ => rfl

/-- **Who reads, writes or deletes what a path leads to changes nothing else.** -/
lemma touches_answer {q : StudioWait} (about : q.On path) : h.Touches q.path? (answer t q h).2 := by
  cases q with
  | write p content => exact touches_changing fun d written => Disk.sameBeside_write written
  | unlink p => exact touches_changing fun d unlinked => Disk.sameBeside_unlink unlinked
  | removeTree p => exact touches_onDisk Disk.sameBeside_removeTree
  | exit p => exact ⟨rfl, rfl, fun _ _ => rfl⟩
  | collect p => exact ⟨rfl, rfl, fun _ _ => rfl⟩
  | pause | read p | attach p => exact .refl _ h
  | _ => cases about

/-- A wait at a path touches nothing but that path. -/
lemma touches_wait {q : StudioWait} (about : q.On path) : h.Touches q.path? (wait t q h).2 := by
  unfold wait
  rw [begin_of_on about]
  dsimp only
  split
  · exact .refl _ h
  · exact touches_answer about

/-! ### Records -/

/-- All that has changed since the start is in the record. -/
structure Accounted (start : Host) (w : Host × List (Entry machine)) : Prop where
  here : w.1.here = start.here
  prober : w.1.prober = start.prober
  before : ∀ e ∈ w.2, e.before.here = start.here
  disk : ∀ place, (∀ e ∈ w.2, ∀ path ∈ e.move.path?, ¬ path.destination start.here <+: place) →
    w.1.disk.node? place = start.disk.node? place

/-- At the start nothing has changed and nothing is recorded. -/
lemma accounted_start (start : Host) : start.Accounted (start, []) :=
  ⟨rfl, rfl, List.forall_mem_nil _, fun _ _ => rfl⟩

/-- A move that touches its own path only is accounted for once it is recorded. -/
lemma Accounted.concat {record : List (Entry machine)} {m : Move Studio}
    (accounted : start.Accounted (h, record)) (touches : h.Touches m.path? h') :
    start.Accounted (h', record ++ [⟨t, m, h⟩]) where
  here := touches.here.trans accounted.here
  prober := touches.prober.trans accounted.prober
  before := List.forall_mem_append.mpr
    ⟨accounted.before, List.forall_mem_singleton.mpr accounted.here⟩
  disk place outside := by
    obtain ⟨earlier, now⟩ := List.forall_mem_append.mp outside
    rw [List.forall_mem_singleton] at now
    have same : h.here = start.here := accounted.here
    rw [← same] at now
    exact (touches.disk place now).trans (accounted.disk place earlier)

end Host

/-! ## What the tasks know -/

namespace Engine

/-- A move that a task may make: one for its call, to its file; a load may do anything. -/
def MayMove (settings : Settings) (a : Option Path) (m : Move Studio) :
    Origin (fileProgram settings) → Prop
  | .call c => isFileName c.name = true ∧ ∃ w, a = some w ∧ m.On settings (w.child c.name)
  | .job _ => True

/-- What a task knows of the record: all its moves were such moves. -/
def Own (settings : Settings) (i : TaskId) (a : Option Path) (record : List (Entry Host.machine)) :
    Origin (fileProgram settings) → Prop
  | .call c => ∀ e ∈ record, e.task = i → MayMove settings a e.move (.call c)
  | .job _ => a = none

/-- What the tasks know of the workspace and of all that was done.  As long as nobody loads the
engine, whatever changes is in the record. -/
def enclosure (settings : Settings) (start : Host) :
    Outline (fileProgram settings) Host.machine.recording (Option Path) where
  gate := .engine
  regime
    | .call c => fileRegime settings c.name
    | .job _ => .still _ (fun q => ∀ g, q ≠ .leave g) fun q => ∃ w, q = .wait w
  start := none
  inside _ := False
  knows i o a w := Own settings i a w.2 o
  sees a s := ∀ w, a = some w → s.workspace = some w
  forward := Settled
  sound w := (∀ e ∈ w.2, ∃ path, e.move.On settings path) → start.Accounted w

variable {settings : Settings} {start h h' : Host} {i j : TaskId} {a : Option Path}
  {o : Origin (fileProgram settings)} {record : List (Entry Host.machine)} {m : Move Studio}

/-- Who does not know where the workspace is has made no moves. -/
lemma Own.of_none {c : FileCall} (own : Own settings i none record (.call c)) (a : Option Path) :
    Own settings i a record (.call c) := by
  intro e among same
  obtain ⟨-, w, known, -⟩ := own e among same
  cases known

/-- A move that the task may make leaves its record in order … -/
lemma Own.concat (own : Own settings i a record o) (may : MayMove settings a m o) :
    Own settings i a (record ++ [⟨i, m, h⟩]) o := by
  cases o with
  | job j => exact own
  | call c =>
      exact List.forall_mem_append.mpr ⟨own, List.forall_mem_singleton.mpr fun _ => may⟩

/-- … and a move of another task does not matter to it. -/
lemma Own.concat_other (own : Own settings j a record o) (other : j ≠ i) :
    Own settings j a (record ++ [⟨i, m, h⟩]) o := by
  cases o with
  | job j => exact own
  | call c =>
      exact List.forall_mem_append.mpr ⟨own, List.forall_mem_singleton.mpr fun same =>
        absurd same.symm other⟩

/-- **One more move.**  Nothing changes that is not in the record, and the others know what they
knew. -/
lemma moves_concat_file (prober : start.prober = settings.ffprobe)
    (sound : (enclosure settings start).sound (h, record))
    (touches : h.prober = settings.ffprobe → ∀ path, m.On settings path → h.Touches m.path? h') :
    (enclosure settings start).Moves i a (h, record) (h', record ++ [⟨i, m, h⟩]) where
  sound all := by
    obtain ⟨earlier, now⟩ := List.forall_mem_append.mp all
    obtain ⟨path, about⟩ := List.forall_mem_singleton.mp now
    have accounted := sound earlier
    exact accounted.concat (touches (accounted.prober.trans prober) path about)
  others _ _ _ other _ own := own.concat_other other

/-- What a task does at once is such a move, and it learns nothing from it. -/
lemma act_of_mayAsk {e : StudioAct}
    (may : ((enclosure settings start).regime o).mayAsk a (.act e)) :
    MayMove settings a (.act e) o
      ∧ ∀ v, ((enclosure settings start).regime o).asked a (.act e) v a := by
  cases o with
  | job j => exact ⟨trivial, fun _ => rfl⟩
  | call c =>
      cases a with
      | none => cases may
      | some w => exact ⟨⟨may.1, w, rfl, may.2⟩, fun _ => rfl⟩

/-- Whoever waits does so for the surroundings, and learns nothing about the workspace. -/
lemma wait_of_mayAwait {q : Suspension Studio}
    (may : ((enclosure settings start).regime o).mayAwait a q) :
    ∃ w, q = .wait w ∧ MayMove settings a (.begin w) o ∧ MayMove settings a (.finish w) o
      ∧ ∀ x, ((enclosure settings start).regime o).awaited a q x a := by
  cases o with
  | job j =>
      obtain ⟨w, rfl⟩ := may
      exact ⟨w, rfl, trivial, trivial, fun _ => rfl⟩
  | call c =>
      cases a with
      | none => cases may
      | some p =>
          cases q with
          | wait w => exact ⟨w, rfl, ⟨may.1, p, rfl, may.2⟩, ⟨may.1, p, rfl, may.2⟩, fun _ => rfl⟩
          | _ => cases may

/-- **The outline holds**: each task keeps to its own file. -/
lemma holds_enclosure (prober : start.prober = settings.ffprobe) :
    (enclosure settings start).Holds where
  alone := rfl
  outside := id
  blank _ := nofun
  routine o := by
    cases o with
    | call c => exact (c.obeys settings).mono fun _ _ _ => id
    | job j =>
        cases j with
        | loadEngine =>
            exact (Within.still (within_loadOnce nofun (fun _ => nofun) (fun _ => nofun)
              (fun w => ⟨w, rfl⟩) settings) none).mono fun _ _ _ => id
  forward more sees w here := more w (sees w here)
  act {i o a w s e} sound aware may := by
    obtain ⟨h, record⟩ := w
    obtain ⟨move, learns⟩ := act_of_mayAsk may
    have moves : (enclosure settings start).Moves i a (h, record)
        (Host.machine.recording.act i e (h, record)).2 :=
      moves_concat_file prober sound fun asks path about => Host.touches_act (t := i) asks about
    have knows : Own settings i a (record ++ [⟨i, .act e, h⟩]) o := aware.knows.concat move
    exact ⟨moves, a, learns _, .rfl, knows, aware.sees⟩
  plain {i o a w s q v} aware may plain tells := by
    cases o with
    | job j =>
        obtain rfl : a = none := aware.knows
        exact ⟨none, rfl, .rfl, aware.knows, nofun⟩
    | call c =>
        cases q with
        | get =>
            obtain rfl : v = s := tells
            cases a with
            | none => exact ⟨v.workspace, rfl, .rfl, aware.knows.of_none _, fun w here => here⟩
            | some p => exact ⟨some p, rfl, .rfl, aware.knows, aware.sees⟩
        | act e => cases plain
        | _ => cases a <;> cases may
  leave {i o a w s} aware may := by
    cases o with
    | job j => exact absurd rfl (may .engine)
    | call c => cases a <;> cases may
  enter {i o a w s} aware may := by
    obtain ⟨_, same, -⟩ := wait_of_mayAwait may
    cases same
  told {i o a w s q x} aware may _ := by
    obtain ⟨_, rfl, -, -, learns⟩ := wait_of_mayAwait may
    exact ⟨a, learns x, .rfl, aware⟩
  wait {i o a w s q} sound aware may := by
    obtain ⟨h, record⟩ := w
    obtain ⟨_, same, move, -, learns⟩ := wait_of_mayAwait may
    cases same
    have moves : (enclosure settings start).Moves i a (h, record)
        (Host.machine.recording.wait i q (h, record)).2 :=
      moves_concat_file prober sound fun _ path about => Host.touches_wait about
    have knows : Own settings i a (record ++ [⟨i, .begin q, h⟩]) o := aware.knows.concat move
    exact ⟨moves, fun _ => ⟨knows, aware.sees⟩, fun v _ => ⟨⟨a, learns _, .rfl, knows, aware.sees⟩,
      a, learns _, .rfl, knows, aware.sees⟩⟩
  release {i o a w s q} sound aware may := by
    obtain ⟨h, record⟩ := w
    obtain ⟨_, same, -, move, learns⟩ := wait_of_mayAwait may
    cases same
    have moves : (enclosure settings start).Moves i a (h, record)
        (Host.machine.recording.release i q (h, record)).2 :=
      moves_concat_file prober sound fun _ path about => Host.touches_answer about
    have knows : Own settings i a (record ++ [⟨i, .finish q, h⟩]) o := aware.knows.concat move
    exact ⟨moves, ⟨a, learns _, .rfl, knows, aware.sees⟩, a, learns _, .rfl, knows, aware.sees⟩

/-! ## Runs -/

/-- All that runs on the files of an engine keeps to the regime of its load. -/
lemma shares_file : Shares (fileProgram settings) := by
  have ignores := ignores_loading false
  intro o
  cases o with
  | job j =>
      cases j with
      | loadEngine => exact obeys_loadOnce settings
  | call c =>
      have maintains : (c.routine settings).Maintains (loading false) Stage.Free := by
        obtain ⟨name, use⟩ := c
        cases use with
        | write content => exact maintains_writeFile ignores name content
        | read => exact maintains_readFile ignores.plain name
        | delete => exact maintains_deleteFile ignores.plain name
        | measure =>
            exact (maintains_pathOf ignores.plain name).bind fun _ =>
              Tool.maintains_duration ignores.toSpares Tool.attends_all trivial
      exact (maintains .unaware trivial).mono fun _ _ free => Stage.settled_of_free free

/-- An engine whose files nobody has used yet, and the record of all that will be done. -/
def unusedFiles (settings : Settings) (h : Host) (s : EngineState) :
    System (fileProgram settings) Host.machine.recording :=
  { world := (h, []), store := s }

/-- All that was done was done to files of the workspace, by their names. -/
structure Inside (w : Path) (start : Host)
    (sys : System (fileProgram settings) Host.machine.recording) : Prop where
  each : ∀ e ∈ sys.world.2, ∃ c f p n, sys.tasks[e.task]? = some ⟨.call c, f, p, n⟩
    ∧ Path.IsName c.name ∧ e.move.On settings { w with parts := w.parts ++ [c.name] }
  /-- What was read is what was in a file of the workspace. -/
  reads : ∀ e ∈ sys.world.2, ∀ path content,
    e.move = .begin (.read path) ∨ e.move = .finish (.read path) →
    e.before.disk.read e.before.here path = .ok content →
    ∃ name, Path.IsName name
      ∧ e.before.disk.node? (w.destination start.here ++ [name]) = some (.file content)
  outside : ∀ place, Disk.isBelow (w.destination start.here) place = false →
    sys.world.1.disk.node? place = start.disk.node? place

/-- **No accepted name but `..` reads, writes or deletes anything outside the workspace.**  On a
host with an engine that is loaded, any number of users read, write, delete and measure files, in
any order and however often they are cancelled.  A name that is refused does nothing; every other
one but `..` is a single part of a path, and all that is done for it is done to the file of that
name directly in the workspace.  The name `..` is accepted as well, and leads to where the workspace
is. -/
theorem files_confined {h : Host} {s : EngineState} {w : Path}
    (prober : h.prober = settings.ffprobe) (coherent : s.Coherent) (loaded : s.workspace = some w)
    (schedule : List (Choice (fileProgram settings)))
    (ordinary : ∀ c, Choice.call c ∈ schedule → c.name ≠ "..") :
    (∀ name, isFileName name = true ↔ Path.IsName name ∨ name = "..")
      ∧ (∀ c : FileCall, isFileName c.name = false →
        c.routine settings = broken (.badFileName c.name))
      ∧ (w.child "..").destination h.here = (w.destination h.here).dropLast
      ∧ ((unusedFiles settings h s).follow schedule).forget
        = System.follow { world := h, store := s } schedule
      ∧ Inside w h ((unusedFiles settings h s).follow schedule) := by
  refine ⟨fun name => isFileName_iff, fun c => c.routine_refused settings,
    Path.destination_child_up, System.forget_follow _ schedule, ?_⟩
  have nobody : (unusedFiles settings h s).tasks = [] := rfl
  have phase : s.phase = .loaded := coherent.workspace.mpr (by rw [loaded]; rfl)
  have stays := (loads_of_coherent nobody coherent).loaded_follow shares_file nobody phase
  have still : ∀ first choice, Settled ((unusedFiles settings h s).follow first).store
      (((unusedFiles settings h s).follow first).apply choice).store := by
    intro first choice path here
    have after := (stays (first ++ [choice])).1
    rw [System.follow_snoc (unusedFiles settings h s)] at after
    rw [after]
    rwa [(stays first).1] at here
  obtain ⟨_, kept⟩ := (Outline.kept_nobody (O := enclosure settings h) nobody
    (fun _ => Host.accounted_start h) fun i o => by
      cases o with
      | job j => rfl
      | call c => exact List.forall_mem_nil _).follow (holds_enclosure prober) schedule
    fun first choice _ _ => still first choice
  obtain ⟨store, calls⟩ := stays schedule
  have each : ∀ e ∈ ((unusedFiles settings h s).follow schedule).world.2, ∃ c f p n,
      ((unusedFiles settings h s).follow schedule).tasks[e.task]? = some ⟨.call c, f, p, n⟩
        ∧ Path.IsName c.name ∧ e.move.On settings (w.child c.name) := by
    intro e among
    cases found : ((unusedFiles settings h s).follow schedule).tasks[e.task]? with
    | none =>
        -- who is not there has made no moves
        have nothing := kept.absent e.task (.call ⟨"", .read⟩)
          (List.getElem?_eq_none_iff.mp found) e among rfl
        obtain ⟨-, _, known, -⟩ := nothing
        cases known
    | some task =>
        obtain ⟨a, aware⟩ := (kept.tasks e.task task nofun found).aware
        have call := calls e.task task found
        obtain ⟨o, f, p, n⟩ := task
        cases o with
        | job j => cases call
        | call c =>
            obtain ⟨accepted, w', rfl, about⟩ := aware.knows e among rfl
            have there := aware.sees w' rfl
            rw [store] at there
            obtain rfl : w = w' := Option.some.inj (loaded.symm.trans there)
            have isName := (isFileName_iff.mp accepted).resolve_right
              (ordinary c (System.call_mem_of_follow nobody schedule found))
            exact ⟨c, f, p, n, rfl, isName, about⟩
  have accounted := kept.sound fun e among => by
    obtain ⟨_, _, _, _, -, -, about⟩ := each e among
    exact ⟨_, about⟩
  refine ⟨fun e among => ?_, fun e among path content read found => ?_, fun place apart => ?_⟩
  · obtain ⟨c, f, p, n, found, isName, about⟩ := each e among
    exact ⟨c, f, p, n, found, isName, Path.child_eq isName w ▸ about⟩
  · obtain ⟨c, _, _, _, -, isName, about⟩ := each e among
    have same : path = w.child c.name := by
      rcases read with read | read <;> (rw [read] at about; exact about)
    have there := Disk.node?_of_read found
    rw [same, Path.destination_child isName, accounted.before e among] at there
    exact ⟨c.name, isName, there⟩
  · refine accounted.disk place fun e among path named below => ?_
    obtain ⟨c, _, _, _, -, isName, about⟩ := each e among
    rw [about.eq_of_path? named, Path.destination_child isName] at below
    rw [Disk.isBelow_of_append_prefix below] at apart
    cases apart

/-! ### A sample -/

/-- A workspace beside a file that has nothing to do with it. -/
def sharedRoot : Host where
  disk := { nodes := [(["ws"], .directory), (["ws", "engine-X"], .directory),
    (["ws", "kept.txt"], .file ⟨#[7]⟩)] }

/-- The record of an engine that has its workspace there. -/
def sharedEngine : EngineState where
  phase := .loaded
  workspace := some (.ofText "/ws/engine-X")
  version := some "7.1"

/-- One call after the other. -/
def oneByOne (calls : List FileCall) : List (Choice (fileProgram .defaults)) :=
  (calls.zipIdx.map fun c => .call c.1 :: List.replicate 4 (.turn c.2)).flatten

/-- A file is written, read and deleted; and somebody tries to delete another one. -/
def usesSample : List FileCall :=
  [⟨"a.mp4", .write ⟨#[1, 2]⟩⟩, ⟨"../kept.txt", .delete⟩, ⟨"a.mp4", .read⟩, ⟨"a.mp4", .delete⟩]

/-- Only the given calls are made one by one. -/
lemma call_mem_oneByOne {calls : List FileCall} {c : FileCall}
    (among : Choice.call c ∈ oneByOne calls) : c ∈ calls := by
  obtain ⟨_, listed, among⟩ := List.mem_flatten.mp among
  obtain ⟨⟨called, i⟩, member, rfl⟩ := List.mem_map.mp listed
  rcases List.mem_cons.mp among with same | turn
  · cases same
    exact List.fst_mem_of_mem_zipIdx member
  · cases List.eq_of_mem_replicate turn

theorem files_confined_sample :
    sharedRoot.prober = Settings.defaults.ffprobe ∧ sharedEngine.Coherent
      ∧ sharedEngine.workspace = some (.ofText "/ws/engine-X")
      ∧ (∀ c, Choice.call c ∈ oneByOne usesSample → c.name ≠ "..")
      ∧ Inside (.ofText "/ws/engine-X") sharedRoot
        ((unusedFiles .defaults sharedRoot sharedEngine).follow (oneByOne usesSample))
      ∧ ((unusedFiles .defaults sharedRoot sharedEngine).follow (oneByOne usesSample)).world.2.length
        = 7
      ∧ ((unusedFiles .defaults sharedRoot sharedEngine).follow
          ((oneByOne usesSample).take 5)).world.1.disk.node? ["ws", "engine-X", "a.mp4"]
        = some (.file ⟨#[1, 2]⟩) := by
  have names : ∀ c ∈ usesSample, c.name ≠ ".." := by
    simp [usesSample]
  have ordinary : ∀ c, Choice.call c ∈ oneByOne usesSample → c.name ≠ ".." :=
    fun c among => names c (call_mem_oneByOne among)
  have coherent : sharedEngine.Coherent := ⟨by decide, by decide, by decide⟩
  obtain ⟨-, -, -, -, inside⟩ :=
    files_confined (h := sharedRoot) rfl coherent rfl (oneByOne usesSample) ordinary
  exact ⟨rfl, coherent, rfl, ordinary, inside, by decide +kernel, by decide +kernel⟩

/-- **What the name `..` does**: the directory of all workspaces is emptied, whatever is in it, and
the workspace is gone as well. -/
theorem parent_deleted :
    let after := ((unusedFiles .defaults sharedRoot sharedEngine).follow
      (oneByOne [⟨"..", .delete⟩])).world.1
    isFileName ".." = true
      ∧ Disk.isBelow ((Path.ofText "/ws/engine-X").destination []) ["ws", "kept.txt"] = false
      ∧ sharedRoot.disk.node? ["ws", "kept.txt"] = some (.file ⟨#[7]⟩)
      ∧ after.disk.node? ["ws", "kept.txt"] = none
      ∧ after.disk.node? ["ws", "engine-X"] = none := by
  decide +kernel

end Engine

end Montage
