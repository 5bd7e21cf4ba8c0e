import Mathlib.Data.List.Forall2
import Mathlib.Tactic.Common
import Montage.Proofs.Disk.Names
import Montage.Proofs.Routine.Custody
import Montage.Proofs.Studio.LocalRun
import Montage.Proofs.Studio.Spares
import Montage.Rehearsal.Backend

/-!
# The workspace of the engine

Exports on one engine write their files under the same names in one directory.  The files are in the
custody of who is behind the engine's gate; who is not asks programs about themselves and about
videos at most, and makes new directories.

* `LocalCall`, `localProgram` — executions and cleanings of any number of backends on one engine.
* `Filing` — surroundings where files stay as they are until somebody writes or deletes.
* `Engine.custody` — the custody of the workspace: **a program is started in a directory only when
  every input is there as it was handed over**.
* `LocalBackend.obeys_execute`, `LocalBackend.obeys_cleanup`, `Engine.staysOut_loadOnce` — who keeps
  to it; **`Engine.respected_custody` — all do**.
-/

namespace Montage

/-! ## Backends on one engine -/

/-- The settings of a backend that uses the programs of an engine. -/
def Settings.sharing (own engine : Settings) : Settings :=
  { own with ffmpeg := engine.ffmpeg, ffprobe := engine.ffprobe }

/-- What can be asked of a local backend, by its own settings. -/
inductive LocalCall where
  | execute (own : Settings) (g : Graph) (t : Timeline) (payloads : Payloads)
  | cleanup (own : Settings)

/-- What a local backend does for such a call, on the engine that is shared. -/
def LocalCall.routine (engine : Settings) : LocalCall → StudioRoutine BackendReply
  | execute own g t payloads => (Backend.onEngine (own.sharing engine)).executeAll g t payloads
  | cleanup own => do (Backend.onEngine (own.sharing engine)).cleanup; return .cleaned

/-- Any number of local backends that share one engine. -/
def localProgram (engine : Settings) : Program Studio where
  job := (studioProgram engine BackendReply).job
  Call := LocalCall
  Result _ := BackendReply
  call c := c.routine engine
  capacity := (studioProgram engine BackendReply).capacity

/-! ## Files -/

/-- What is read under each path, as far as it can be read. -/
abbrev Files := Path → Option ByteArray

namespace Files

/-- What could be read still can. -/
def Keeps (u u' : Files) : Prop := ∀ path content, u path = some content → u' path = some content

/-- A file has been written, and those beside it are as they were. -/
structure Written (u : Files) (path : Path) (content : ByteArray) (u' : Files) : Prop where
  here : u' path = some content
  beside : ∀ (directory : Path) (a b : String), path = directory.child a → Path.IsName a →
    Path.IsName b → a ≠ b → ∀ other, u (directory.child b) = some other →
      u' (directory.child b) = some other

end Files

namespace Engine

/-! ## What does not touch the workspace -/

/-- A program is asked about itself or about a video. -/
def IsQuery (engine : Settings) (command : List String) : Prop :=
  command = [engine.ffmpeg, "-version"] ∨ ∃ path, command = engine.ffprobe :: Tool.probeArguments path

/-- Effects that have nothing to do with files that are there. -/
def idleAct (engine : Settings) : StudioAct → Prop
  | .metric _ | .isRunning _ | .kill _ => True
  | .spawn command none => IsQuery engine command
  | _ => False

/-- Waits that have nothing to do with files that are there. -/
def idleWait : StudioWait → Prop
  | .pause | .attach _ | .exit _ | .collect _ | .makeWorkspace _ _ => True
  | _ => False

/-- What the reply to a wait tells about files. -/
def Told (u : Files) : (q : StudioWait) → q.Ans → Files → Prop
  | .write path content, .ok (), u' => u.Written path content u'
  | _, _, _ => True

end Engine

/-- Surroundings with files: those that are there stay as they are when programs are asked something
or a new directory is made, and what is written is there. -/
structure Filing (engine : Settings) (M : Machine Studio) where
  files : M.State → Files
  /-- What is so at any time. -/
  sane : M.State → Prop
  act : ∀ t e w, sane w → sane (M.act t e w).2
    ∧ (Engine.idleAct engine e → (files w).Keeps (files (M.act t e w).2))
  held : ∀ t q w, sane w → sane (M.wait t q w).2
    ∧ ((M.wait t q w).1 = none → (files w).Keeps (files (M.wait t q w).2))
  wait : ∀ t q w v, sane w → (M.wait t q w).1 = some v →
    Engine.Told (files w) q v (files (M.wait t q w).2)
      ∧ (Engine.idleWait q → (files w).Keeps (files (M.wait t q w).2))
  release : ∀ t q w, sane w → sane (M.release t q w).2
    ∧ Engine.Told (files w) q (M.release t q w).1 (files (M.release t q w).2)
    ∧ (Engine.idleWait q → (files w).Keeps (files (M.release t q w).2))

namespace Engine

/-! ## The custody of the workspace -/

/-- Every input of an execution is there as it was handed over. -/
def Furnished (t : Timeline) (payloads : Payloads) (directory : Path) (u : Files) : Prop :=
  List.Forall₂ (fun name content => u (directory.child name) = some content)
    t.inputNames payloads.files

/-- When a program may be started in a directory. -/
def permits (engine : Settings) : Origin (localProgram engine) → Files → StudioAct → Prop
  | .call (.execute _ _ t payloads), u, .spawn _ (some directory) =>
    Furnished t payloads directory u
  | _, _, _ => True

/-- The workspace stays where it is. -/
def Settled (s s' : EngineState) : Prop := ∀ path, s.workspace = some path → s'.workspace = some path

variable {engine : Settings} {M : Machine Studio}

/-- Who is behind the engine's gate has the files of its workspace. -/
def custody (F : Filing engine M) : Custody (localProgram engine) M Files where
  gate := .engine
  usesAct e := ¬ idleAct engine e
  usesWait q := ¬ idleWait q
  view := F.files
  keeps := Files.Keeps
  waits := Told
  forward := Settled
  permits := permits engine
  sane := F.sane

variable {F : Filing engine M} {o : Origin (localProgram engine)}

open Custody (IsInside)
open Routine

/-! ### Outside -/

/-- A routine that has nothing to do with the workspace. -/
abbrev StaysOut {α : Type} (F : Filing engine M) (o : Origin (localProgram engine))
    (r : StudioRoutine α) : Prop :=
  r.Maintains ((custody F).regime o) (· = .before)

/-- Before the gate, idle effects and waits are spared. -/
lemma spares_before : ((custody F).regime o).Spares (· = .before) (idleAct engine) idleWait where
  get := by
    rintro _ rfl
    exact ⟨trivial, fun _ _ same => same⟩
  act := by
    rintro e idle _ rfl
    exact ⟨not_not_intro idle, fun _ _ same => same⟩
  wait := by
    rintro q idle _ rfl
    exact ⟨not_not_intro idle, fun _ _ same => same⟩

/-- A change of the record stays outside the gate. -/
lemma staysOut_modifyState (f : EngineState → EngineState) : StaysOut F o (modifyState f) := by
  refine (Studio.maintains_get spares_before).bind fun s => maintains_ask ?_ ?_ fun _ =>
    maintains_done _
  · rintro _ rfl
    trivial
  · rintro _ _ _ rfl same
    exact same

/-- What it takes to attend to a program is idle. -/
lemma attends_idle : Tool.Attends (idleAct engine) idleWait where
  isRunning _ := trivial
  kill _ := trivial
  attach _ := trivial
  exit _ := trivial
  collect _ := trivial

/-- A load keeps out of the workspace. -/
lemma staysOut_loadOnce : StaysOut F o (loadOnce engine) := by
  have records : ∀ m, StaysOut F o (Studio.record m) := fun _ =>
    Studio.maintains_perform spares_before trivial
  have asks : StaysOut F o (Tool.version engine.ffmpeg) :=
    Tool.maintains_version spares_before attends_idle (.inl rfl)
  have makes : StaysOut F o
      (Studio.makeWorkspace (.ofText engine.workspaceRoot) workspaceBeginning) :=
    Studio.maintains_inTime spares_before rfl trivial trivial
  refine (staysOut_modifyState _).bind fun _ => (asks.bind fun version => makes.bind
    fun workspace => maintains_done (.returned (version, workspace))).handle fun x => ?_
  cases x with
  | returned found => exact (staysOut_modifyState _).bind fun _ => records _
  | cancelled => exact maintains_done _
  | failed e =>
      dsimp only
      cases loadProblem? e with
      | none => exact maintains_done _
      | some p =>
          exact (staysOut_modifyState _).bind fun _ => (records _).bind fun _ => maintains_done _

/-- Finding or starting the load stays outside the gate. -/
lemma staysOut_currentLoad (s : EngineState) : StaysOut F o (currentLoad s) := by
  unfold currentLoad
  cases s.load with
  | some t => exact maintains_done _
  | none =>
      refine maintains_ask ?_ ?_ fun t => ?_
      · rintro _ rfl
        trivial
      · rintro _ _ _ rfl same
        exact same
      · exact (staysOut_modifyState _).bind fun _ => maintains_done _

/-- Who waits for a load keeps out as well. -/
lemma staysOut_load : StaysOut F o load := by
  refine (Studio.maintains_get spares_before).bind fun s => ?_
  split
  · exact maintains_done _
  · refine (staysOut_currentLoad s).bind fun t => maintains_await ?_ ?_ maintains_done
    · rintro _ rfl
      trivial
    · rintro _ _ _ rfl same
      exact same

/-! ### Inside -/

/-- A plain effect starts no program in a directory, so it is always permitted. -/
lemma permits_of_isPlain {e : StudioAct} (plain : Studio.IsPlain e) (u : Files) :
    permits engine o u e := by
  unfold permits
  split
  · cases plain
  · trivial

/-- Behind the gate anything goes, a program in a directory apart. -/
lemma spares_inside : ((custody F).regime o).Spares IsInside Studio.IsPlain fun _ => True where
  get a inside := by
    cases a with
    | before => cases inside
    | after => cases inside
    | inside u s =>
        refine ⟨trivial, ?_⟩
        rintro _ _ ⟨-, rfl⟩
        trivial
  act e plain a inside := by
    cases a with
    | before => cases inside
    | after => cases inside
    | inside u s =>
        refine ⟨fun _ u' _ => permits_of_isPlain plain u', ?_⟩
        rintro _ _ (⟨-, u', rfl⟩ | ⟨-, rfl⟩)
        · trivial
        · trivial
  wait q _ a inside := by
    cases a with
    | before => cases inside
    | after => cases inside
    | inside u s =>
        refine ⟨trivial, fun x b awaited => ?_⟩
        obtain ⟨u', rfl⟩ : ∃ u', b = .inside u' s := by
          cases x <;> exact awaited.imp fun _ => And.left
        trivial

/-- A task is behind the gate, and this is known there. -/
def Within (known : Files → EngineState → Prop) : Custody.Phase Files EngineState → Prop
  | .inside u s => known u s
  | _ => False

/-- What idle effects cannot change: it survives as long as what could be read still can and the
workspace stays where it is. -/
structure Lasting (known : Files → EngineState → Prop) : Prop where
  keeps : ∀ {u u' s}, known u s → u.Keeps u' → known u' s
  settled : ∀ {u s s'}, known u s → Settled s s' → known u s'

variable {known : Files → EngineState → Prop}

/-- Who knows something of the files is inside. -/
lemma isInside_of_within {a : Custody.Phase Files EngineState} (within : Within known a) :
    IsInside a := by
  cases a with
  | before => cases within
  | after => cases within
  | inside u s => trivial

/-- Inside, what lasts while files stay as they are survives idle effects and waits. -/
lemma spares_within (lasting : Lasting known) :
    ((custody F).regime o).Spares (Within known) (idleAct engine) idleWait where
  get a within := by
    cases a with
    | before => cases within
    | after => cases within
    | inside u s =>
        refine ⟨trivial, ?_⟩
        rintro v _ ⟨settled, rfl⟩
        exact lasting.settled within settled
  act e idle a within := by
    cases a with
    | before => cases within
    | after => cases within
    | inside u s =>
        refine ⟨fun uses => absurd idle uses, ?_⟩
        rintro _ _ (⟨uses, -⟩ | ⟨-, rfl⟩)
        · exact absurd idle uses
        · exact within
  wait q idle a within := by
    cases a with
    | before => cases within
    | after => cases within
    | inside u s =>
        refine ⟨trivial, fun x b awaited => ?_⟩
        obtain ⟨u', rfl, keeps⟩ : ∃ u', b = .inside u' s ∧ u.Keeps u' := by
          cases x with
          | returned v => exact awaited.imp fun _ => And.imp_right (·.unused (absurd idle))
          | failed e => exact awaited.imp fun _ => And.imp_right (· (absurd idle))
          | cancelled => exact awaited.imp fun _ => And.imp_right (· (absurd idle))
        exact lasting.keeps within keeps

/-! ### Files that have been written -/

/-- These files are in this workspace, and can be read there as they were handed over. -/
structure Stored (files : List (String × ByteArray)) (directory : Path) (u : Files)
    (s : EngineState) : Prop where
  here : s.workspace = some directory
  found : ∀ f ∈ files, u (directory.child f.1) = some f.2

/-- That some files are in a directory lasts … -/
lemma lasting_stored (files : List (String × ByteArray)) (directory : Path) :
    Lasting (Stored files directory) where
  keeps stored keeps := ⟨stored.here, fun f among => keeps _ _ (stored.found f among)⟩
  settled stored settled := ⟨settled _ stored.here, stored.found⟩

/-- These files are in the workspace, if there are any. -/
def Filed (files : List (String × ByteArray)) (u : Files) (s : EngineState) : Prop :=
  files = [] ∨ ∃ directory, Stored files directory u s

/-- … and so does that they are filed, if a workspace is known. -/
lemma lasting_filed (files : List (String × ByteArray)) : Lasting (Filed files) where
  keeps filed keeps := filed.imp_right fun ⟨directory, stored⟩ =>
    ⟨directory, (lasting_stored files directory).keeps stored keeps⟩
  settled filed settled := filed.imp_right fun ⟨directory, stored⟩ =>
    ⟨directory, (lasting_stored files directory).settled stored settled⟩

variable {files : List (String × ByteArray)} {a : Custody.Phase Files EngineState} {u u' : Files}
  {s : EngineState}

/-- One more file. -/
lemma Stored.concat {directory : Path} {name : String} {content : ByteArray}
    (stored : Stored files directory u s) (written : u.Written (directory.child name) content u')
    (isName : Path.IsName name) (others : ∀ f ∈ files, Path.IsName f.1 ∧ name ≠ f.1) :
    Stored (files ++ [(name, content)]) directory u' s := by
  refine ⟨stored.here, fun f among => ?_⟩
  rcases List.mem_append.mp among with old | new
  · obtain ⟨isName', other⟩ := others f old
    exact written.beside directory name f.1 rfl isName isName' other f.2 (stored.found f old)
  · rw [List.mem_singleton.mp new]
    exact written.here

/-- Where the workspace is, the files are. -/
lemma obeys_workspace (filed : Within (Filed files) a) :
    workspace.Obeys ((custody F).regime o) (fun b x => IsInside b
      ∧ ∀ directory, x = .returned directory → Within (Stored files directory) b) a := by
  cases a with
  | before => cases filed
  | after => cases filed
  | inside u s =>
      refine .ask trivial ?_
      rintro v _ ⟨settled, rfl⟩
      have later : Filed files u v := (lasting_filed files).settled filed settled
      dsimp only [Routine.handle, stopWith]
      cases here : v.workspace with
      | none => exact .done ⟨trivial, nofun⟩
      | some directory =>
          refine .done ⟨trivial, ?_⟩
          rintro _ ⟨⟩
          rcases later with rfl | ⟨other, stored⟩
          · exact ⟨here, nofun⟩
          · cases here.symm.trans stored.here
            exact stored

/-- A file is written beside the others. -/
lemma obeys_writeFile {name : String} {content : ByteArray} (isName : Path.IsName name)
    (others : ∀ f ∈ files, Path.IsName f.1 ∧ name ≠ f.1) (filed : Within (Filed files) a) :
    (writeFile name content).Obeys ((custody F).regime o) (fun b x => IsInside b
      ∧ ∀ u, x = .returned u → Within (Filed (files ++ [(name, content)])) b) a := by
  have leads : (pathOf name).Obeys ((custody F).regime o) (fun b x => IsInside b
      ∧ ∀ path, x = .returned path → ∃ directory, path = directory.child name
        ∧ Within (Stored files directory) b) a := by
    unfold pathOf
    rw [isFileName_of_isName isName]
    refine (obeys_workspace filed).bind (fun b directory found => ?_) (fun b e found => ?_)
      fun b found => ?_
    · exact .done ⟨found.1, fun path same => ⟨directory, by cases same; rfl, found.2 _ rfl⟩⟩
    · exact ⟨found.1, nofun⟩
    · exact ⟨found.1, nofun⟩
  refine leads.bind (fun b path found => ?_) (fun b e found => ⟨found.1, nofun⟩)
    fun b found => ⟨found.1, nofun⟩
  obtain ⟨directory, rfl, within⟩ := found.2 path rfl
  have pauses := Studio.maintains_wait (spares_within (F := F) (o := o)
    (lasting_stored files directory)) (q := .pause) trivial
  unfold Studio.writeFile Studio.inTime
  refine (pauses b within).bind (fun b _ within => ?_)
    (fun b e within => ⟨isInside_of_within within, nofun⟩)
    fun b within => ⟨isInside_of_within within, nofun⟩
  cases Studio.pathFault? (directory.child name) with
  | some f => exact .done ⟨isInside_of_within within, nofun⟩
  | none =>
      cases b with
      | before => cases within
      | after => cases within
      | inside u s =>
          refine .await trivial fun x b awaited => ?_
          cases x with
          | failed e =>
              obtain ⟨u', rfl, -⟩ := awaited
              exact .done ⟨trivial, nofun⟩
          | cancelled =>
              obtain ⟨u', rfl, -⟩ := awaited
              exact .done ⟨trivial, nofun⟩
          | returned reply =>
              obtain ⟨u', rfl, answers⟩ := awaited
              cases reply with
              | error e => exact .done ⟨trivial, nofun⟩
              | ok v =>
                  have written : u.Written (directory.child name) content u' := answers.used id
                  have stored : Stored files directory u s := within
                  exact .done ⟨trivial, fun _ _ => .inr ⟨directory,
                    stored.concat written isName others⟩⟩

end Engine

namespace LocalBackend

variable {engine : Settings} {M : Machine Studio} {F : Filing engine M}
  {o : Origin (localProgram engine)} {a : Custody.Phase Files EngineState}

open Engine Routine
open Custody (IsInside)

/-- One file after the other is written. -/
lemma obeys_storeFiles (clips total index : Nat) (done rest : List (String × ByteArray))
    (isName : ∀ f ∈ done ++ rest, Path.IsName f.1) (distinct : ((done ++ rest).map Prod.fst).Nodup)
    (filed : Within (Filed done) a) :
    (storeFiles clips total index rest).Obeys (((custody F).regime o).noting ProgressUpdate)
      (fun b x => IsInside b ∧ ∀ u, x = .returned u → Within (Filed (done ++ rest)) b) a := by
  induction rest generalizing done index a with
  | nil =>
      refine .done ⟨isInside_of_within filed, fun _ _ => ?_⟩
      rwa [List.append_nil]
  | cons f rest ih =>
      obtain ⟨name, content⟩ := f
      have regroup : done ++ (name, content) :: rest = (done ++ [(name, content)]) ++ rest := by
        rw [List.append_assoc, List.singleton_append]
      have here : (name, content) ∈ done ++ (name, content) :: rest :=
        List.mem_append_right _ List.mem_cons_self
      have others : ∀ f ∈ done, Path.IsName f.1 ∧ name ≠ f.1 := by
        intro f among
        refine ⟨isName f (List.mem_append_left _ among), fun same => ?_⟩
        rw [List.map_append, List.nodup_append] at distinct
        exact distinct.2.2 f.1 (List.mem_map_of_mem among) name List.mem_cons_self same.symm
      have writes : (Engine.writeFile name content).Obeys ((custody F).regime o)
          (fun b x => IsInside b
            ∧ ∀ u, x = .returned u → Within (Filed (done ++ [(name, content)])) b) a :=
        obeys_writeFile (isName _ here) others filed
      rw [regroup] at isName distinct ⊢
      refine (writes.lift ProgressUpdate).bind (fun b u found => ?_)
        (fun b e found => ⟨found.1, nofun⟩) fun b found => ⟨found.1, nofun⟩
      refine (obeys_note _).bind (fun b' _ same => ?_) (fun b' e same => ⟨same ▸ found.1, nofun⟩)
        fun b' same => ⟨same ▸ found.1, nofun⟩
      rw [same]
      exact ih (index + 1) _ isName distinct (found.2 u rfl)

/-! ### Executions -/

variable {own : Settings} {g : Graph} {t : Timeline} {payloads : Payloads}

/-- The files of an execution, by their names. -/
def named (t : Timeline) (payloads : Payloads) : List (String × ByteArray) :=
  t.inputNames.zip payloads.files

/-- With as many payloads as inputs, the names of what is stored are those of the inputs. -/
lemma map_fst_named (complete : t.inputNames.length = payloads.files.length) :
    (named t payloads).map Prod.fst = t.inputNames :=
  List.map_fst_zip (Nat.le_of_eq complete)

/-- When all files have been written, the workspace is furnished. -/
lemma furnished_of_stored (complete : t.inputNames.length = payloads.files.length)
    {directory : Path} {u : Files} {s : EngineState}
    (stored : Stored (named t payloads) directory u s) : Furnished t payloads directory u := by
  refine List.forall₂_iff_zip.mpr ⟨complete, fun {name content} among => ?_⟩
  exact stored.found (name, content) among

/-- A rendering is started when all files are there. -/
lemma obeys_run (complete : t.inputNames.length = payloads.files.length) {arguments : List String}
    {directory : Path} {duration : Option Binary64}
    (stored : Within (Stored (named t payloads) directory) a) :
    (Tool.run (own.sharing engine).ffmpeg arguments (some directory) duration).Obeys
      (((custody F).regime (.call (.execute own g t payloads))).noting Binary64)
      (fun b _ => IsInside b) a := by
  cases a with
  | before => cases stored
  | after => cases stored
  | inside u s =>
      refine Tool.obeys_run spares_inside ⟨?_, ?_, ?_, ?_, ?_⟩ (fun _ => trivial) ?_ ?_
      · exact fun _ => trivial
      · exact fun _ => trivial
      · exact fun _ => trivial
      · exact fun _ => trivial
      · exact fun _ => trivial
      · intro _ u' keeps
        exact furnished_of_stored complete ((lasting_stored _ _).keeps stored keeps)
      · rintro v b (⟨-, u', rfl⟩ | ⟨-, rfl⟩)
        · trivial
        · trivial

/-- **A rendering keeps to the custody**: when its program starts, its inputs are there. -/
lemma obeys_render (complete : t.inputNames.length = payloads.files.length) (inside : IsInside a) :
    (render (own.sharing engine) g t payloads).Obeys
      (((custody F).regime (.call (.execute own g t payloads))).noting ProgressUpdate)
      (fun b _ => IsInside b) a := by
  have isName : ∀ f ∈ named t payloads, Path.IsName f.1 := fun f among =>
    isName_of_mem_fileNames (List.of_mem_zip among).1
  have distinct : ((named t payloads).map Prod.fst).Nodup := by
    rw [map_fst_named complete]
    exact nodup_fileNames _ _
  have filed : Within (Filed []) a := by
    cases a with
    | before => cases inside
    | after => cases inside
    | inside u s => exact .inl rfl
  unfold render
  refine (obeys_storeFiles _ _ 0 [] _ isName distinct filed).bind (fun b u found => ?_)
    (fun b e found => found.1) fun b found => found.1
  have within := found.2 u rfl
  have lasting := lasting_filed (named t payloads)
  have probes : (Engine.duration? (own.sharing engine) (t.inputNames.headD "")).Maintains
      ((custody F).regime (.call (.execute own g t payloads))) (Within (Filed (named t payloads))) :=
    (maintains_pathOf (spares_within lasting) _).bind fun path =>
      Tool.maintains_duration (spares_within lasting) attends_idle (.inr ⟨path.text, rfl⟩)
  refine ((probes b within).lift ProgressUpdate).bind (fun b probed within => ?_)
    (fun b e within => isInside_of_within within) fun b within => isInside_of_within within
  refine (obeys_note _).bind (fun b' _ same => ?_) (fun b' e same => ?_) fun b' same => ?_
  · rw [same]
    have renders : (Engine.render (own.sharing engine) (commandArguments g t.inputNames outputName
        (encoding (own.sharing engine))) (some (durationOf probed t))).Obeys
        (((custody F).regime (.call (.execute own g t payloads))).noting Binary64)
        (fun b _ => IsInside b) b :=
      ((obeys_workspace within).lift Binary64).bind
        (fun b directory found => obeys_run complete (found.2 directory rfl))
        (fun b e found => found.1) fun b found => found.1
    have reads : (Engine.readFile outputName).Maintains
        ((custody F).regime (.call (.execute own g t payloads))) IsInside :=
      maintains_readFile spares_inside outputName
    exact (renders.relay renderingUpdate).bind
      (fun b _ inside => ((maintains_note _).bind fun _ => reads.lift ProgressUpdate) b inside)
      (fun b e inside => inside) fun b inside => inside
  · exact same ▸ isInside_of_within within
  · exact same ▸ isInside_of_within within

/-! ### The gate -/

/-- Who has come through the gate is inside … -/
lemma inside_of_entered {b : Custody.Phase Files EngineState}
    (entered : ((custody F).regime o).awaited .before (.enter .engine) (.returned ()) b) :
    IsInside b := by
  rcases entered with ⟨-, u, s, rfl⟩ | ⟨other, -⟩
  · trivial
  · exact absurd rfl other

/-- … and who has been stopped before it is not. -/
lemma outside_of_stopped {x : Exit Unit} {b : Custody.Phase Files EngineState}
    (other : x ≠ .returned ())
    (stopped : ((custody F).regime o).awaited .before (.enter .engine) x b) : ¬ IsInside b := by
  cases x with
  | returned u => exact absurd rfl other
  | failed e =>
      cases stopped
      exact id
  | cancelled =>
      cases stopped
      exact id

/-- Who is inside may leave, and is outside then. -/
lemma leaves_inside {b : Custody.Phase Files EngineState} (inside : IsInside b) :
    ((custody F).regime o).mayAsk b (.leave .engine)
      ∧ ∀ c, ((custody F).regime o).asked b (.leave .engine) () c → ¬ IsInside c := by
  cases b with
  | before => cases inside
  | after => cases inside
  | inside u s =>
      refine ⟨trivial, ?_⟩
      rintro c (⟨-, rfl⟩ | ⟨other, -⟩)
      · exact id
      · exact absurd rfl other

/-- Behind the gate, and out again. -/
lemma obeys_session {N α : Type} {r : NotingRoutine N α}
    (behind : ∀ b : Custody.Phase Files EngineState, IsInside b →
      r.Obeys (((custody F).regime o).noting N) (fun b _ => IsInside b) b) :
    (session r).Obeys (((custody F).regime o).noting N) (fun b _ => ¬ IsInside b) .before := by
  have purges : purge.Maintains ((custody F).regime o) IsInside := maintains_purge spares_inside
  refine obeys_within (I := IsInside) trivial (fun b entered => ?_)
    (fun x b other stopped => outside_of_stopped (F := F) (o := o) other stopped)
    fun b inside => leaves_inside (F := F) (o := o) inside
  exact (behind b (inside_of_entered (F := F) (o := o) entered)).handle fun c x inside =>
    ((purges.bind fun _ => maintains_done _).lift N).bind (fun _ => maintains_done x) c inside

/-- A cleaning keeps to the custody and ends outside. -/
lemma obeys_cleanup :
    cleanup.Obeys ((custody F).regime o) (fun b _ => ¬ IsInside b) .before := by
  have purges : purge.Maintains ((custody F).regime o) IsInside := maintains_purge spares_inside
  have clears : purgeExclusive.Obeys ((custody F).regime o) (fun b _ => ¬ IsInside b) .before := by
    refine (Studio.maintains_get spares_before .before rfl).bind (fun b s same => ?_)
      (fun b e same => same ▸ id) fun b same => same ▸ id
    rw [same]
    split
    · exact .done id
    · exact obeys_within (I := IsInside) trivial
        (fun b entered => purges b (inside_of_entered entered))
        (fun x b other stopped => outside_of_stopped other stopped) fun b inside =>
          leaves_inside inside
  exact clears.bind (fun b _ outside => .done outside) (fun b e outside => outside) fun b outside =>
    outside

/-! ### Calls -/

/-- Putting an error of the system in words changes nothing of what is known. -/
lemma obeys_filesExpected {α : Type} {r : NotingRoutine ProgressUpdate α}
    (obeys : r.Obeys (((custody F).regime o).noting ProgressUpdate) (fun b _ => IsInside b) a) :
    (filesExpected r).Obeys (((custody F).regime o).noting ProgressUpdate)
      (fun b _ => IsInside b) a := by
  refine obeys.handle fun b x inside => ?_
  split
  · exact .done inside
  · exact .done inside

/-- **An execution keeps to the custody of the workspace.** -/
lemma obeys_execute (own : Settings) (g : Graph) (t : Timeline) (payloads : Payloads) :
    (execute (own.sharing engine) g t payloads).Obeys
      (((custody F).regime (.call (.execute own g t payloads))).noting ProgressUpdate)
      (fun b _ => ¬ IsInside b) .before := by
  unfold execute
  split
  · exact .done id
  · rename_i counts
    rw [not_or, not_not, not_not] at counts
    have complete : t.inputNames.length = payloads.files.length := by
      simp [Timeline.inputNames, fileNames, Payloads.files, counts]
    have works := obeys_session (F := F) (o := .call (.execute own g t payloads)) fun b inside =>
      obeys_filesExpected (obeys_render (g := g) complete inside)
    refine (obeys_note _).bind (fun b _ same => ?_) (fun b e same => same ▸ id)
      fun b same => same ▸ id
    rw [same]
    refine ((staysOut_load .before rfl).lift ProgressUpdate).bind (fun b _ same => ?_)
      (fun b e same => same ▸ id) fun b same => same ▸ id
    rw [same]
    refine works.bind (fun b output outside => ?_) (fun b e outside => outside)
      fun b outside => outside
    exact (obeys_note _).bind (fun b' _ same => .done (same ▸ outside))
      (fun b' e same => same ▸ outside) fun b' same => same ▸ outside

end LocalBackend

namespace Engine

variable {engine : Settings} {M : Machine Studio}

/-- **All that runs on an engine keeps to the custody of its workspace.** -/
lemma respected_custody (F : Filing engine M) : (custody F).Respected where
  alone := rfl
  keeps_refl _ _ _ := id
  keeps_trans first second path content found := second path content (first path content found)
  forward_refl _ _ := id
  forward_trans first second path found := second path (first path found)
  waits_of_keeps := by
    intro u u' q v u'' keeps told
    cases q with
    | write path content =>
        cases v with
        | error e => trivial
        | ok v =>
            have written : u'.Written path content u'' := told
            exact ⟨written.here, fun directory a b same isName isName' other kept found =>
              written.beside directory a b same isName isName' other kept (keeps _ _ found)⟩
    | _ => trivial
  act {i e w} sane := (F.act i e w sane).imp_right fun keeps unused => keeps (not_not.mp unused)
  wait {i q w} sane := by
    obtain ⟨sane', held⟩ := F.held i q w sane
    refine ⟨sane', held, fun v reply => ?_⟩
    obtain ⟨told, keeps⟩ := F.wait i q w v sane reply
    exact ⟨fun _ => told, fun unused => keeps (not_not.mp unused)⟩
  release {i q w} sane := by
    obtain ⟨sane', told, keeps⟩ := F.release i q w sane
    exact ⟨sane', fun _ => told, fun unused => keeps (not_not.mp unused)⟩
  routine o := by
    cases o with
    | job j =>
        cases j with
        | loadEngine => exact (staysOut_loadOnce .before rfl).mono fun b x same => same ▸ id
    | call c =>
        cases c with
        | execute own g t payloads =>
            refine ((LocalBackend.obeys_execute own g t payloads).gatherFrom []).bind
              (fun b v found => ?_) (fun b e found => ?_) fun b found => ?_
            · obtain ⟨_, _, _, outside⟩ := found
              exact .done outside
            · obtain ⟨_, _, same, _⟩ := found
              cases same
            · obtain ⟨_, _, same, _⟩ := found
              cases same
        | cleanup own =>
            exact LocalBackend.obeys_cleanup.bind (fun b _ outside => .done outside)
              (fun b e outside => outside) fun b outside => outside

end Engine

end Montage
