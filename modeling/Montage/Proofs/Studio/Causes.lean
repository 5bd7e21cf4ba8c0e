import Montage.Proofs.Studio.LocalRun
import Montage.Proofs.Studio.Names
import Montage.Proofs.Studio.Programs
import Montage.Studio.RemoteBackend

/-!
# What breaks an execution

A backend expects most of what can go wrong and says so in its own words.  A few replies break it
instead: the fault that comes of them is not the backend's own.

* `Event.Causes` — **the replies that break an execution**, and the fault that comes of each.
* `Path.Withheld`, `Http.Breaks` — a path and a response that do.
* `Engine.delivers_purge`, `Engine.delivers_session` — the engine's workspace.
* `Engine.foresees_loadOnce` — loading the engine ends with a value, with a failure that says so, or
  with a fault that has a cause.
* `LocalBackend.delivers_execute`, `Engine.delivers_loadOnce` — exports on the engine, and its
  loading.
-/

namespace Montage

open Routine

/-! ## Causes -/

/-- The operating system does not take a path, or one below it although it would take the name. -/
def Path.Withheld (p : Path) (f : Fault) : Prop :=
  Studio.pathFault? p = some f
    ∨ ∃ name, SpawnProblem.ofText? name = none ∧ Studio.pathFault? (p.child name) = some f

namespace Http

/-- A body that has come as a whole. -/
def Holds (r : Response) (body : ByteArray) : Prop :=
  ∃ parts, pieces r = parts.map .ok ∧ body = concat parts

/-- A response that breaks the export: its head cannot be read, what it announces or leads to makes
no sense, it is broken off, or its report cannot be read. -/
inductive Breaks (request : HttpRequest) (r : Response) : Fault → Prop
  | headers {f : Fault} (bad : checkHeaders r = .error f) : Breaks request r f
  | location {u : Url} {parts : List FormPart} {location : String} {f : Fault}
      (sent : request = .post u.text parts) (leads : location? r = some location)
      (bad : u.target location = .error f) : Breaks request r f
  | length {f : Fault} (success : Status.isSuccess r.status)
      (bad : RemoteBackend.announcedLength r = .error f) : Breaks request r f
  | brokenOff {problem : HttpFault} (broken : r.broken = some problem)
      (other : problem.problem.isTransport = false) : Breaks request r problem.fault
  | report {body : ByteArray} {f : Fault} (failure : ¬ Status.isSuccess r.status)
      (holds : Holds r body) (bad : failureOfResponse r.status body = .error f) :
      Breaks request r f

end Http

/-- The replies that break an execution, and the fault that comes of each. -/
inductive Event.Causes : Event Studio → Fault → Prop
  /-- An argument that cannot be handed over. -/
  | spawn {command : List String} {directory : Option Path} {problem : SpawnProblem}
      (other : ∀ e, problem ≠ .os e) :
      Causes (.asked (.act (.spawn command directory)) (Except.error problem)) problem.fault
  | store {s : EngineState} {p : Path} {f : Fault} (here : s.workspace = some p)
      (withheld : p.Withheld f) : Causes (.asked .get s) f
  | line {p : ProcessId} {channels : Channels} {line : ByteArray} {f : Fault}
      (written : line ∈ channels.output ++ channels.errors) (long : Tool.overrun? line = some f) :
      Causes (.awaited (.wait (.attach p)) (.returned channels)) f
  | time {p : ProcessId} {channels : Channels} {line : ByteArray} {f : Fault}
      (written : line ∈ channels.output)
      (bad : Report.processedSeconds (Text.lossyChars line) = .error f) :
      Causes (.awaited (.wait (.attach p)) (.returned channels)) f
  /-- A workspace that cannot be listed when it is emptied. -/
  | list {p : Path} {e : OsError} :
      Causes (.awaited (.wait (.list p)) (.returned (Except.error e))) (.os e)
  | listedName {p : Path} {names : List String} {name : String} (listed : name ∈ names)
      (bad : Engine.isFileName name = false) :
      Causes (.awaited (.wait (.list p)) (.returned (Except.ok names))) (.badFileName name)
  | listedPath {p q : Path} {names : List String} {name : String} {f : Fault}
      (listed : name ∈ names) (bad : SpawnProblem.ofText? name ≠ none)
      (withheld : Studio.pathFault? (q.child name) = some f) :
      Causes (.awaited (.wait (.list p)) (.returned (Except.ok names))) f
  /-- A load of the engine that has broken. -/
  | load {t : TaskId} {f : Fault} :
      Causes (.awaited (.watch .loadEngine t) (.failed (.unexpected f))) f
  | network {request : HttpRequest} {problem : HttpFault}
      (other : problem.problem.isTransport = false) :
      Causes (.awaited (.wait (.send request)) (.returned (Except.error problem))) problem.fault
  | response {request : HttpRequest} {r : Response} {f : Fault} (breaks : Http.Breaks request r f) :
      Causes (.awaited (.wait (.send request)) (.returned (Except.ok r))) f

/-- What is heard has replies, and the causes in it are causes of the given faults. -/
structure Blames (P : Event Studio → Prop) (C : Fault → Prop) : Prop where
  answered : ∀ e, P e → e.Answered
  causes : ∀ e f, P e → e.Causes f → C f

variable {P : Event Studio → Prop} {C : Fault → Prop} {α : Type} {Q : α → Prop}

/-- Faults, and the errors of the operating system besides. -/
def Troubles (C : Fault → Prop) (f : Fault) : Prop := C f ∨ ∃ e, f = .os e

/-- If what is heard has causes among some faults, it has them among more. -/
lemma Blames.troubles (blames : Blames P C) : Blames P (Troubles C) :=
  ⟨blames.answered, fun e f heard causes => .inl (blames.causes e f heard causes)⟩

/-- A value, a failure of loading the engine, or a fault for which there is a cause. -/
def Exit.Foreseen (C : Fault → Prop) : Exit α → Prop
  | .returned _ => True
  | .failed (.expected (.engineLoad _)) => True
  | .failed (.unexpected f) => C f
  | _ => False

/-- An outcome that was foreseen stays so with more faults to foresee. -/
lemma Exit.Foreseen.mono {C' : Fault → Prop} {x : Exit α} (foreseen : x.Foreseen C)
    (causes : ∀ f, C f → C' f) : x.Foreseen C' := by
  cases x with
  | returned v => trivial
  | cancelled => exact foreseen
  | failed e =>
      cases e with
      | expected e => cases e <;> exact foreseen
      | unexpected f => exact causes f foreseen

/-- A foreseen outcome is a value, a failure or a fault with a cause. -/
lemma Exit.Foreseen.meets {x : Exit α} (foreseen : x.Foreseen C) : x.Meets C fun _ => True := by
  cases x with
  | returned v => trivial
  | cancelled => exact foreseen
  | failed e =>
      cases e with
      | expected e => trivial
      | unexpected f => exact foreseen

/-- What follows a value. -/
lemma Routine.Delivers.foreseen {β : Type} {R : Regime Studio Unit} {r : StudioRoutine α}
    {f : α → StudioRoutine β} (first : r.Delivers R (Exit.Foreseen C))
    (rest : ∀ v, (f v).Delivers R (Exit.Foreseen C)) : (r.bind f).Delivers R (Exit.Foreseen C) :=
  Obeys.bind first (fun _ v _ => rest v)
    (fun _ e foreseen => by
      cases e with
      | expected e => cases e <;> exact foreseen
      | unexpected f => exact foreseen) fun _ => id

/-! ## Files -/

/-- A reply of the operating system as an end. -/
def Exit.ofReply : Except OsError α → Exit α
  | .ok v => .returned v
  | .error e => .failed (.unexpected (.os e))

namespace Studio

variable {path : Path} {S : Exit α → Prop}

/-- A reply of the operating system ends as itself, an error as a fault. -/
lemma delivers_orFault {R : Regime Studio Unit} {reply : Except OsError α}
    (ends : S (.ofReply reply)) :
    (orFault reply).Delivers R S := by
  cases reply <;> exact delivers_done ends

/-- Something that happens at once, on a path that can be handed over. -/
lemma delivers_atOnce {a : StudioAct} {h : a.Val = Except OsError α}
    (plain : pathFault? path = none)
    (replies : ∀ reply : a.Val, P (.asked (.act a) reply) → S (.ofReply (h ▸ reply))) :
    (atOnce path a h).Delivers (.hearing P) S := by
  unfold atOnce
  rw [plain]
  exact (delivers_act (E := Studio) a).andThen fun reply heard =>
    delivers_orFault (replies reply heard)

/-- Something that takes time, on a path. -/
lemma delivers_inTime (answered : ∀ e, P e → e.Answered) {w : StudioWait}
    {h : w.Ans = Except OsError α}
    (withheld : ∀ f, pathFault? path = some f → S (.failed (.unexpected f)))
    (replies : ∀ reply : w.Ans, P (.awaited (.wait w) (.returned reply)) →
      S (.ofReply (h ▸ reply))) :
    (inTime path w h).Delivers (.hearing P) S := by
  refine (delivers_wait answered .pause).andThen fun _ _ => ?_
  have waits : Delivers (Regime.hearing P) S
      ((Studio.wait w).bind fun reply => orFault (h ▸ reply : Except OsError α)) :=
    (delivers_wait answered w).andThen fun reply heard => delivers_orFault (replies reply heard)
  cases checked : pathFault? path with
  | some f => exact delivers_done (withheld f checked)
  | none => exact waits

/-- The same on a path that can be handed over. -/
lemma delivers_inTime_plain (answered : ∀ e, P e → e.Answered) {w : StudioWait}
    {h : w.Ans = Except OsError α} (plain : pathFault? path = none)
    (replies : ∀ reply : w.Ans, P (.awaited (.wait w) (.returned reply)) →
      S (.ofReply (h ▸ reply))) :
    (inTime path w h).Delivers (.hearing P) S :=
  delivers_inTime answered (fun f withheld => by rw [plain] at withheld; cases withheld) replies

/-- A file is read or written: what the operating system says against it is said on. -/
lemma delivers_file (answered : ∀ e, P e → e.Answered) {w : StudioWait}
    {h : w.Ans = Except OsError α} (withheld : ∀ f, pathFault? path = some f → C f)
    (trouble : ∀ e, C (.os e)) :
    (inTime path w h).Delivers (.hearing P) (Exit.Meets C fun _ => True) :=
  delivers_inTime answered withheld fun reply _ => by
    generalize (h ▸ reply : Except OsError α) = given
    cases given with
    | ok v => trivial
    | error e => exact trouble e

/-- Asking whether a path is a directory fails at most with an error of the system. -/
lemma delivers_isDirectory (path : Path) (trouble : ∀ e, C (.os e)) :
    (isDirectory path).Delivers (.hearing P) (Exit.Meets C fun _ => True) := by
  have asks : (perform (.isDirectory path)).Delivers (.hearing P)
      (Exit.Returns fun v => P (.asked (.act (.isDirectory path)) v)) := delivers_act _
  unfold isDirectory
  split
  · exact delivers_done trivial
  · refine asks.andThen fun reply _ => ?_
    cases reply with
    | ok _ => exact delivers_done trivial
    | error e => exact delivers_done (trouble e)

end Studio

/-! ## Programs -/

/-- What is wrong with the output of a program is wrong with one of its lines. -/
lemma Tool.exists_of_fault? {duration : Option Binary64} {channels : Channels} {f : Fault}
    (fault : fault? duration channels = some f) :
    (∃ line ∈ channels.output ++ channels.errors, overrun? line = some f)
      ∨ ∃ line ∈ channels.output, Report.processedSeconds (Text.lossyChars line) = .error f := by
  rw [fault?, Option.or_eq_some_iff] at fault
  rcases fault with fault | ⟨-, fault⟩
  · obtain ⟨line, written, fault⟩ := List.exists_of_findSome?_eq_some fault
    rw [lineFault?, Option.or_eq_some_iff] at fault
    rcases fault with long | ⟨-, bad⟩
    · exact .inl ⟨line, List.mem_append_left _ written, long⟩
    · refine .inr ⟨line, written, ?_⟩
      unfold reportFault? at bad
      split at bad
      · rename_i wrong
        cases bad
        exact wrong
      · cases bad
  · obtain ⟨line, written, long⟩ := List.exists_of_findSome?_eq_some fault
    exact .inl ⟨line, List.mem_append_right _ written, long⟩

/-! ## The engine -/

namespace Engine

/-- The workspace that the shared record has shown to a routine that looked. -/
def Shown (P : Event Studio → Prop) (p : Path) : Prop :=
  ∃ s : EngineState, P (.asked .get s) ∧ s.workspace = some p

/-- A path below the workspace that the system does not take has a cause: the workspace. -/
lemma Shown.causes {p : Path} {f : Fault} (blames : Blames P C) (shown : Shown P p)
    (withheld : p.Withheld f) : C f := by
  obtain ⟨s, heard, here⟩ := shown
  exact blames.causes _ f heard (.store here withheld)

variable (blames : Blames P C)

/-- The shared record is heard as it is. -/
lemma delivers_getState :
    getState.Delivers (.hearing P) (Exit.Returns fun s => P (.asked .get s)) :=
  delivers_get

/-- The workspace is one that the shared record has shown. -/
lemma delivers_workspace : workspace.Delivers (.hearing P) (Exit.Meets C (Shown P)) := by
  refine delivers_getState.andThen fun s heard => ?_
  cases here : s.workspace with
  | some p => exact delivers_done ⟨s, heard, here⟩
  | none => exact delivers_done trivial

/-- A file's path is below the workspace, and a bad name is a fault with a cause. -/
lemma delivers_pathOf {name : String} (bad : isFileName name = false → C (.badFileName name)) :
    (pathOf name).Delivers (.hearing P)
      (Exit.Meets C fun q => ∃ p, Shown P p ∧ q = p.child name) := by
  unfold pathOf
  split
  · rename_i wrong
    exact delivers_done (bad (by simpa using wrong))
  · exact delivers_workspace.bind fun p shown => delivers_done ⟨p, shown, rfl⟩

/-! ### Emptying the workspace -/

/-- A name that the workspace has been listed with. -/
def Listed (P : Event Studio → Prop) (name : String) : Prop :=
  ∃ p names, P (.awaited (.wait (.list p)) (.returned (Except.ok names))) ∧ name ∈ names

include blames in
/-- Deleting a listed file ends with nothing worse than an error of the system and the faults that
have causes. -/
lemma delivers_deleteFile {name : String} (listed : Listed P name) :
    (deleteFile name).Delivers (.hearing P) (Exit.Meets (Troubles C) fun _ => True) := by
  obtain ⟨p, names, heard, listed⟩ := listed
  have named : (pathOf name).Delivers (.hearing P)
      (Exit.Meets (Troubles C) fun q => ∃ p, Shown P p ∧ q = p.child name) :=
    delivers_pathOf fun bad => .inl (blames.causes _ _ heard (.listedName listed bad))
  refine named.bind fun q below => ?_
  obtain ⟨p, shown, rfl⟩ := below
  have withheld : ∀ f, Studio.pathFault? (p.child name) = some f → Troubles C f := by
    intro f fault
    by_cases bad : SpawnProblem.ofText? name = none
    · exact .inl (shown.causes blames (.inr ⟨name, bad, fault⟩))
    · exact .inl (blames.causes _ _ heard (.listedPath listed bad fault))
  have trouble : ∀ e, Troubles C (.os e) := fun e => .inr ⟨e, rfl⟩
  refine (Studio.delivers_isDirectory _ trouble).bind fun directory _ => ?_
  split
  · exact Studio.delivers_file blames.answered withheld trouble
  · exact Studio.delivers_file blames.answered withheld trouble

include blames in
/-- A file that cannot be deleted is passed over. -/
lemma delivers_deleteAll {names : List String} (listed : ∀ name ∈ names, Listed P name)
    (count : Nat) :
    (deleteAll count names).Delivers (.hearing P) (Exit.Meets C fun _ => True) := by
  induction names generalizing count with
  | nil => exact delivers_done trivial
  | cons name rest ih =>
      rw [List.forall_mem_cons] at listed
      refine (delivers_deleteFile blames listed.1).handle fun x meets => ?_
      cases x with
      | returned u => exact ih listed.2 (count + 1)
      | cancelled => exact meets.elim
      | failed e =>
          cases e with
          | expected e => exact delivers_done trivial
          | unexpected f =>
              cases f
              case os e => exact ih listed.2 count
              all_goals
                rcases meets with known | ⟨e, same⟩
                · exact delivers_done known
                · cases same

include blames in
/-- The workspace is listed with the names that were heard. -/
lemma delivers_list : list.Delivers (.hearing P)
    (Exit.Meets C fun names => ∀ name ∈ names, Listed P name) := by
  refine delivers_getState.andThen fun s heard => ?_
  cases here : s.workspace with
  | none => exact delivers_done fun name listed => absurd listed List.not_mem_nil
  | some p =>
      have shown : Shown P p := ⟨s, heard, here⟩
      refine Studio.delivers_inTime blames.answered
        (fun f fault => shown.causes blames (.inl fault)) fun reply heard => ?_
      change StudioWait.Ans (.list p) at reply
      cases reply with
      | ok names => exact fun name listed => ⟨p, names, heard, listed⟩
      | error e => exact blames.causes _ _ heard .list

include blames in
/-- Emptying the workspace ends with a value or a fault that has a cause: the errors of deletions
are swallowed. -/
lemma delivers_purge : purge.Delivers (.hearing P) (Exit.Meets C fun _ => True) :=
  (delivers_list blames).bind fun _ listed => delivers_deleteAll blames listed 0

include blames in
/-- The workspace is emptied at the end. -/
lemma delivers_session {N : Type} {r : NotingRoutine N α}
    (inside : r.Delivers ((Regime.hearing P).noting N) (Exit.Meets C Q)) :
    (session r).Delivers ((Regime.hearing P).noting N) (Exit.Meets C Q) := by
  refine Delivers.within blames.answered (inside.ensuring ?_)
  exact Delivers.lift ((delivers_purge blames).bind fun _ _ => delivers_done trivial)

/-! ### Files and programs -/

include blames in
/-- Something is done with a file of an export. -/
lemma delivers_withFile {name : String} (plain : Path.IsPlain name) (trouble : ∀ e, C (.os e))
    {w : Path → StudioWait} {h : ∀ path, (w path).Ans = Except OsError α} :
    ((pathOf name).bind fun path => Studio.inTime path (w path) (h path)).Delivers (.hearing P)
      (Exit.Meets C fun _ => True) := by
  have named : (pathOf name).Delivers (.hearing P)
      (Exit.Meets C fun q => ∃ p, Shown P p ∧ q = p.child name) :=
    delivers_pathOf fun bad => by
      rw [isFileName_of_isName plain.isName] at bad
      cases bad
  refine named.bind fun q below => ?_
  obtain ⟨p, shown, rfl⟩ := below
  exact Studio.delivers_file blames.answered
    (fun f fault => shown.causes blames (.inr ⟨name, plain.ofText?_eq_none, fault⟩)) trouble

include blames in
/-- A probe that fails says nothing. -/
lemma delivers_duration? (settings : Settings) {name : String} (isName : Path.IsName name) :
    (duration? settings name).Delivers (.hearing P) (Exit.Meets C fun _ => True) := by
  have named : (pathOf name).Delivers (.hearing P)
      (Exit.Meets C fun q => ∃ p, Shown P p ∧ q = p.child name) :=
    delivers_pathOf fun bad => by
      rw [isFileName_of_isName isName] at bad
      cases bad
  refine named.bind fun q _ => ?_
  refine (Tool.delivers_collect blames.answered _).andThen fun collected heard => ?_
  cases collected with
  | ok c => exact delivers_done trivial
  | error problem =>
      cases problem with
      | os e => exact delivers_done trivial
      | nullArgument =>
          exact delivers_done (blames.causes _ _ heard (.spawn fun _ same => by cases same))
      | unencodable p =>
          exact delivers_done (blames.causes _ _ heard (.spawn fun _ same => by cases same))

include blames in
/-- What comes of a rendering is what the backend expects, unless something has broken it. -/
lemma delivers_render (settings : Settings) (arguments : List String) (duration : Option Binary64)
    (trouble : ∀ e, C (.os e)) :
    (render settings arguments duration).Delivers ((Regime.hearing P).noting Binary64)
      (Exit.Meets C fun _ => True) := by
  refine delivers_workspace.lift.bind fun directory _ => ?_
  refine (Tool.delivers_run blames.answered _ _ _ _).mono fun x ran => ?_
  cases ran with
  | unspawned refused =>
      rename_i problem
      cases problem with
      | os e =>
          unfold Tool.refusal
          dsimp only
          split
          · trivial
          · exact trouble e
      | nullArgument => exact blames.causes _ _ refused (.spawn fun _ same => by cases same)
      | unencodable p => exact blames.causes _ _ refused (.spawn fun _ same => by cases same)
  | unread spawned attached fault =>
      rcases Tool.exists_of_fault? fault with ⟨line, written, long⟩ | ⟨line, written, bad⟩
      · exact blames.causes _ _ attached (.line written long)
      · exact blames.causes _ _ attached (.time written bad)
  | ended =>
      unfold Tool.ending
      split
      · trivial
      · trivial

/-! ### Loading -/

include blames in
/-- Waiting for the engine's load ends with a value, with a failure in the engine's words or with a
fault that has a cause. -/
lemma delivers_load : load.Delivers (.hearing P) (Exit.Meets C fun _ => True) := by
  have starts (s : EngineState) : (currentLoad s).Delivers (.hearing P)
      (Exit.Returns fun _ => True) := by
    unfold currentLoad
    split
    · exact delivers_done ⟨_, rfl, trivial⟩
    · exact (delivers_start _).andThen fun t _ => (delivers_modify _).andThen fun _ _ =>
        delivers_done ⟨t, rfl, trivial⟩
  refine delivers_getState.andThen fun s _ => ?_
  split
  · exact delivers_done trivial
  · exact (starts s).andThen fun t _ =>
      delivers_watch blames.answered fun f heard => blames.causes _ _ heard .load

section Loads

variable (answered : ∀ e, P e → e.Answered) (settings : Settings)
  (refused : ∀ problem : SpawnProblem, (∀ e, problem ≠ .os e) →
    P (.asked (.act (.spawn [settings.ffmpeg, "-version"] none)) (Except.error problem)) →
      C problem.fault)
  (root : ∀ f, Studio.pathFault? (.ofText settings.workspaceRoot) = some f → C f)

include answered refused in
/-- Asking the program for its version ends as foreseen, whether it can be started or not. -/
lemma foresees_version :
    (Tool.version settings.ffmpeg).Delivers (.hearing P) (Exit.Foreseen C) := by
  refine (Tool.delivers_collect answered _).andThen fun collected heard => ?_
  cases collected with
  | ok c =>
      dsimp only
      split
      · exact delivers_done trivial
      · exact delivers_done trivial
  | error problem =>
      cases problem with
      | os e => exact delivers_done trivial
      | nullArgument =>
          exact delivers_done (refused .nullArgument (fun _ same => by cases same) heard)
      | unencodable p =>
          exact delivers_done (refused (.unencodable p) (fun _ same => by cases same) heard)

include answered root in
/-- So does making the workspace, with errors of the system among the faults. -/
lemma foresees_makeWorkspace :
    (Studio.makeWorkspace (.ofText settings.workspaceRoot) workspaceBeginning).Delivers
      (.hearing P) (Exit.Foreseen (Troubles C)) :=
  Studio.delivers_inTime answered (fun f fault => .inl (root f fault)) fun reply _ => by
    change Except OsError Path at reply
    cases reply with
    | ok path => trivial
    | error e => exact .inr ⟨e, rfl⟩

include answered refused root in
/-- **A load succeeds or fails in a foreseen way**, unless the program or the root of workspaces
cannot be handed over. -/
theorem foresees_loadOnce : (loadOnce settings).Delivers (.hearing P) (Exit.Foreseen C) := by
  refine (delivers_modify _).andThen fun _ _ => ?_
  have prepares : Delivers (Regime.hearing P) (Exit.Foreseen (Troubles C)) (do
      let version ← Tool.version settings.ffmpeg
      let workspace ← Studio.makeWorkspace (.ofText settings.workspaceRoot) workspaceBeginning
      return (version, workspace)) := by
    refine Delivers.foreseen ((foresees_version answered settings refused).mono fun x foreseen =>
      foreseen.mono fun _ => .inl) fun version => ?_
    exact Delivers.foreseen (foresees_makeWorkspace answered settings root) fun workspace =>
      delivers_done (x := .returned (version, workspace)) trivial
  refine prepares.handle fun x meets => ?_
  cases x with
  | cancelled => exact meets.elim
  | returned v =>
      refine (delivers_modify _).andThen fun _ _ => ?_
      exact (delivers_act (E := Studio) (.metric _)).mono fun x returns => by
        obtain ⟨v, rfl, -⟩ := returns
        trivial
  | failed e =>
      dsimp only
      cases foreseen : loadProblem? e with
      | some p =>
          refine (delivers_modify _).andThen fun _ _ => ?_
          exact (delivers_act (E := Studio) (.metric _)).andThen fun _ _ => delivers_done trivial
      | none =>
          refine delivers_done ?_
          cases e with
          | expected e => cases e <;> first | exact meets.elim | cases foreseen
          | unexpected f =>
              rcases meets with known | ⟨e, rfl⟩
              · exact known
              · cases foreseen

end Loads

include blames in
/-- **A load returns or fails in the engine's own words**, unless the root of workspaces cannot be
handed over or a reply has broken it. -/
theorem delivers_loadOnce (settings : Settings)
    (root : ∀ f, Studio.pathFault? (.ofText settings.workspaceRoot) = some f → C f) :
    (loadOnce settings).Delivers (.hearing P) (Exit.Meets C fun _ => True) :=
  (foresees_loadOnce blames.answered settings
    (fun _ other heard => blames.causes _ _ heard (.spawn other)) root).mono
    fun _ foreseen => foreseen.meets

end Engine

/-! ## Exports on the engine -/

namespace LocalBackend

/-- Telling a progress cannot fail. -/
lemma delivers_report (phase : Phase) (progress : Binary64) (message : String) :
    (report phase progress message).Delivers ((Regime.hearing P).noting ProgressUpdate)
      (Exit.Meets C fun _ => True) :=
  (delivers_note _).mono fun _ returns => returns.meets

/-- What the operating system says is said on as the backend's own failure. -/
lemma delivers_filesExpected {r : NotingRoutine ProgressUpdate α}
    (inside : r.Delivers ((Regime.hearing P).noting ProgressUpdate)
      (Exit.Meets (Troubles C) Q)) :
    (filesExpected r).Delivers ((Regime.hearing P).noting ProgressUpdate) (Exit.Meets C Q) := by
  refine inside.handle fun x meets => ?_
  cases x with
  | returned v => exact delivers_done meets
  | cancelled => exact meets.elim
  | failed e =>
      cases e with
      | expected e => exact delivers_done trivial
      | unexpected f =>
          cases f
          case os e => exact delivers_done trivial
          all_goals
            rcases meets with known | ⟨e, same⟩
            · exact delivers_done known
            · cases same

variable (blames : Blames P C)

include blames in
/-- Storing files with plain names fails at most with an error of the system. -/
lemma delivers_storeFiles (trouble : ∀ e, C (.os e)) (clips total index : Nat)
    {files : List (String × ByteArray)} (plain : ∀ file ∈ files, Path.IsPlain file.1) :
    (storeFiles clips total index files).Delivers ((Regime.hearing P).noting ProgressUpdate)
      (Exit.Meets C fun _ => True) := by
  induction files generalizing index with
  | nil => exact delivers_done trivial
  | cons file rest ih =>
      rw [List.forall_mem_cons] at plain
      have writes : (Engine.writeFile file.1 file.2).Delivers (.hearing P)
          (Exit.Meets C fun _ => True) :=
        Engine.delivers_withFile (w := fun path => .write path file.2) (h := fun _ => rfl)
          blames plain.1 trouble
      refine writes.lift.bind fun _ _ => (delivers_report _ _ _).bind fun _ _ => ?_
      exact ih (index + 1) plain.2

variable (settings : Settings) (g : Graph) {t : Timeline} (payloads : Payloads)

include blames in
/-- Rendering ends with a video, with a failure in the backend's words or with a fault that has a
cause. -/
lemma delivers_render (base : t.clips ≠ []) (trouble : ∀ e, C (.os e)) :
    (render settings g t payloads).Delivers ((Regime.hearing P).noting ProgressUpdate)
      (Exit.Meets C fun _ => True) := by
  have numbered : ∀ file ∈ t.inputNames.zip payloads.files, file.1 ∈ t.inputNames :=
    fun file listed => (List.of_mem_zip listed).1
  have some : t.inputNames ≠ [] := by
    intro none
    have := congrArg List.length none
    simp [Timeline.inputNames, fileNames, base] at this
  have first : t.inputNames.headD "" ∈ t.inputNames := by
    obtain ⟨name, rest, same⟩ := List.exists_cons_of_ne_nil some
    rw [same]
    exact List.mem_cons_self
  have reads : (Engine.readFile outputName).Delivers (.hearing P) (Exit.Meets C fun _ => True) :=
    Engine.delivers_withFile (w := .read) (h := fun _ => rfl) blames isPlain_outputName
      trouble
  refine (delivers_storeFiles blames trouble _ _ 0
    fun file listed => isPlain_of_mem_fileNames (numbered file listed)).bind fun _ _ => ?_
  refine (Engine.delivers_duration? blames settings (isName_of_mem_fileNames first)).lift.bind
    fun probed _ => ?_
  refine (delivers_report _ _ _).bind fun _ _ => ?_
  refine ((Engine.delivers_render blames settings _ _ trouble).relay renderingUpdate).bind
    fun _ _ => ?_
  exact (delivers_report _ _ _).bind fun _ _ => reads.lift

include blames in
/-- **An export on the engine returns a video or fails in the backend's own words**, unless a reply
has broken it. -/
theorem delivers_execute (base : t.clips ≠ []) :
    (execute settings g t payloads).Delivers ((Regime.hearing P).noting ProgressUpdate)
      (Exit.Meets C fun _ => True) := by
  have loads : Engine.load.Delivers (.hearing P) (Exit.Meets C fun _ => True) :=
    Engine.delivers_load blames
  have renders : (filesExpected (render settings g t payloads)).Delivers
      ((Regime.hearing P).noting ProgressUpdate) (Exit.Meets C fun _ => True) :=
    delivers_filesExpected
      (delivers_render blames.troubles settings g payloads base fun e => .inr ⟨e, rfl⟩)
  unfold execute
  split
  · exact delivers_done trivial
  · refine (delivers_report _ _ _).bind fun _ _ => loads.lift.bind fun _ _ => ?_
    exact (Engine.delivers_session blames renders).bind fun output _ =>
      (delivers_report _ _ _).bind fun _ _ => delivers_done trivial

end LocalBackend

end Montage
