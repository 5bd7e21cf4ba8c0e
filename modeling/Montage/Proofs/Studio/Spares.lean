import Mathlib.Tactic.Common
import Montage.Proofs.Routine.Regime
import Montage.Studio.Classification
import Montage.Studio.RemoteBackend

/-!
# Routines that leave alone what is known

Most of what the studio does cannot change what a routine knows, whatever that is.  It is enough to
look at single effects.

* `Regime.Spares` — certain effects leave alone what is known.
* `Tool.maintains_collect`, `Tool.obeys_run` — programs.
* `Engine.maintains_purge`, `Engine.maintains_readFile`, … — the files of the workspace.
* `Regime.Ignores` — nothing that is asked of the surroundings matters;
  **`LocalBackend.maintains_execute`** — then an execution may matter only when it loads the engine.
* `Classification.maintains_classify`, `RemoteBackend.maintains_execute` — the network does not
  matter either.
-/

namespace Montage

open Routine

variable {S : Type}

/-- What is known stays known when the record is read, when these effects happen, and when these
waits are over. -/
structure Regime.Spares (R : Regime Studio S) (I : S → Prop) (acts : StudioAct → Prop)
    (waits : StudioWait → Prop) : Prop where
  get : ∀ a, I a → R.mayAsk a .get ∧ ∀ s b, R.asked a .get s b → I b
  act : ∀ e, acts e → ∀ a, I a → R.mayAsk a (.act e) ∧ ∀ v b, R.asked a (.act e) v b → I b
  wait : ∀ q, waits q → ∀ a, I a →
    R.mayAwait a (.wait q) ∧ ∀ x b, R.awaited a (.wait q) x b → I b

variable {R : Regime Studio S} {I : S → Prop} {acts : StudioAct → Prop} {waits : StudioWait → Prop}
  (spares : R.Spares I acts waits)

namespace Studio

include spares in
/-- To look at what is known of the engine is no matter. -/
lemma maintains_get : (Routine.get (E := Studio)).Maintains R I :=
  maintains_ask (fun a known => (spares.get a known).1)
    (fun a v b known => (spares.get a known).2 v b) fun _ => maintains_done _

include spares in
/-- To do something at once, if it is of the acts that are no matter. -/
lemma maintains_perform {e : StudioAct} (may : acts e) : (perform e).Maintains R I :=
  maintains_ask (fun a known => (spares.act e may a known).1)
    (fun a v b known => (spares.act e may a known).2 v b) fun _ => maintains_done _

include spares in
/-- To wait for something, if it is of the suspensions that are no matter. -/
lemma maintains_wait {q : StudioWait} (may : waits q) : (wait q).Maintains R I :=
  maintains_await (fun a known => (spares.wait q may a known).1)
    (fun a x b known => (spares.wait q may a known).2 x b) fun _ => maintains_done _

include spares in
/-- A call with a path first asks whether the path has bytes; if it has none there is only a
pause. -/
lemma maintains_inTime {α : Type} {path : Path} {q : StudioWait}
    (same : q.Ans = Except OsError α) (pauses : waits .pause) (may : waits q) :
    (inTime path q same).Maintains R I := by
  unfold inTime
  refine (maintains_wait spares pauses).bind fun _ => ?_
  cases pathFault? path with
  | some f => exact maintains_done _
  | none => exact (maintains_wait spares may).bind fun _ => maintains_done _

end Studio

/-! ## Programs -/

namespace Tool

/-- These effects are enough to wait for a program, or to stop it. -/
structure Attends (acts : StudioAct → Prop) (waits : StudioWait → Prop) : Prop where
  isRunning : ∀ p, acts (.isRunning p)
  kill : ∀ p, acts (.kill p)
  attach : ∀ p, waits (.attach p)
  exit : ∀ p, waits (.exit p)
  collect : ∀ p, waits (.collect p)

variable (attends : Attends acts waits)

include spares attends in
/-- To stop a program is to kill it and to wait for its end; neither starts anything. -/
lemma maintains_stop (p : ProcessId) : (stop p).Maintains R I := by
  refine (Studio.maintains_perform spares (attends.isRunning p)).bind fun running => ?_
  cases running with
  | false => exact maintains_done _
  | true =>
      exact (Studio.maintains_perform spares (attends.kill p)).bind fun _ =>
        (Studio.maintains_wait spares (attends.exit p)).bind fun _ => maintains_done _

include spares attends in
lemma maintains_attach (p : ProcessId) : (attach p).Maintains R I := by
  refine (Studio.maintains_wait spares (attends.attach p)).handle fun x => ?_
  cases x with
  | returned c => exact maintains_done _
  | failed e => exact maintains_done _
  | cancelled => exact (maintains_stop spares attends p).bind fun _ => maintains_done _

include spares attends in
/-- To run a program to its end is no matter if to start it is none. -/
lemma maintains_collect {command : List String} (may : acts (.spawn command none)) :
    (collect command).Maintains R I := by
  refine (Studio.maintains_perform spares may).bind fun started => ?_
  cases started with
  | error e => exact maintains_done _
  | ok p =>
      exact (maintains_attach spares attends p).bind fun _ =>
        (Studio.maintains_wait spares (attends.collect p)).bind fun _ => maintains_done _

include spares attends in
/-- A probe is no matter if to start the prober on this path is none. -/
lemma maintains_duration {binary : String} {path : Path}
    (may : acts (.spawn (binary :: probeArguments path.text) none)) :
    (duration? binary path).Maintains R I := by
  refine (maintains_collect spares attends may).bind fun collected => ?_
  cases collected with
  | ok c => exact maintains_done _
  | error e => cases e <;> exact maintains_done _

include spares attends in
/-- To ask a program what it is is no matter if to start it so is none. -/
lemma maintains_version {binary : String} (may : acts (.spawn [binary, "-version"] none)) :
    (version binary).Maintains R I := by
  refine (maintains_collect spares attends may).bind fun collected => ?_
  cases collected with
  | error e => cases e <;> exact maintains_done _
  | ok c =>
      dsimp only
      split
      · exact maintains_done _
      · exact maintains_done _

/-! ### Renderings -/

variable {N : Type} (reads : ∀ p, waits (.line p))

include spares reads in
lemma maintains_takeLine (p : ProcessId) (line : ByteArray) : (takeLine p line).Maintains R I := by
  refine (Studio.maintains_wait spares (reads p)).bind fun _ => ?_
  cases overrun? line with
  | some f => exact maintains_done _
  | none => exact maintains_done _

include spares reads in
lemma maintains_followErrors (p : ProcessId) (errors : List ByteArray) :
    (followErrors p errors).Maintains R I := by
  unfold followErrors
  induction errors with
  | nil => exact maintains_done _
  | cons line rest ih => exact (maintains_takeLine spares reads p line).bind fun _ => ih

include spares reads in
/-- Following the output of a program takes its lines one by one; notes are free. -/
lemma maintains_followOutput (p : ProcessId) (duration : Option Binary64) (last : Binary64)
    (lines : List ByteArray) :
    (followOutput p duration last lines).Maintains (R.noting Binary64) I := by
  induction lines generalizing last with
  | nil => exact maintains_done _
  | cons line rest ih =>
      refine ((maintains_takeLine spares reads p line).lift Binary64).bind fun _ => ?_
      cases duration with
      | none => exact ih last
      | some d =>
          refine (maintains_done _).bind fun new => ?_
          cases new with
          | none => exact ih last
          | some percent => exact (maintains_note percent).bind fun _ => ih percent

include spares attends in
/-- Who guards a program does besides only what it takes to stop it. -/
lemma maintains_guarding {α : Type} (p : ProcessId) {r : NotingRoutine N α}
    (maintains : r.Maintains (R.noting N) I) : (guarding p r).Maintains (R.noting N) I := by
  refine maintains.handle fun x => ?_
  cases x with
  | returned a => exact maintains_done _
  | failed e => exact maintains_done _
  | cancelled =>
      exact ((maintains_stop spares attends p).lift N).bind fun _ => maintains_done _

include spares attends reads in
/-- All that matters of a rendering is its start. -/
lemma obeys_run {a : S} {binary : String} {arguments : List String} {directory : Option Path}
    {duration : Option Binary64}
    (may : R.mayAsk a (.act (.spawn (binary :: arguments) directory)))
    (next : ∀ v b, R.asked a (.act (.spawn (binary :: arguments) directory)) v b → I b) :
    (run binary arguments directory duration).Obeys (R.noting Binary64) (fun b _ => I b) a := by
  have begins : (Studio.spawn (binary :: arguments) directory).Obeys R (fun b _ => I b) a :=
    .ask may fun v b asked => .done (next v b asked)
  refine (begins.lift Binary64).bind (fun b started known => ?_) (fun _ _ => id) fun _ => id
  cases started with
  | error e =>
      cases e with
      | nullArgument => exact .done known
      | unencodable problem => exact .done known
      | os e =>
          dsimp only
          split
          · exact .done known
          · exact .done known
  | ok p =>
      have follows := fun channels : Channels => (maintains_followOutput spares reads p
        (measurable duration) 0 channels.output).bind fun _ =>
          ((maintains_followErrors spares reads p channels.errors).lift Binary64).bind fun _ =>
            (Studio.maintains_wait spares (attends.exit p)).lift Binary64
      refine ((maintains_attach spares attends p).lift Binary64).bind (fun channels => ?_) b known
      refine (maintains_guarding spares attends p (follows channels)).bind fun code => ?_
      split
      · exact maintains_done _
      · exact maintains_done _

end Tool

/-! ## The files of the workspace -/

namespace Studio

/-- Anything but a program that is started in a directory. -/
def IsPlain : StudioAct → Prop
  | .spawn _ (some _) => False
  | _ => True

end Studio

namespace Engine

include spares in
lemma maintains_workspace : workspace.Maintains R I := by
  refine (Studio.maintains_get spares).bind fun s => ?_
  cases s.workspace with
  | none => exact maintains_done _
  | some p => exact maintains_done _

include spares in
lemma maintains_pathOf (name : String) : (pathOf name).Maintains R I := by
  unfold pathOf
  cases isFileName name with
  | false => exact maintains_done _
  | true => exact (maintains_workspace spares).bind fun p => maintains_done _

variable (plain : R.Spares I Studio.IsPlain fun _ => True)

include plain in
lemma maintains_readFile (name : String) : (readFile name).Maintains R I :=
  (maintains_pathOf plain name).bind fun _ => Studio.maintains_inTime plain rfl trivial trivial

include spares in
/-- What is at a path is deleted, with everything in it. -/
lemma maintains_delete {path : Path} (looks : acts (.isDirectory path)) (pauses : waits .pause)
    (clears : waits (.removeTree path)) (unlinks : waits (.unlink path)) :
    ((Studio.isDirectory path).bind fun directory =>
      if directory = true then Studio.removeTree path else Studio.unlink path).Maintains R I := by
  have asks : (Studio.isDirectory path).Maintains R I := by
    unfold Studio.isDirectory
    split
    · exact maintains_done _
    · exact (Studio.maintains_perform spares looks).bind fun _ => maintains_done _
  refine asks.bind fun directory => ?_
  split
  · exact Studio.maintains_inTime spares rfl pauses clears
  · exact Studio.maintains_inTime spares rfl pauses unlinks

include plain in
lemma maintains_deleteFile (name : String) : (deleteFile name).Maintains R I :=
  (maintains_pathOf plain name).bind fun _ => maintains_delete plain trivial trivial trivial trivial

include plain in
lemma maintains_list : list.Maintains R I := by
  refine (Studio.maintains_get plain).bind fun s => ?_
  cases s.workspace with
  | none => exact maintains_done _
  | some p => exact Studio.maintains_inTime plain rfl trivial trivial

include plain in
/-- Deleting many files goes on after one that cannot be deleted, so it is no matter how each
ends. -/
lemma maintains_deleteAll (count : Nat) (names : List String) :
    (deleteAll count names).Maintains R I := by
  induction names generalizing count with
  | nil => exact maintains_done _
  | cons name rest ih =>
      refine (maintains_deleteFile plain name).handle fun x => ?_
      cases x with
      | returned u => exact ih (count + 1)
      | cancelled => exact maintains_done _
      | failed e =>
          cases e with
          | expected e => exact maintains_done _
          | unexpected f =>
              cases f with
              | os e => exact ih count
              | _ => exact maintains_done _

include plain in
lemma maintains_purge : purge.Maintains R I :=
  (maintains_list plain).bind fun names => maintains_deleteAll plain 0 names

end Engine

/-! ## Whole calls -/

/-- What is known stays known whatever is asked, unless it is about the record or about tasks. -/
structure Regime.Ignores (R : Regime Studio S) (I : S → Prop) : Prop
    extends R.Spares I (fun _ => True) fun _ => True where
  enter : ∀ g a, I a → R.mayAwait a (.enter g) ∧ ∀ x b, R.awaited a (.enter g) x b → I b
  leave : ∀ g a, I a → R.mayAsk a (.leave g) ∧ ∀ b, R.asked a (.leave g) () b → I b

variable {N α : Type} (ignores : R.Ignores I)

include ignores in
lemma Regime.Ignores.plain : R.Spares I Studio.IsPlain fun _ => True where
  get := ignores.get
  act e _ := ignores.act e trivial
  wait := ignores.wait

lemma Tool.attends_all : Tool.Attends (fun _ => True) fun _ => True :=
  ⟨fun _ => trivial, fun _ => trivial, fun _ => trivial, fun _ => trivial, fun _ => trivial⟩

namespace Engine

include ignores in
lemma maintains_writeFile (name : String) (content : ByteArray) :
    (writeFile name content).Maintains R I :=
  (maintains_pathOf ignores.toSpares name).bind fun _ =>
    Studio.maintains_inTime ignores.toSpares rfl trivial trivial

include ignores in
/-- What is done in a session is done behind the engine's gate, and the workspace is emptied
afterwards, before the place is given up. -/
lemma maintains_session {r : NotingRoutine N α} (behind : r.Maintains (R.noting N) I) :
    (session r).Maintains (R.noting N) I := by
  intro a known
  refine obeys_within (I := I) (ignores.enter .engine a known).1 (fun b entered => ?_)
    (fun x b _ stopped => (ignores.enter .engine a known).2 x b stopped)
    fun b inside => ignores.leave .engine b inside
  have purges := (maintains_purge ignores.plain).bind fun _ => maintains_done (.returned ())
  exact (behind.handle fun x => (purges.lift N).bind fun _ => maintains_done x) b
    ((ignores.enter .engine a known).2 (.returned ()) b entered)

include ignores in
lemma maintains_purgeExclusive : purgeExclusive.Maintains R I := by
  refine (Studio.maintains_get ignores.toSpares).bind fun s => ?_
  split
  · exact maintains_done _
  · intro a known
    exact obeys_within (I := I) (ignores.enter .engine a known).1
      (fun b entered => maintains_purge ignores.plain b
        ((ignores.enter .engine a known).2 (.returned ()) b entered))
      (fun x b _ stopped => (ignores.enter .engine a known).2 x b stopped)
      fun b inside => ignores.leave .engine b inside

end Engine

namespace LocalBackend

include ignores in
/-- Storing the payloads writes one file after the other; how far it is is noted before each. -/
lemma maintains_storeFiles (clips total index : Nat) (files : List (String × ByteArray)) :
    (storeFiles clips total index files).Maintains (R.noting ProgressUpdate) I := by
  induction files generalizing index with
  | nil => exact maintains_done _
  | cons f rest ih =>
      exact ((Engine.maintains_writeFile ignores f.1 f.2).lift ProgressUpdate).bind fun _ =>
        (maintains_note _).bind fun _ => ih (index + 1)

include ignores in
/-- A rendering stores the files, probes the base clip, runs the program and reads what it has
made. -/
lemma maintains_render (settings : Settings) (g : Graph) (t : Timeline) (payloads : Payloads) :
    (render settings g t payloads).Maintains (R.noting ProgressUpdate) I := by
  have probes : (Engine.duration? settings (t.inputNames.headD "")).Maintains R I :=
    (Engine.maintains_pathOf ignores.toSpares _).bind fun path =>
      Tool.maintains_duration ignores.toSpares Tool.attends_all trivial
  have renders : ∀ arguments duration,
      (Engine.render settings arguments duration).Maintains (R.noting Binary64) I :=
    fun arguments duration => ((Engine.maintains_workspace ignores.toSpares).lift Binary64).bind
      fun directory a known => Tool.obeys_run ignores.toSpares Tool.attends_all (fun _ => trivial)
        (ignores.act _ trivial a known).1 (ignores.act _ trivial a known).2
  have reads : (Engine.readFile outputName).Maintains R I :=
    Engine.maintains_readFile ignores.plain outputName
  exact (maintains_storeFiles ignores _ _ _ _).bind fun _ =>
    (probes.lift ProgressUpdate).bind fun _ => (maintains_note _).bind fun _ =>
      ((renders _ _).relay renderingUpdate).bind fun _ => (maintains_note _).bind fun _ =>
        reads.lift ProgressUpdate

include ignores in
/-- **An execution may concern what is known only when it loads the engine.** -/
lemma maintains_execute (loads : Engine.load.Maintains R I) (settings : Settings) (g : Graph)
    (t : Timeline) (payloads : Payloads) :
    (execute settings g t payloads).Maintains (R.noting ProgressUpdate) I := by
  have expects : (filesExpected (render settings g t payloads)).Maintains
      (R.noting ProgressUpdate) I :=
    (maintains_render ignores settings g t payloads).handle fun x => by
      split
      · exact maintains_done _
      · exact maintains_done _
  unfold execute
  split
  · exact maintains_done _
  · exact (maintains_note _).bind fun _ => (loads.lift ProgressUpdate).bind fun _ =>
      (Engine.maintains_session ignores expects).bind fun _ =>
        (maintains_note _).bind fun _ => maintains_done _

include ignores in
lemma maintains_cleanup : cleanup.Maintains R I :=
  (Engine.maintains_purgeExclusive ignores).bind fun _ => maintains_done _

end LocalBackend

/-! ## The network -/

namespace Http

include ignores in
lemma maintains_readPieces (pieces : List (Except Fault ByteArray)) :
    (readPieces pieces).Maintains R I := by
  induction pieces with
  | nil => exact maintains_done _
  | cons piece rest ih =>
      exact (Studio.maintains_wait ignores.toSpares trivial).bind fun _ =>
        (maintains_done _).bind fun _ => ih.bind fun _ => maintains_done _

lemma maintains_finish (r : Response) : (finish r).Maintains R I := by
  unfold finish
  cases r.broken with
  | some f => exact maintains_done _
  | none => exact maintains_done _

include ignores in
lemma maintains_readBody (r : Response) : (readBody r).Maintains R I :=
  (maintains_readPieces ignores _).bind fun _ => (maintains_finish r).bind fun _ => maintains_done _

lemma maintains_address (text : String) : (address text).Maintains R I := by
  refine (maintains_done _).bind fun u => ?_
  split
  · exact maintains_done _
  · exact maintains_done _

include ignores in
lemma maintains_exchange (u : Url) (request : HttpRequest) :
    (exchange u request).Maintains R I := by
  refine (Studio.maintains_wait ignores.toSpares trivial).bind fun reply => ?_
  refine (maintains_done _).bind fun r => (maintains_done _).bind fun _ =>
    (maintains_done _).bind fun _ => ?_
  cases location? r with
  | none => exact maintains_done _
  | some location => exact (maintains_done _).bind fun _ => maintains_done _

include ignores in
/-- Redirects are followed at most so often, so this is by induction on how many are left. -/
lemma maintains_request (follow : Bool) (left : Nat) (u : Url) :
    (request follow left u).Maintains R I := by
  induction left generalizing u with
  | zero => exact maintains_done _
  | succ left ih =>
      refine (maintains_exchange ignores u _).bind fun ⟨r, next⟩ => ?_
      cases next with
      | none => exact maintains_done _
      | some next =>
          dsimp only
          split
          · exact (maintains_readBody ignores r).bind fun _ => ih next
          · exact maintains_done _

include ignores in
/-- To fetch an address is to read it, to ask for it, and to read the body. -/
lemma maintains_fetch (follow : Bool) (text : String) : (fetch follow text).Maintains R I := by
  refine (maintains_address text).bind fun u => (maintains_done _).bind fun _ => ?_
  refine (maintains_request ignores follow requestLimit u).bind fun ⟨u, r⟩ => ?_
  refine (maintains_readBody ignores r).bind fun _ => ?_
  split
  · exact maintains_done _
  · exact maintains_done _

include ignores in
lemma maintains_submit (text : String) (parts : List FormPart) :
    (submit text parts).Maintains R I :=
  (maintains_address text).bind fun u => (maintains_done _).bind fun _ =>
    (maintains_done _).bind fun _ => (maintains_exchange ignores u _).bind fun _ => maintains_done _

end Http

namespace Classification

include ignores in
lemma maintains_readingExpected (follow : Bool) (source : String) :
    (readingExpected source (fetchFile follow source)).Maintains R I := by
  have fetches : (fetchFile follow source).Maintains R I := by
    unfold fetchFile
    split
    · exact Http.maintains_fetch ignores follow source
    · exact (maintains_done _).bind fun path =>
        Studio.maintains_inTime ignores.toSpares rfl trivial trivial
  refine fetches.handle fun x => ?_
  cases x with
  | returned content => exact maintains_done _
  | cancelled => exact maintains_done _
  | failed e =>
      cases e with
      | expected e => exact maintains_done _
      | unexpected f =>
          dsimp only
          split
          · exact maintains_done _
          · exact maintains_done _

include ignores in
/-- The files are read one after the other, by induction on those that are left. -/
lemma maintains_readAll (follow : Bool) (total index : Nat) (sources : List String) :
    (readAll follow total index sources).Maintains (R.noting ProgressUpdate) I := by
  induction sources generalizing index with
  | nil => exact maintains_done _
  | cons source rest ih =>
      exact (maintains_note _).bind fun _ =>
        ((maintains_readingExpected ignores follow source).lift ProgressUpdate).bind fun _ =>
          (ih (index + 1)).bind fun _ => maintains_done _

include ignores in
lemma maintains_classify (follow : Bool) (t : Timeline) :
    (classify follow t).Maintains (R.noting ProgressUpdate) I :=
  (maintains_readAll ignores follow _ 0 _).bind fun _ =>
    (maintains_note _).bind fun _ => maintains_done _

end Classification

namespace RemoteBackend

open LocalBackend (report)

include ignores in
/-- The body comes in pieces; how far it is is noted after each. -/
lemma maintains_receive (expected : Int) (received : Nat)
    (pieces : List (Except Fault ByteArray)) :
    (receive expected received pieces).Maintains (R.noting ProgressUpdate) I := by
  induction pieces generalizing received with
  | nil => exact maintains_done _
  | cons piece rest ih =>
      refine ((Studio.maintains_wait ignores.toSpares trivial).lift ProgressUpdate).bind fun _ => ?_
      refine (maintains_done _).bind fun content => ?_
      dsimp only
      split
      · exact (maintains_note _).bind fun _ => (ih _).bind fun _ => maintains_done _
      · exact (ih _).bind fun _ => maintains_done _

include ignores in
lemma maintains_exchange (settings : Settings) (s : Submission) :
    (exchange settings s).Maintains (R.noting ProgressUpdate) I := by
  refine ((Http.maintains_submit ignores _ _).lift ProgressUpdate).bind fun r => ?_
  have receives : ∀ u : Unit, (do
      report .processing 100 "Cloud processing finished"
      report .finalizing 0 "Downloading..."
      let expected ← Routine.ofFault (announcedLength r)
      let parts ← receive expected 0 (Http.pieces r)
      Routine.lift (Http.finish r)
      return Http.concat parts : NotingRoutine ProgressUpdate ByteArray).Maintains
        (R.noting ProgressUpdate) I := fun u =>
    (maintains_note _).bind fun _ => (maintains_note _).bind fun _ =>
      (maintains_done _).bind fun expected => (maintains_receive ignores expected 0 _).bind fun _ =>
        ((Http.maintains_finish r).lift ProgressUpdate).bind fun _ => maintains_done _
  split
  · exact ((Http.maintains_readBody ignores r).lift ProgressUpdate).bind fun _ =>
      (maintains_done _).bind fun _ => (maintains_done _).bind receives
  · exact receives ()

include ignores in
lemma maintains_execute (settings : Settings) (t : Timeline) (payloads : Payloads) :
    (execute settings t payloads).Maintains (R.noting ProgressUpdate) I := by
  have transports : ∀ submission, (transportExpected (exchange settings submission)).Maintains
      (R.noting ProgressUpdate) I := fun submission =>
    (maintains_exchange ignores settings submission).handle fun x => by
      split
      · split
        · exact maintains_done _
        · split
          · exact maintains_done _
          · exact maintains_done _
      · exact maintains_done _
  have closes : ∀ (output : ByteArray) (u : Unit), (do
      report .finalizing 100 "Export complete!"
      return output : NotingRoutine ProgressUpdate ByteArray).Maintains
        (R.noting ProgressUpdate) I := fun output u =>
    (maintains_note _).bind fun _ => maintains_done _
  refine (maintains_note _).bind fun _ => (maintains_done _).bind fun submission =>
    (maintains_note _).bind fun _ => (maintains_note _).bind fun _ =>
      (transports submission).bind fun output => ?_
  split
  · exact (maintains_done _).bind (closes output)
  · exact closes output ()

end RemoteBackend

end Montage
