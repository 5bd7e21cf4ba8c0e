import Montage.Graph.Compile
import Montage.Proofs.Studio.Exchanges

/-!
# How executions end

A backend either returns a video or fails in the export's own words.  A fault of another kind comes
out of it only where a reply has broken it, and then the history shows which.

* `History.Causes` — a history shows what has broken an execution.
* `executions_typed` — **the ends of both backends**, and of the load that the engine's waits for.
* `listing_breaks_execution` — a video is lost when the workspace cannot be listed at the end.
-/

namespace Montage

open Routine

/-- A reply has broken the execution with this fault. -/
def History.Causes (h : History Studio) (f : Fault) : Prop := ∃ e ∈ h, e.Causes f

lemma History.Answered.blames {h : History Studio} (answered : h.Answered) {C : Fault → Prop}
    (causes : ∀ f, h.Causes f → C f) : Blames (· ∈ h) C :=
  ⟨answered, fun e f heard broken => causes f ⟨e, heard, broken⟩⟩

lemma Timeline.clips_ne_nil {t : Timeline} (valid : t.validate = .ok ()) : t.clips ≠ [] := by
  intro none
  rw [validate, none] at valid
  cases valid

/-- **A backend returns a video or fails in the export's own words**, and so does a load of the
engine: whatever else comes out of them is the fault of a reply, of a form that cannot be made or
sent, or of a root of workspaces that cannot be handed over.  A form cannot be made when the
timeline has an integer of too many digits. -/
theorem executions_typed (settings : Settings) (g : Graph) (t : Timeline) (payloads : Payloads)
    (h : History Studio) (valid : t.validate = .ok ()) (answered : h.Answered) :
    (∀ x, (LocalBackend.execute settings g t payloads).gather.Plays h x →
      ∃ notes y, x = .returned (notes, y) ∧ y.Meets h.Causes fun _ => True)
    ∧ (∀ x, (Engine.loadOnce settings).Plays h x →
      x.Meets (fun f => Studio.pathFault? (.ofText settings.workspaceRoot) = some f ∨ h.Causes f)
        fun _ => True)
    ∧ ∀ x, (RemoteBackend.execute settings t payloads).gather.Plays h x →
      ∃ notes y, x = .returned (notes, y) ∧ y.Meets (fun f =>
        RemoteBackend.Unsendable settings t payloads f ∨ h.Causes f) fun _ => True := by
  refine ⟨fun x plays => ?_, fun x plays => ?_, fun x plays => ?_⟩
  · have delivers := LocalBackend.delivers_execute (answered.blames fun _ => id) settings g payloads
      (Timeline.clips_ne_nil valid)
    exact Delivers.of_plays (Obeys.gatherFrom delivers []) plays fun _ => id
  · have delivers := Engine.delivers_loadOnce (C := fun f =>
      Studio.pathFault? (.ofText settings.workspaceRoot) = some f ∨ h.Causes f)
      (answered.blames fun _ => .inr) settings fun _ => .inl
    exact Delivers.of_plays delivers plays fun _ => id
  · have delivers := RemoteBackend.delivers_execute (C := fun f =>
      RemoteBackend.Unsendable settings t payloads f ∨ h.Causes f)
      (answered.blames fun _ => .inr) settings t payloads fun _ => .inl
    exact Delivers.of_plays (Obeys.gatherFrom delivers []) plays fun _ => id

/-- A directory for whatever needs one. -/
def oneDirectory : Path := ⟨.slash, ["ws"]⟩

/-- Surroundings in which all goes well, but perhaps the listing of a directory, or the reading of a
file. -/
def oneWorkspace (listing : Except OsError (List String)) (content : Except OsError ByteArray) :
    Replies Studio where
  onRequest
    | .act (.metric _) => ()
    | .act (.isDirectory _) => Except.ok false
    | .act (.makeDirectory _) => Except.ok ()
    | .act (.makeDirectories _) => Except.ok ()
    | .act (.makeTemporary _ _) => Except.ok oneDirectory
    | .act (.createFile _) => Except.ok ()
    | .act (.spawn _ _) => Except.ok (0 : ProcessId)
    | .act (.isRunning _) => false
    | .act (.kill _) => ()
    | .get => ({ phase := .loaded, workspace := some oneDirectory } : EngineState)
    | .set _ => ()
    | .leave _ => ()
    | .start _ => (0 : TaskId)
    | .cancel _ => false
    | .cancelling => false
  onSuspension
    | .wait .pause => .returned ()
    | .wait (.read _) => .returned content
    | .wait (.write _ _) => .returned (Except.ok ())
    | .wait (.append _ _) => .returned (Except.ok ())
    | .wait (.unlink _) => .returned (Except.ok ())
    | .wait (.removeTree _) => .returned (Except.ok ())
    | .wait (.list _) => .returned listing
    | .wait (.makeWorkspace _ _) => .returned (Except.ok oneDirectory)
    | .wait (.attach _) => .returned ({} : Channels)
    | .wait (.line _) => .returned ()
    | .wait (.exit _) => .returned (0 : Int)
    | .wait (.collect _) => .returned (⟨0, "10.0".toUTF8, "".toUTF8⟩ : Collected)
    | .wait (.send _) => .returned (Except.ok ({ chunks := ["video".toUTF8] } : Response))
    | .wait .piece => .returned ()
    | .enter _ => .returned ()
    | .join .loadEngine _ => .returned ()
    | .watch .loadEngine _ => .returned ()

lemma answered_of_gave {listing : Except OsError (List String)}
    {content : Except OsError ByteArray} {e : Event Studio}
    (gave : (oneWorkspace listing content).Gave e) : e.Answered := by
  cases gave with
  | asked q => trivial
  | awaited s =>
      cases s with
      | wait w => cases w <;> exact ⟨_, rfl⟩
      | enter g => rfl
      | join j t =>
          cases j
          intro same
          cases same
      | watch j t =>
          cases j
          intro same
          cases same

/-- A timeline with one clip … -/
def oneClip : Timeline where
  canvasWidth := 2
  canvasHeight := 2
  clips := [⟨"c", ⟨0, 1⟩, "c.mp4", none, none, 0, 0⟩]
  images := []
  texts := []

/-- … and its graph. -/
def oneClipGraph : Graph where
  nodes :=
    [⟨["0:v"], [⟨"scale", [("w", "2"), ("h", "2")]⟩, ⟨"setsar", [("sar", "1")]⟩], "base"⟩,
     ⟨["base"], [⟨"copy", []⟩], "outv"⟩]

/-- The file of that clip. -/
def oneFile : Payloads := ⟨["clip".toUTF8], []⟩

/-- Where all goes well, a video is returned. -/
theorem executions_typed_sample :
    oneClip.validate = .ok () ∧ oneClip.compile = .ok oneClipGraph
    ∧ (∃ h notes y, History.Answered h
      ∧ (LocalBackend.execute {} oneClipGraph oneClip oneFile).gather.Plays h (.returned (notes, y))
      ∧ y.Meets h.Causes (fun _ => True) ∧ y = .returned "video".toUTF8)
    ∧ (∃ h x, History.Answered h ∧ (Engine.loadOnce {}).Plays h x
      ∧ x.Meets (fun f => Studio.pathFault? (.ofText "artifacts/engine_tmp") = some f ∨ h.Causes f)
        fun _ => True)
    ∧ ∃ h notes y, History.Answered h
      ∧ (RemoteBackend.execute {} oneClip oneFile).gather.Plays h (.returned (notes, y))
      ∧ y.Meets (fun f => RemoteBackend.Unsendable {} oneClip oneFile f ∨ h.Causes f)
        (fun _ => True)
      ∧ y = .returned "video".toUTF8 := by
  have typed (h : History Studio)
      (gave : ∀ e ∈ h, (oneWorkspace (.ok []) (.ok "video".toUTF8)).Gave e) :=
    executions_typed {} oneClipGraph oneClip oneFile h rfl fun e heard =>
      answered_of_gave (gave e heard)
  have answered (h : History Studio)
      (gave : ∀ e ∈ h, (oneWorkspace (.ok []) (.ok "video".toUTF8)).Gave e) : h.Answered :=
    fun e heard => answered_of_gave (gave e heard)
  refine ⟨rfl, by decide +kernel, ?_, ?_, ?_⟩
  · have ends : ((LocalBackend.execute {} oneClipGraph oneClip oneFile).gather.play
        (oneWorkspace (.ok []) (.ok "video".toUTF8))).2.map Prod.snd
        = .returned (.returned "video".toUTF8) := by
      decide +kernel
    obtain ⟨h, notes, plays, gave⟩ := exists_plays_gather ends
    obtain ⟨_, _, same, meets⟩ := (typed h gave).1 _ plays
    cases same
    exact ⟨h, notes, _, answered h gave, plays, meets, rfl⟩
  · obtain ⟨h, plays, gave⟩ :=
      exists_plays (oneWorkspace (.ok []) (.ok "video".toUTF8)) (Engine.loadOnce {})
    generalize (Routine.play _ (Engine.loadOnce {})).2 = x at plays
    exact ⟨h, x, answered h gave, plays, (typed h gave).2.1 x plays⟩
  · have ends : ((RemoteBackend.execute {} oneClip oneFile).gather.play
        (oneWorkspace (.ok []) (.ok "video".toUTF8))).2.map Prod.snd
        = .returned (.returned "video".toUTF8) := by
      decide +kernel
    obtain ⟨h, notes, plays, gave⟩ := exists_plays_gather ends
    obtain ⟨_, _, same, meets⟩ := (typed h gave).2.2 _ plays
    cases same
    exact ⟨h, notes, _, answered h gave, plays, meets, rfl⟩

/-- A base clip fills the canvas, wherever it lies, so the graph says nothing of its place.  The
form does, and a place of too many digits breaks the making of it. -/
example : Submission.ofTimeline
    { oneClip with clips := [⟨"c", ⟨0, 1⟩, "c.mp4", none, none, 10 ^ 4300, 0⟩] } oneFile
      = .error .longNumeral :=
  Submission.ofTimeline_eq_error_iff.mpr ⟨rfl, 10 ^ 4300, List.mem_cons_self, by decide +kernel⟩

/-- **A video is lost when the workspace cannot be listed at the end**, in the operating system's
own words. -/
theorem listing_breaks_execution :
    oneClip.validate = .ok () ∧ oneClip.compile = .ok oneClipGraph
    ∧ ∃ h notes, History.Answered h
      ∧ (LocalBackend.execute {} oneClipGraph oneClip oneFile).gather.Plays h
        (.returned (notes, .failed (.unexpected (.os (.notFound "/ws"))))) := by
  have ends : ((LocalBackend.execute {} oneClipGraph oneClip oneFile).gather.play
      (oneWorkspace (.error (.notFound "/ws")) (.ok "video".toUTF8))).2.map Prod.snd
      = .returned (.failed (.unexpected (.os (.notFound "/ws")))) := by
    decide +kernel
  obtain ⟨h, notes, plays, gave⟩ := exists_plays_gather ends
  exact ⟨rfl, by decide +kernel, h, notes, fun e heard => answered_of_gave (gave e heard), plays⟩

end Montage
