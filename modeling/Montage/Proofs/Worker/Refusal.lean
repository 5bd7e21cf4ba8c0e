import Montage.Proofs.Graph.Totality
import Montage.Worker.Rendering

/-!
# Why a form has no graph

The metadata of a form is read, made into a timeline, checked and compiled.  What is wrong with it
is told in the export's own words, up to the check; after the check nothing is refused.

* `Worker.Refused` — why metadata is refused.
* `Vetting` — a step that refuses nothing but timelines.
* `Worker.refused_of_graphOf` — **a form without a graph is refused for what its metadata is**,
  unless reading it broke.
-/

namespace Montage

/-! ## Steps that refuse nothing but timelines -/

/-- A step that fails with a problem of the timeline, or not as an export does. -/
def Vetting {α : Type} (x : Except Failure α) : Prop :=
  ∀ e, x = .error (.expected e) → ∃ p, e = .validation p

lemma vetting_ok {α : Type} (a : α) : Vetting (.ok a) := fun _ failed => by cases failed

lemma vetting_refused {α : Type} (p : TimelineProblem) :
    Vetting (.error (.expected (.validation p)) : Except Failure α) := fun _ failed => by
  cases failed
  exact ⟨p, rfl⟩

lemma vetting_broken {α : Type} (fault : Fault) :
    Vetting (.error (.unexpected fault) : Except Failure α) := fun _ failed => by cases failed

lemma Vetting.bind {α β : Type} {x : Except Failure α} {g : α → Except Failure β} (first : Vetting x)
    (rest : ∀ a, Vetting (g a)) : Vetting (x >>= g) := fun e failed => by
  rcases bind_eq_error.mp failed with failed | ⟨a, -, failed⟩
  · exact first e failed
  · exact rest a e failed

/-- A timeline is refused under a condition, and otherwise the step goes on. -/
lemma Vetting.unless {α : Type} {c : Prop} [Decidable c] {p : TimelineProblem}
    {rest : Except Failure α} (holds : Vetting rest) :
    Vetting (if c then
        (Except.error (.expected (.validation p)) : Except Failure Unit) >>= fun _ => rest
      else rest) := by
  split
  · exact (vetting_refused p).bind fun _ => holds
  · exact holds

namespace Worker

variable {fresh : String} {directory : Path} {f : Form}

/-! ## Metadata -/

/-- The timeline that metadata and the stored files of a form stand for. -/
def described (fresh : String) (directory : Path) (f : Form) (members : Members) :
    Except Failure Timeline :=
  Timeline.ofMetadata fresh (.obj members) (.int f.canvasWidth) (.int f.canvasHeight)
    ((clipPaths directory f).map Path.text) ((imagePaths directory f).map Path.text)

/-- Why the metadata of a form is refused. -/
inductive Refused (fresh : String) (directory : Path) (f : Form) : TimelineProblem → Prop
  | notJson {e : Json.ReadError} (read : Json.parse f.metadata = .error e)
      (shallow : ∀ isArray, e ≠ .tooDeep isArray) : Refused fresh directory f (.metadataNotJson e)
  | notObject {j : Json} (read : Json.parse f.metadata = .ok j) (other : ∀ members, j ≠ .obj members) :
      Refused fresh directory f .metadataNotObject
  /-- The counts do not match, or some entity is none. -/
  | notTimeline {members : Members} {p : TimelineProblem}
      (read : Json.parse f.metadata = .ok (.obj members))
      (made : described fresh directory f members = .error (.expected (.validation p))) :
      Refused fresh directory f p
  | invalid {members : Members} {t : Timeline} {p : TimelineProblem}
      (read : Json.parse f.metadata = .ok (.obj members))
      (made : described fresh directory f members = .ok t) (invalid : t.validate = .error p) :
      Refused fresh directory f p

lemma vetting_metadataList (members : Members) (key : String) :
    Vetting (Timeline.metadataList members key) := by
  unfold Timeline.metadataList
  split
  · exact vetting_ok _
  · exact vetting_ok _
  · exact vetting_ok _
  · exact vetting_refused _

lemma vetting_withSources (entities : List Json) (sources : List String) :
    Vetting (Timeline.withSources entities sources) := by
  induction entities generalizing sources with
  | nil => exact vetting_ok _
  | cons entity entities ih =>
      cases sources with
      | nil => exact vetting_ok _
      | cons source sources =>
          have first : Vetting (Timeline.withSource entity source) := by
            unfold Timeline.withSource
            split
            · exact vetting_ok _
            · exact vetting_broken _
          exact first.bind fun _ => (ih sources).bind fun _ => vetting_ok _

lemma vetting_payloadOfMetadata (members : Members) (width height : Json)
    (clipSources imageSources : List String) :
    Vetting (Timeline.payloadOfMetadata (.obj members) width height clipSources imageSources) := by
  refine (vetting_ok members).bind fun members => ?_
  refine (vetting_metadataList members _).bind fun videos => ?_
  refine (vetting_metadataList members _).bind fun images => ?_
  refine (vetting_metadataList members _).bind fun texts => ?_
  -- the two counts are compared before anything is put together
  refine .unless (.unless ?_)
  exact (vetting_withSources _ _).bind fun _ => (vetting_withSources _ _).bind fun _ => vetting_ok _

lemma vetting_described (fresh : String) (directory : Path) (f : Form) (members : Members) :
    Vetting (described fresh directory f members) := by
  refine (vetting_payloadOfMetadata members _ _ _ _).bind fun payload => ?_
  unfold Timeline.ofPayload Checked.toExcept
  split
  · exact vetting_ok _
  · exact vetting_refused _
  · exact vetting_broken _

/-- **A form without a graph is refused for what its metadata is**, unless reading it broke. -/
lemma refused_of_graphOf {e : ExportFailure}
    (failed : graphOf fresh directory f = .error (.expected e)) :
    ∃ p, e = .validation p ∧ Refused fresh directory f p := by
  unfold graphOf at failed
  rcases bind_eq_error.mp failed with failed | ⟨metadata, read, failed⟩
  · unfold metadataOf at failed
    split at failed
    · cases failed
    · rename_i e shallow read
      cases failed
      exact ⟨_, rfl, .notJson read shallow⟩
    · cases failed
    · rename_i j other read
      cases failed
      exact ⟨_, rfl, .notObject read other⟩
  · obtain ⟨members, rfl, parsed⟩ : ∃ members, metadata = .obj members
        ∧ Json.parse f.metadata = .ok (.obj members) := by
      unfold metadataOf at read
      split at read <;> cases read
      exact ⟨_, rfl, by assumption⟩
    rcases bind_eq_error.mp failed with failed | ⟨t, made, failed⟩
    · obtain ⟨p, rfl⟩ := vetting_described fresh directory f members e failed
      exact ⟨p, rfl, .notTimeline parsed failed⟩
    · cases checked : t.validate with
      | error p =>
          rw [checked] at failed
          cases failed
          exact ⟨p, rfl, .invalid parsed made checked⟩
      | ok u =>
          rw [checked] at failed
          have settles := settles_compile t
          change t.compile = .error (.expected e) at failed
          rw [failed, checked] at settles
          cases settles with
          | refused bad _ => cases bad

end Worker

end Montage
