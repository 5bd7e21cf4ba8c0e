import Mathlib.Tactic.Common
import Montage.Proofs.Studio.HostFiles
import Montage.Proofs.Studio.Loading
import Montage.Proofs.Studio.Workspace

/-!
# Exports apart

All local exports on one engine share its workspace, and they write their files under the same
names.  They are kept apart by the engine's gate: who has come in has the workspace for itself until
it has emptied it again, and a cleanup has to come in as well.

* `Engine.shares_local` — all that runs on an engine keeps to the regime of its load.
* `Engine.settled_apply` — so a workspace is never replaced.
* **`exports_apart`** — **whatever the schedule, exports on one engine do not disturb each other**.
-/

namespace Montage

open Routine

namespace Engine

variable {engine : Settings} {M : Machine Studio}

/-- All that runs on an engine keeps to the regime of its load. -/
lemma shares_local : Shares (localProgram engine) := by
  have ignores := ignores_loading false
  intro o
  cases o with
  | job j =>
      cases j with
      | loadEngine => exact obeys_loadOnce engine
  | call c =>
      cases c with
      | execute own g t payloads =>
          have executes := LocalBackend.maintains_execute ignores maintains_load
            (own.sharing engine) g t payloads .unaware trivial
          refine (executes.gatherFrom []).bind (fun b v found => ?_) (fun b e found => ?_)
            fun b found => ?_
          · obtain ⟨_, _, _, free⟩ := found
            exact .done (Stage.settled_of_free free)
          · obtain ⟨_, _, same, _⟩ := found
            cases same
          · obtain ⟨_, _, same, _⟩ := found
            cases same
      | cleanup own =>
          have cleans := (LocalBackend.maintains_cleanup ignores).bind fun _ =>
            maintains_done (.returned BackendReply.cleaned)
          exact (cleans .unaware trivial).mono fun b x free => Stage.settled_of_free free

/-- A workspace is never replaced. -/
lemma Loads.settled_apply {P : Program Studio} {sys : System P M} (loads : Loads sys)
    (choice : Choice P) : Settled sys.store (sys.apply choice).store := by
  intro path here
  have phase : sys.store.phase = .loaded := loads.coherent.workspace.mpr (by rw [here]; rfl)
  rw [loads.kept choice phase, here]

/-- An engine that nobody has used yet, and the record of all that will be done. -/
def unused (engine : Settings) (w : M.State) : System (localProgram engine) M.recording :=
  { world := (w, []), store := {} }

end Engine

open Engine

variable {M : Machine Studio}

/-- **Exports on one engine do not disturb each other**, whatever the schedule: however executions
and cleanups of any number of backends take turns, fail and are cancelled.  From the first time that
one of them touches the workspace to the last thing that it does, no other one touches it; and when
an execution starts its program in the workspace, every input is there as it was handed over. -/
theorem exports_apart {engine : Settings} (F : Filing engine M) {w : M.State} (sane : F.sane w)
    (schedule : List (Choice (localProgram engine))) :
    ((unused engine w).follow schedule).forget
        = System.follow { world := w, store := {} } schedule
      ∧ Undisturbed (custody F).uses ((unused engine w).follow schedule).world.2
      ∧ ∀ first own g t payloads rest,
        schedule = first ++ .call (.execute own g t payloads) :: rest →
        ∀ e ∈ ((unused engine w).follow schedule).world.2,
          e.task = ((unused engine w).follow first).tasks.length →
          ∀ command directory, e.move = .act (.spawn command (some directory)) →
            Furnished t payloads directory (F.files e.before) := by
  have nobody : (unused engine w).tasks = [] := rfl
  have loads := (loads_nobody nobody rfl).follow shares_local
  obtain ⟨undisturbed, permitted⟩ := (respected_custody F).follow nobody rfl sane schedule
    fun first choice _ _ => (loads first).settled_apply choice
  refine ⟨System.forget_follow _ schedule, undisturbed, ?_⟩
  rintro first own g t payloads rest rfl e among task command directory move
  -- the task of the call is there from then on
  have called : (((unused engine w).follow first).call (.execute own g t payloads)).2.tasks[
      ((unused engine w).follow first).tasks.length]?
      = some { origin := .call (.execute own g t payloads) } := List.getElem?_concat_length
  obtain ⟨f, p, c, found, -⟩ := (System.evolved_follow _ _ rest).own called (.calm trivial)
  have followed : (unused engine w).follow (first ++ .call (.execute own g t payloads) :: rest)
      = (((unused engine w).follow first).call (.execute own g t payloads)).2.follow rest :=
    List.foldl_append
  rw [followed] at permitted among
  exact permitted _ _ found e among task _ move id

/-! ### A sample -/

/-- The tasks that have started a program in a directory, in order. -/
def renderers (record : List (Entry M)) : List TaskId :=
  record.filterMap fun e =>
    match e.move with
    | .act (.spawn _ (some _)) => some e.task
    | _ => none

/-- An execution for a timeline with one clip, of one byte. -/
def executeSingle (byte : UInt8) : LocalCall :=
  let clip : Clip := ⟨"a", ⟨0, .infinite false⟩, "a.mp4", none, none, 0, 0⟩
  let t : Timeline := ⟨2, 2, [clip], [], []⟩
  .execute {} { nodes := [] } t ⟨[⟨#[byte]⟩], []⟩

/-- Two executions, a cleanup and a load take turns. -/
def interleaved : List (Choice (localProgram .defaults)) :=
  .call (executeSingle 1) :: .call (executeSingle 2) :: .call (.cleanup {}) ::
    (List.range 100).map fun n => .turn (n % 4)

/-- The state after that, and the record of all that was done. -/
def apartSample : System (localProgram .defaults) Host.machine.recording :=
  (unused (M := Host.machine) .defaults {}).follow interleaved

set_option maxRecDepth 4000 in
lemma renderers_apartSample : renderers apartSample.world.2 = [0, 1] := by decide +kernel

theorem exports_apart_sample :
    (Host.filing .defaults).sane {}
      ∧ apartSample.forget
        = System.follow { world := ({} : Host), store := ({} : EngineState) } interleaved
      ∧ Undisturbed (custody (Host.filing .defaults)).uses apartSample.world.2
      ∧ (∀ first own g t payloads rest,
        interleaved = first ++ .call (.execute own g t payloads) :: rest →
        ∀ e ∈ apartSample.world.2,
          e.task = ((unused (M := Host.machine) .defaults {}).follow first).tasks.length →
          ∀ command directory, e.move = .act (.spawn command (some directory)) →
            Furnished t payloads directory ((Host.filing .defaults).files e.before))
      ∧ renderers apartSample.world.2 = [0, 1] := by
  have sane : (Host.filing .defaults).sane {} := rfl
  have apart := exports_apart (Host.filing .defaults) sane interleaved
  rw [← apartSample] at apart
  exact ⟨sane, apart.1, apart.2.1, apart.2.2, renderers_apartSample⟩

end Montage
