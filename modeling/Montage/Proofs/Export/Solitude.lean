import Montage.Proofs.Export.Closure
import Montage.Proofs.Studio.Callers
import Montage.Studio.Backend

/-!
# Runs that join nobody

A request to stop that a run gets goes on to whomever the run has joined.  A run joins nobody of its
own accord; it is up to the classification and the backends, and **those of the studio join
nobody**.

* `Services.Solitary` — neither the classification nor a backend joins anybody.
* **`solitary_run`** — then no run does.
* `solitary_studioServices` — the studio's, whichever backends are used.
-/

namespace Montage

open Routine

variable {H : Interface} {α : Type}

/-- Anything but to join somebody. -/
abbrev solitude (E : Interface) : Regime E Unit :=
  .only (fun _ => True) fun s => s.passesOn = false

/-- Neither the classification nor a backend joins anybody, so a request to stop that has come to a
run goes no further (`Routine.Solitary`). -/
structure Services.Solitary (s : Services H) : Prop where
  classify : ∀ t, (s.classify t).Maintains ((solitude H).noting ProgressUpdate) fun _ => True
  execute : ∀ kind g t p,
    (s.execute kind g t p).Maintains ((solitude H).noting ProgressUpdate) fun _ => True
  cleanup : ∀ kind, (s.cleanup kind).Solitary

/-! ## Runs -/

/-- To join nobody goes to whole runs, where nothing is waited for but what is waited for alone. -/
lemma closed_solitary : Office.ClosedForRuns (fun s : Suspension H => s.passesOn = false)
    fun _ (r : OfficeRoutine H _) => r.Solitary where
  ends := maintains_done
  handle := Maintains.handle
  ask q _ := within_ask trivial fun _ => maintains_done _
  set s := within_ask trivial fun _ => within_ask trivial fun _ => maintains_done _
  await s alone := by
    cases s with
    | join j t => cases alone
    | wait w => exact within_await rfl fun _ => maintains_done _
    | enter g => exact within_await rfl fun _ => maintains_done _
    | watch j t => exact within_await rfl fun _ => maintains_done _
  tell e := within_ask trivial fun _ => maintains_done _
  record m := within_ask trivial fun _ => maintains_done _
  setState state := within_ask trivial fun _ => within_ask trivial fun _ => maintains_done _
  summon backend := within_ask trivial fun _ => within_ask trivial fun _ => maintains_done _

/-- **A run joins nobody**, unless a stage does. -/
theorem solitary_run {s : Services H} (solitary : s.Solitary) (t : Timeline) :
    (run s t).Solitary :=
  closed_solitary.run (solitary.classify t) (fun kind g p => solitary.execute kind g t p)
    solitary.cleanup

/-! ## The studio -/

lemma ignores_solitude : (solitude Studio).Ignores fun _ => True where
  get _ _ := ⟨trivial, fun _ _ _ => trivial⟩
  act _ _ _ _ := ⟨trivial, fun _ _ _ => trivial⟩
  wait _ _ _ _ := ⟨rfl, fun _ _ _ => trivial⟩
  enter _ _ _ := ⟨rfl, fun _ _ _ => trivial⟩
  leave _ _ _ := ⟨trivial, fun _ _ => trivial⟩

/-- **Nothing that the studio relies on joins anybody**, whichever backends are used. -/
theorem solitary_studioServices (settings : Settings) (freshId : String)
    {backend : BackendKind → Backend} (known : ∀ kind, ∃ settings',
      backend kind = .onEngine settings' ∨ backend kind = .onWorker settings') :
    (studioServices settings freshId backend).Solitary where
  classify := Classification.maintains_classify ignores_solitude true
  execute kind g t p := by
    obtain ⟨settings', same⟩ := known kind
    change ((backend kind).execute g t p).Maintains _ _
    rcases same with same | same
    · rw [same]
      exact LocalBackend.maintains_execute ignores_solitude Engine.aloof_load.solitary settings' g t p
    · rw [same]
      exact RemoteBackend.maintains_execute ignores_solitude settings' t p
  cleanup kind := by
    obtain ⟨settings', same⟩ := known kind
    change (backend kind).cleanup.Solitary
    rcases same with same | same
    · rw [same]
      exact LocalBackend.maintains_cleanup ignores_solitude
    · rw [same]
      exact maintains_done _

end Montage
