import Montage.Proofs.Export.Deeds

/-!
# How a run goes

A run takes its stages one after the other, and the first that has no value ends it.  What it comes
to is a matter of what the classifier, the backend and its cleaning up come to, and of nothing else.

* `chooseBackend_eq_local_iff` — the engine executes what is up to the threshold, and nothing else.
* `Ran` — the course of a run: its deeds and its end, from those of its stages.
* **`Ran.of_plays`** — every history of a run is such a course.
-/

namespace Montage

variable {H : Interface} {α β : Type}

/-! ## Ends -/

/-- What a failure becomes at the end of a run. -/
def Failure.settled : Failure → ExportFailure
  | .expected e => e
  | .unexpected f => .execution (.unforeseen f)

/-- What is recorded as the reason of a failure. -/
def Failure.reason : Failure → String
  | .expected e => e.kind.name
  | .unexpected _ => Run.unexpectedReason

namespace Exit

/-- What the end of a stage becomes at the end of a run. -/
def settled : Exit α → Exit α
  | .failed e => .failed (.expected e.settled)
  | x => x

/-- What is recorded of an end. -/
def records (backend : Option BackendKind) : Exit α → List (Deed H)
  | .returned _ => endRecords backend Metric.succeeded none
  | .failed e => endRecords backend Metric.failed (some e.reason)
  | .cancelled => endRecords backend Metric.cancelled none

/-- An end after a final step: only a cancellation of that step is felt. -/
def andThen (x : Exit α) : Exit β → Exit α
  | .cancelled => .cancelled
  | _ => x

end Exit

/-- The last step of a run that has failed. -/
lemma plays_conclude {state : ExportState} {backend : Option BackendKind} {outcome : String}
    {reason : Option String} {y x : Exit α} {h : History (Office H)}
    (plays : ((Run.conclude state backend outcome reason).bind fun _ => .done y).Plays h x) :
    x = y ∧ deeds h = endRecords backend outcome reason := by
  obtain ⟨_, rest, seen, ends⟩ := (surely_conclude state backend outcome reason).plays_bind plays
  obtain ⟨rfl, rfl⟩ := Routine.plays_done.mp ends
  exact ⟨rfl, by rw [seen, deeds_nil, List.append_nil]⟩

/-- A stage that has no value ends the run and is recorded. -/
lemma plays_stage {backend : Option BackendKind} {r : OfficeRoutine H α} {h : History (Office H)}
    {x : Exit α} (plays : (Run.stage backend r).Plays h x) :
    (∃ a, x = .returned a ∧ r.Plays h x) ∨
    ∃ own, ∃ y : Exit Empty, x = y.settled.map Empty.elim ∧ r.Plays own (y.map Empty.elim)
      ∧ deeds h = deeds own ++ y.records backend := by
  obtain ⟨own, y, rest, rfl, part, later⟩ := Routine.plays_handle.mp plays
  rw [deeds_append]
  cases y with
  | returned a =>
      obtain ⟨rfl, rfl⟩ := Routine.plays_done.mp later
      exact .inl ⟨a, rfl, by rwa [List.append_nil]⟩
  | cancelled =>
      obtain ⟨rfl, seen⟩ := plays_conclude later
      exact .inr ⟨own, .cancelled, rfl, part, by rw [seen]; rfl⟩
  | failed e =>
      cases e with
      | expected e =>
          obtain ⟨rfl, seen⟩ := plays_conclude later
          exact .inr ⟨own, .failed (.expected e), rfl, part, by rw [seen]; rfl⟩
      | unexpected f =>
          obtain ⟨rfl, seen⟩ := plays_conclude later
          exact .inr ⟨own, .failed (.unexpected f), rfl, part, by rw [seen]; rfl⟩

/-- The run goes on with the value of a stage, or ends with the stage. -/
lemma plays_stage_bind {backend : Option BackendKind} {r : OfficeRoutine H α}
    {f : α → OfficeRoutine H β} {h : History (Office H)} {x : Exit β}
    (plays : ((Run.stage backend r).bind f).Plays h x) :
    (∃ a h₁ h₂, h = h₁ ++ h₂ ∧ r.Plays h₁ (.returned a) ∧ (f a).Plays h₂ x) ∨
    ∃ own, ∃ y : Exit Empty, x = y.settled.map Empty.elim ∧ r.Plays own (y.map Empty.elim)
      ∧ deeds h = deeds own ++ y.records backend := by
  rcases Routine.plays_bind.mp plays with
    ⟨a, h₁, h₂, rfl, first, later⟩ | ⟨e, first, rfl⟩ | ⟨first, rfl⟩
  · rcases plays_stage first with ⟨_, -, part⟩ | ⟨own, y, ends, -⟩
    · exact .inl ⟨a, h₁, h₂, rfl, part, later⟩
    · cases y with
      | returned a => exact a.elim
      | failed e => cases ends
      | cancelled => cases ends
  · rcases plays_stage first with ⟨_, ends, -⟩ | ⟨own, y, ends, part, seen⟩
    · cases ends
    · cases y with
      | returned a => exact a.elim
      | failed e' =>
          cases ends
          exact .inr ⟨own, .failed e', rfl, part, seen⟩
      | cancelled => cases ends
  · rcases plays_stage first with ⟨_, ends, -⟩ | ⟨own, y, ends, part, seen⟩
    · cases ends
    · cases y with
      | returned a => exact a.elim
      | failed e => cases ends
      | cancelled => exact .inr ⟨own, .cancelled, rfl, part, seen⟩

/-! ## The choice of a backend -/

/-- **The local engine executes exactly what is up to the threshold**, the threshold included. -/
lemma chooseBackend_eq_local_iff {bytes threshold : Int} :
    chooseBackend bytes threshold = .localEngine ↔ bytes ≤ threshold := by
  unfold chooseBackend
  split
  · rename_i within
    exact iff_of_true rfl within
  · rename_i beyond
    exact iff_of_false nofun beyond

/-! ## Stages -/

section Stages

variable {s : Services H} {t : Timeline} {h : History (Office H)}

/-- Reading the files is what the classifier does. -/
lemma plays_classified {x : Exit (Payloads × Tracker)}
    (plays : (Run.classified s t).Plays h x) :
    ∃ own, (s.classify t).Plays own (x.map Prod.fst) ∧ deeds h = notingDeeds own := by
  obtain ⟨_, h₁, seen₁, later₁⟩ := (surely_setState .classifying).plays_bind plays
  obtain ⟨tracker, h₂, seen₂, later₂⟩ := (surely_emit _ _).plays_bind later₁
  obtain ⟨own, alone, same⟩ := plays_follow later₂
  exact ⟨own, alone, by rw [seen₁, seen₂, same]; rfl⟩

/-- Cleaning up is what the backend does to clean up; only a cancellation is felt. -/
lemma plays_cleanUp {backend : BackendKind} {x : Exit Unit}
    (plays : (Run.cleanUp s backend).Plays h x) :
    ∃ own y, (s.cleanup backend).Plays own y ∧ x = (Exit.returned ()).andThen y
      ∧ deeds h = plainDeeds own := by
  obtain ⟨h₁, y, h₂, rfl, part, later⟩ := Routine.plays_handle.mp plays
  obtain ⟨own, alone, seen⟩ := plays_atBase part
  refine ⟨own, y, alone, ?_⟩
  rw [deeds_append, seen]
  cases y <;>
    (obtain ⟨rfl, rfl⟩ := Routine.plays_done.mp later
     exact ⟨rfl, List.append_nil _⟩)

/-- Cleaning up follows every execution and cannot change its end, a cancellation apart. -/
lemma plays_tidied {backend : BackendKind} {y x : Exit α}
    (plays : ((do Desk.setState .cleanup; Run.cleanUp s backend : OfficeRoutine H Unit).bind
      fun _ => .done y).Plays h x) :
    ∃ own z, (s.cleanup backend).Plays own z ∧ x = y.andThen z ∧ deeds h = plainDeeds own := by
  have tidies : ∀ {h x},
      (do Desk.setState .cleanup; Run.cleanUp s backend : OfficeRoutine H Unit).Plays h x →
      ∃ own z, (s.cleanup backend).Plays own z ∧ x = (Exit.returned ()).andThen z
        ∧ deeds h = plainDeeds own := by
    intro h x plays
    obtain ⟨_, rest, seen, later⟩ := (surely_setState .cleanup).plays_bind plays
    obtain ⟨own, z, alone, ends, same⟩ := plays_cleanUp later
    exact ⟨own, z, alone, ends, by rw [seen, same]; rfl⟩
  rcases Routine.plays_bind.mp plays with
    ⟨_, h₁, h₂, rfl, first, later⟩ | ⟨e, first, rfl⟩ | ⟨first, rfl⟩
  · obtain ⟨own, z, alone, ends, same⟩ := tidies first
    obtain ⟨rfl, rfl⟩ := Routine.plays_done.mp later
    refine ⟨own, z, alone, ?_, by rw [List.append_nil, same]⟩
    cases z with
    | cancelled => cases ends
    | returned a => rfl
    | failed e => rfl
  · obtain ⟨own, z, alone, ends, same⟩ := tidies first
    cases z <;> cases ends
  · obtain ⟨own, z, alone, ends, same⟩ := tidies first
    refine ⟨own, z, alone, ?_, same⟩
    cases z with
    | cancelled => rfl
    | returned a => cases ends
    | failed e => cases ends

/-- Which graph is executed, if any. -/
def Run.prepared (s : Services H) (t : Timeline) (p : Payloads) (backend : BackendKind) :
    Except Failure Graph :=
  ((Run.choiceMessage backend p s.threshold).mapError .unexpected).bind fun _ => t.compile

/-- The record of how much an export has read. -/
def sizeRecord (p : Payloads) (backend : BackendKind) : Deed H :=
  .inl (.inl (.payloadSize p.totalBytes backend.name))

/-- Compiling and executing. -/
lemma plays_processed {p : Payloads} {backend : BackendKind} {tracker : Tracker}
    {x : Exit (ByteArray × Tracker)}
    (plays : (Run.processed s t p backend tracker).Plays h x) :
    (∃ e, Run.prepared s t p backend = .error e ∧ x = .failed e
      ∧ deeds h = [sizeRecord p backend]) ∨
    ∃ g own y last z, Run.prepared s t p backend = .ok g ∧ (s.execute backend g t p).Plays own y
      ∧ (s.cleanup backend).Plays last z ∧ x.map Prod.fst = y.andThen z
      ∧ deeds h = sizeRecord p backend :: (notingDeeds own ++ plainDeeds last) := by
  obtain ⟨_, h₁, seen₁, announce⟩ := (surely_record _).plays_bind plays
  rw [seen₁, Run.prepared]
  cases message : Run.choiceMessage backend p s.threshold with
  | error f =>
      rw [message] at announce
      obtain ⟨rfl, rfl⟩ := Routine.plays_done.mp announce
      exact .inl ⟨_, rfl, rfl, rfl⟩
  | ok m =>
      rw [message] at announce
      obtain ⟨tracker, h₂, seen₂, later₂⟩ := (surely_emit _ _).plays_bind announce
      obtain ⟨_, h₃, seen₃, compile⟩ := (surely_setState .compiling).plays_bind later₂
      cases compiled : t.compile with
      | error e =>
          rw [compiled] at compile
          obtain ⟨rfl, rfl⟩ := Routine.plays_done.mp compile
          exact .inl ⟨e, rfl, rfl, by rw [seen₂, seen₃]; rfl⟩
      | ok g =>
          rw [compiled] at compile
          obtain ⟨_, h₄, seen₄, later₄⟩ := (surely_setState .executing).plays_bind compile
          obtain ⟨_, h₅, seen₅, later₅⟩ := (surely_modify _).plays_bind later₄
          obtain ⟨h₆, y, h₇, rfl, executes, later₇⟩ := Routine.plays_handle.mp later₅
          obtain ⟨own, alone, same⟩ := plays_follow executes
          obtain ⟨last, z, cleans, ends, same'⟩ := plays_tidied later₇
          refine .inr ⟨g, own, y.map Prod.fst, last, z, rfl, alone, cleans, ?_, ?_⟩
          · rw [ends]
            cases z <;> rfl
          · rw [seen₂, seen₃, seen₄, seen₅, deeds_append, same, same']
            rfl

end Stages

/-! ## Whole runs -/

/-- The course of a run: its deeds and its end.  What a stage comes to is given by a history of the
stage.  Where files are read, the backend is the local engine exactly when they are up to the
threshold; so it is the worker exactly when they are larger. -/
inductive Ran (s : Services H) (t : Timeline) : List (Deed H) → Exit Video → Prop
  /-- The files are not read, and no backend is chosen. -/
  | unread {h : History (H.noting ProgressUpdate)} {x : Exit Empty}
      (classify : (s.classify t).Plays h (x.map Empty.elim)) :
      Ran s t (notingDeeds h ++ x.records none) (x.settled.map Empty.elim)
  /-- There is nothing to execute. -/
  | unprepared {h : History (H.noting ProgressUpdate)} {p : Payloads} {backend : BackendKind}
      {e : Failure} (classify : (s.classify t).Plays h (.returned p))
      (chosen : backend = .localEngine ↔ (p.totalBytes : Int) ≤ s.threshold)
      (fails : Run.prepared s t p backend = .error e) :
      Ran s t (notingDeeds h ++ sizeRecord p backend ::
        endRecords (some backend) Metric.failed (some e.reason)) (.failed (.expected e.settled))
  /-- One backend executes the graph and cleans up. -/
  | executed {h h' : History (H.noting ProgressUpdate)} {h'' : History H} {p : Payloads}
      {backend : BackendKind} {g : Graph} {x : Exit ByteArray} {y : Exit Unit}
      (classify : (s.classify t).Plays h (.returned p))
      (chosen : backend = .localEngine ↔ (p.totalBytes : Int) ≤ s.threshold)
      (prepared : Run.prepared s t p backend = .ok g)
      (execute : (s.execute backend g t p).Plays h' x) (cleanup : (s.cleanup backend).Plays h'' y) :
      Ran s t (notingDeeds h ++ sizeRecord p backend ::
          (notingDeeds h' ++ (plainDeeds h'' ++ (x.andThen y).records (some backend))))
        ((x.andThen y).settled.map fun content => ⟨content, backend, p.totalBytes⟩)

/-- What follows the choice of the backend. -/
lemma ran_processed {s : Services H} {t : Timeline} {p : Payloads} {backend : BackendKind}
    {read : History (H.noting ProgressUpdate)} (classify : (s.classify t).Plays read (.returned p))
    (chosen : backend = .localEngine ↔ (p.totalBytes : Int) ≤ s.threshold) {tracker : Tracker}
    {h : History (Office H)} {x : Exit (ByteArray × Tracker)}
    (plays : (Run.processed s t p backend tracker).Plays h x) :
    Ran s t (notingDeeds read ++ (deeds h ++ x.records (some backend)))
      (x.settled.map fun a => ⟨a.1, backend, p.totalBytes⟩) := by
  rcases plays_processed plays with
    ⟨e, fails, rfl, seen⟩ | ⟨g, own, y, last, z, prepared, execute, cleanup, ends, seen⟩
  · rw [seen]
    exact .unprepared classify chosen fails
  · have ran := Ran.executed classify chosen prepared execute cleanup
    rw [← ends] at ran
    rw [seen, List.cons_append, List.append_assoc]
    cases x <;> exact ran

/-- **Every history of a run is the course of a run.** -/
theorem Ran.of_plays {s : Services H} {t : Timeline} {h : History (Office H)} {x : Exit Video}
    (plays : (run s t).Plays h x) : Ran s t (deeds h) x := by
  rcases plays_stage_bind plays with
    ⟨⟨p, tracker⟩, h₁, h₂, rfl, first, later⟩ | ⟨own, y, rfl, part, seen⟩
  · obtain ⟨read, classify, seen⟩ := plays_classified first
    rw [deeds_append, seen]
    rcases plays_stage_bind later with
      ⟨⟨content, tracker⟩, h₃, h₄, rfl, second, last⟩ | ⟨own, y, rfl, part, seen'⟩
    · obtain ⟨_, h₅, seen₅, last⟩ := (surely_conclude _ _ _ _).plays_bind last
      obtain ⟨_, h₆, seen₆, last⟩ := (surely_emit _ _).plays_bind last
      obtain ⟨rfl, rfl⟩ := Routine.plays_done.mp last
      rw [deeds_append, seen₅, seen₆, deeds_nil, List.append_nil, List.append_nil]
      exact ran_processed classify chooseBackend_eq_local_iff second
    · rw [seen']
      have ran := ran_processed classify chooseBackend_eq_local_iff part
      cases y with
      | returned a => exact a.elim
      | failed e => exact ran
      | cancelled => exact ran
  · obtain ⟨read, classify, seen'⟩ := plays_classified part
    rw [seen, seen']
    refine .unread ?_
    cases y with
    | returned a => exact a.elim
    | failed e => exact classify
    | cancelled => exact classify

end Montage
