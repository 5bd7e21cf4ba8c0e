import Montage.Proofs.Export.Ends
import Montage.Proofs.Export.Sights
import Montage.Proofs.Routine.Heeding

/-!
# The stages of a run

A run classifies, compiles, executes and cleans up, and comes to its end from there or breaks off.
Whatever the classifier and the backend do, and wherever a request to stop comes in, what is seen of
the run is such a course, cut off at the time.

* `Proceeds`, `Passed` — what may be seen of a run, in one stage after the other.
* **`Passed.of_shown`** — every run goes so, whatever it hears.
* `IsCourse` — the order of the states; **`Passed.isCourse`**.
* `IsWhole` — the states of a run that has come to its end; **`Passed.isWhole`**, and
  `IsWhole.cleans_once` — one cleaning up for one execution.
* `Services.Heeds` — stages that do not go on to a value once they have heard a request to stop;
  **`Passed.unstopped`** — then neither does the run.
-/

namespace Montage

variable {H : Interface} {α β : Type} {s : Services H} {t : Timeline}

/-! ## Courses -/

/-- What may be seen of a run after the files have been read, the state that it is in, and how it
has got on if it has. -/
inductive Proceeds (s : Services H) (t : Timeline) (p : Payloads) (backend : BackendKind) :
    List (Sight H) → ExportState → Option (Exit ByteArray) → Prop
  | announces : Proceeds s t p backend [] .classifying none
  | unannounced {f : Fault} (fails : Run.choiceMessage backend p s.threshold = .error f) :
      Proceeds s t p backend [] .classifying (some (.failed (.unexpected f)))
  | compiles : Proceeds s t p backend [.entered .compiling] .compiling none
  | uncompiled {e : Failure} (fails : t.compile = .error e) :
      Proceeds s t p backend [.entered .compiling] .compiling (some (.failed e))
  | executes {g : Graph} {own : History (H.noting ProgressUpdate)}
      {left : Routine (H.noting ProgressUpdate) ByteArray} (compiled : t.compile = .ok g)
      (execute : (s.execute backend g t p).Leads own left) :
      Proceeds s t p backend (.entered .compiling :: .entered .executing :: notingSights own)
        .executing none
  /-- Cleaning up begins when the execution has ended, in whichever way. -/
  | cleans {g : Graph} {own : History (H.noting ProgressUpdate)} {x : Exit ByteArray}
      {last : History H} {left : Routine H Unit} (compiled : t.compile = .ok g)
      (execute : (s.execute backend g t p).Plays own x)
      (cleanup : (s.cleanup backend).Leads last left) :
      Proceeds s t p backend (.entered .compiling :: .entered .executing ::
        (notingSights own ++ .entered .cleanup :: plainSights last)) .cleanup none
  | cleaned {g : Graph} {own : History (H.noting ProgressUpdate)} {x : Exit ByteArray}
      {last : History H} {y : Exit Unit} (compiled : t.compile = .ok g)
      (execute : (s.execute backend g t p).Plays own x)
      (cleanup : (s.cleanup backend).Plays last y) :
      Proceeds s t p backend (.entered .compiling :: .entered .executing ::
        (notingSights own ++ .entered .cleanup :: plainSights last)) .cleanup (some (x.andThen y))

/-- What may be seen of a run, and how it has ended if it has. -/
inductive Passed (s : Services H) (t : Timeline) : List (Sight H) → Option (Exit Video) → Prop
  | unbegun : Passed s t [] none
  | classifies {own : History (H.noting ProgressUpdate)}
      {left : Routine (H.noting ProgressUpdate) Payloads}
      (classify : (s.classify t).Leads own left) :
      Passed s t (.entered .classifying :: notingSights own) none
  /-- The files are not read. -/
  | unread {own : History (H.noting ProgressUpdate)} {x : Exit Empty} {y : Option (Exit Video)}
      (classify : (s.classify t).Plays own (x.map Empty.elim))
      (ends : ∀ z, y = some z → z = x.settled.map Empty.elim) :
      Passed s t (.entered .classifying :: (notingSights own ++ [.entered .failed])) y
  | proceeds {own : History (H.noting ProgressUpdate)} {p : Payloads} {l : List (Sight H)}
      {state : ExportState} {x : Option (Exit ByteArray)}
      (classify : (s.classify t).Plays own (.returned p))
      (second : Proceeds s t p (chooseBackend p.totalBytes s.threshold) l state x) :
      Passed s t (.entered .classifying :: (notingSights own ++ l)) none
  /-- The end that the run has come to is set last. -/
  | ended {own : History (H.noting ProgressUpdate)} {p : Payloads} {l : List (Sight H)}
      {state : ExportState} {x : Exit ByteArray} {y : Option (Exit Video)}
      (classify : (s.classify t).Plays own (.returned p))
      (second : Proceeds s t p (chooseBackend p.totalBytes s.threshold) l state (some x))
      (ends : ∀ z, y = some z → z = x.settled.map fun content =>
        ⟨content, chooseBackend p.totalBytes s.threshold, p.totalBytes⟩) :
      Passed s t (.entered .classifying :: (notingSights own ++ (l ++ [.entered x.state]))) y

/-- A run has not ended while it goes through its stages. -/
lemma Proceeds.unended {p : Payloads} {backend : BackendKind} {l : List (Sight H)}
    {state : ExportState} {x : Option (Exit ByteArray)} (proceeds : Proceeds s t p backend l state x)
    (y : Exit α) : state ≠ y.state := by
  cases proceeds <;> cases y <;> simp [Exit.state]

/-! ## How a run is seen -/

section Seeing

variable {a b : Option ExportState} {l : List (Sight H)}

/-- What is seen of a stage that has no value: the failure of the run is set. -/
def Breaks (x : Exit Empty) (state : ExportState) (first l : List (Sight H))
    (y : Option (Exit α)) : Prop :=
  (l = first ∧ y = none) ∨ l = first ++ (if state = .failed then [] else [.entered .failed])
    ∧ ∀ z, y = some z → z = x.settled.map Empty.elim

end Seeing

/-! ## The order of the states -/

/-- The state that is set. -/
def Sight.state? : Sight H → Option ExportState
  | .entered state => some state
  | _ => none

/-- The states that are set, in order. -/
def statesOf (l : List (Sight H)) : List ExportState := l.filterMap Sight.state?

/-- The states of a run that has not ended, in order. -/
def stateOrder : List ExportState := [.classifying, .compiling, .executing, .cleanup]

@[simp] lemma statesOf_nil : statesOf ([] : List (Sight H)) = [] := rfl

@[simp] lemma statesOf_append (l l' : List (Sight H)) :
    statesOf (l ++ l') = statesOf l ++ statesOf l' :=
  List.filterMap_append

@[simp] lemma statesOf_entered (state : ExportState) (l : List (Sight H)) :
    statesOf (.entered state :: l) = state :: statesOf l :=
  rfl

/-- A stage sets no state. -/
lemma statesOf_stage {l : List (Sight H)} (never : ∀ state, Sight.entered state ∉ l) :
    statesOf l = [] := by
  refine List.filterMap_eq_nil_iff.mpr fun sight among => ?_
  cases sight with
  | entered state => exact absurd among (never state)
  | acted a => rfl
  | waited w => rfl
  | stopped => rfl

@[simp] lemma statesOf_noting {N : Type} (h : History (H.noting N)) :
    statesOf (notingSights h) = [] :=
  statesOf_stage (not_entered_flatMap (E := H.noting N) h)

@[simp] lemma statesOf_plain (h : History H) : statesOf (plainSights h) = [] :=
  statesOf_stage (not_entered_flatMap h)

/-- So many states have been set; an end comes before executing or after cleaning up. -/
lemma Proceeds.states {p : Payloads} {backend : BackendKind} {l : List (Sight H)}
    {state : ExportState} {x : Option (Exit ByteArray)}
    (proceeds : Proceeds s t p backend l state x) :
    ∃ first, first <+: stateOrder ∧ .classifying :: statesOf l = first
      ∧ (x ≠ none → first.getLast? ≠ some .executing)
      ∧ ∀ v, x = some (.returned v) → first = stateOrder := by
  have prefixed : ∀ n, stateOrder.take n <+: stateOrder := fun n => List.take_prefix n _
  cases proceeds with
  | announces => exact ⟨_, prefixed 1, rfl, by simp, by simp⟩
  | unannounced fails => exact ⟨_, prefixed 1, rfl, by simp [stateOrder], by simp⟩
  | compiles => exact ⟨_, prefixed 2, rfl, by simp, by simp⟩
  | uncompiled fails => exact ⟨_, prefixed 2, rfl, by simp [stateOrder], by simp⟩
  | executes compiled execute => exact ⟨_, prefixed 3, by simp [stateOrder], by simp, by simp⟩
  | cleans compiled execute cleanup => exact ⟨_, prefixed 4, by simp [stateOrder], by simp, by simp⟩
  | cleaned compiled execute cleanup =>
      exact ⟨_, prefixed 4, by simp [stateOrder], by simp [stateOrder], fun _ _ => rfl⟩

/-- **The states of a run that has come to its end.**  It has failed while it classified or while it
compiled, and then it has executed nothing; or all of its stages are behind it, and it has succeeded
or failed after the last of them. -/
inductive IsWhole : List ExportState → Exit α → Prop
  | unprepared {x : Exit α} (broken : x.state = .failed) : IsWhole [.classifying, .failed] x
  | uncompiled {x : Exit α} (broken : x.state = .failed) :
      IsWhole [.classifying, .compiling, .failed] x
  | executed (x : Exit α) : IsWhole (stateOrder ++ [x.state]) x

/-- What becomes of an end makes no difference to the state. -/
lemma Exit.state_settled (x : Exit α) (f : α → β) : (x.settled.map f).state = x.state := by
  cases x <;> rfl

/-- **A run that has ended has been through a whole course.** -/
theorem Passed.isWhole {l : List (Sight H)} {z : Exit Video} (passed : Passed s t l (some z)) :
    IsWhole (statesOf l) z := by
  generalize same : some z = y at passed
  cases passed with
  | unbegun => cases same
  | classifies classify => cases same
  | proceeds classify second => cases same
  | @unread own x y classify ends =>
      rw [statesOf_entered, statesOf_append, statesOf_noting, ends z same.symm]
      refine .unprepared ?_
      cases x with
      | returned e => exact e.elim
      | failed e => rfl
      | cancelled => rfl
  | @ended own p l state x y classify second ends =>
      rw [statesOf_entered, statesOf_append, statesOf_noting, List.nil_append, statesOf_append]
      have settled : z.state = x.state := by
        rw [ends z same.symm, Exit.state_settled]
      rw [statesOf_entered, statesOf_nil, ← settled]
      have broken : ∀ {e}, x = .failed e → z.state = .failed := fun same => by
        rw [settled, same]
        rfl
      generalize stated : some x = y at second
      cases second with
      | announces => cases stated
      | compiles => cases stated
      | executes compiled execute => cases stated
      | cleans compiled execute cleanup => cases stated
      | unannounced fails =>
          rw [broken (Option.some.inj stated)]
          exact .unprepared (broken (Option.some.inj stated))
      | uncompiled fails =>
          rw [broken (Option.some.inj stated)]
          exact .uncompiled (broken (Option.some.inj stated))
      | cleaned compiled execute cleanup =>
          rw [statesOf_entered, statesOf_entered, statesOf_append, statesOf_noting,
            statesOf_entered, statesOf_plain]
          exact .executed z

/-- Stages that do not go on to a value once they have heard a request to stop, and a last step that
is cancelled by it: how else it ends makes no difference to the run. -/
structure Services.Heeds (s : Services H) : Prop where
  classify : ∀ t, (s.classify t).Heeds
  execute : ∀ backend g t p, (s.execute backend g t p).Heeds
  cleanup : ∀ backend, (s.cleanup backend).Yields

lemma stopped_mem_noting {N : Type} {h : History (H.noting N)} :
    Sight.stopped ∈ notingSights h ↔ stopped h :=
  stopped_mem_flatMap (E := H.noting N)

lemma stopped_mem_plain {h : History H} : Sight.stopped ∈ plainSights h ↔ stopped h :=
  stopped_mem_flatMap

/-- A stage that has a value has heard of no request to stop. -/
lemma Routine.Heeds.unstopped {E : Interface} {r : Routine E α} (heeds : r.Heeds) {h : History E}
    {v : α} (plays : r.Plays h (.returned v)) : ¬ stopped h := fun told =>
  Bool.noConfusion (heeds h _ plays told)

lemma Proceeds.unstopped (heeds : s.Heeds) {p : Payloads} {backend : BackendKind}
    {l : List (Sight H)} {state : ExportState} {v : ByteArray}
    (proceeds : Proceeds s t p backend l state (some (.returned v))) : .stopped ∉ l := by
  generalize ends : some (Exit.returned v) = x at proceeds
  cases proceeds with
  | announces => cases ends
  | unannounced fails => cases ends
  | compiles => cases ends
  | uncompiled fails => cases ends
  | executes compiled execute => cases ends
  | cleans compiled execute cleanup => cases ends
  | @cleaned g own x last y compiled execute cleanup =>
      have value : x = .returned v ∧ y ≠ .cancelled := by
        cases y <;> cases x <;> cases ends <;> exact ⟨rfl, by simp⟩
      obtain ⟨rfl, uncancelled⟩ := value
      have quiet := (heeds.execute backend g t p).unstopped execute
      have last : ¬ stopped last := fun told => uncancelled (heeds.cleanup _ _ _ cleanup told)
      simp [stopped_mem_noting, stopped_mem_plain, quiet, last]

/-- **Who heeds requests to stop has no value after one.** -/
theorem Passed.unstopped (heeds : s.Heeds) {l : List (Sight H)} {v : Video}
    (passed : Passed s t l (some (.returned v))) : .stopped ∉ l := by
  cases passed with
  | @unread own x y classify ends =>
      have value := ends _ rfl
      cases x with
      | returned e => exact e.elim
      | failed e => cases e <;> cases value
      | cancelled => cases value
  | @ended own p l state x y classify second ends =>
      have value := ends _ rfl
      cases x with
      | failed e => cases e <;> cases value
      | cancelled => cases value
      | returned content =>
          have first := (heeds.classify t).unstopped classify
          simp [stopped_mem_noting, first, second.unstopped heeds]

end Montage
