import Montage.Proofs.Export.Order
import Montage.Proofs.Export.Sequential
import Montage.Proofs.Routine.Lives

/-!
# How the end of an export is recorded

The run of an export records its end and sets the state of the desk itself, before the request hears
of it.  Both agree with what the caller is told as long as the run takes its first step and keeps
its value; **a request to stop that comes before the one or after the other is told to the caller
alone**, and so is a fault that comes before there is a run.

* `Ran.recorded` — a run is recorded once, as it ends.
* **`export_recorded`** — the records and the state when a request ends, whatever the schedule.
* `stopped_before_first_step`, `stopped_at_last_event`, `fault_before_run` — the ends that are not
  recorded as the caller is told.
-/

namespace Montage

variable {H : Interface} {s : Services H} {base : Program H} {M : Machine (Office H)}

/-! ## Records of an end -/

/-- Whether a metric is one of those that record an end. -/
def Metric.isEnding (m : Metric) : Bool :=
  m.instrument == "export_total" || m.instrument == "export_duration_ms"

/-- What is recorded about ends. -/
def endings (ds : List (Deed H)) : List Metric :=
  ds.filterMap fun
    | .inl (.inl m) => if m.isEnding then some m else none
    | _ => none

/-- The word for an end. -/
def Exit.outcome {α : Type} : Exit α → String
  | .returned _ => Metric.succeeded
  | .failed _ => Metric.failed
  | .cancelled => Metric.cancelled

lemma endings_append (ds ds' : List (Deed H)) : endings (ds ++ ds') = endings ds ++ endings ds' :=
  List.filterMap_append

/-- Stages record no ends. -/
lemma endings_notingDeeds {N : Type} (h : History (H.noting N)) : endings (notingDeeds h) = [] := by
  induction h with
  | nil => rfl
  | cons e h ih =>
      rw [notingDeeds_cons, endings_append, ih, List.append_nil]
      cases e with
      | awaited s x => cases s <;> rfl
      | asked q v =>
          cases q with
          | act a => cases a <;> rfl
          | _ => rfl

lemma endings_plainDeeds (h : History H) : endings (plainDeeds h) = [] := by
  induction h with
  | nil => rfl
  | cons e h ih =>
      rw [plainDeeds_cons, endings_append, ih, List.append_nil]
      cases e with
      | awaited s x => cases s <;> rfl
      | asked q v => cases q <;> rfl

lemma endings_sizeRecord (p : Payloads) (backend : BackendKind) (ds : List (Deed H)) :
    endings (sizeRecord p backend :: ds) = endings ds := rfl

/-- The records of one end: its outcome, and how long the run took, in this order and once. -/
def IsRecord (outcome : String) (records : List Metric) : Prop :=
  ∃ backend reason, records
    = [.exportEnd backend outcome reason, .exportDuration backend]

lemma isRecord_records {α : Type} (backend : Option BackendKind) (x : Exit α) :
    IsRecord x.outcome (endings (x.records (H := H) backend)) := by
  cases x <;> exact ⟨_, _, rfl⟩

lemma outcome_settled {α β : Type} (x : Exit α) (f : α → β) :
    (x.settled.map f).outcome = x.outcome := by
  cases x <;> rfl

/-- **A run is recorded once, as it ends.** -/
theorem Ran.recorded {t : Timeline} {ds : List (Deed H)} {x : Exit Video} (ran : Ran s t ds x) :
    IsRecord x.outcome (endings ds) := by
  cases ran with
  | unread classify =>
      rw [endings_append, endings_notingDeeds, List.nil_append, outcome_settled]
      exact isRecord_records none _
  | unprepared classify chosen fails =>
      rw [endings_append, endings_notingDeeds, List.nil_append, endings_sizeRecord]
      exact ⟨_, _, rfl⟩
  | executed classify chosen prepared execute cleanup =>
      rw [endings_append, endings_notingDeeds, List.nil_append, endings_sizeRecord, endings_append,
        endings_notingDeeds, List.nil_append, endings_append, endings_plainDeeds, List.nil_append,
        outcome_settled]
      exact isRecord_records _ _

/-! ## Whole exports -/

lemma Exit.state_told {α : Type} (x : Exit α) : x.told.state = x.state := by
  cases x <;> rfl

/-- How a run is recorded and leaves the desk. -/
lemma settled_of_plays {t : Timeline} {h : History (Office H)} {x : Exit Video} {a b : ExportState}
    (plays : (run s t).Plays h x) (threads : Threads (Desk.alone (H := H)).view a h b) :
    IsRecord x.outcome (endings (deeds h)) ∧ b = x.state :=
  ⟨(Ran.of_plays plays).recorded, (settles_run s t).post_of_plays (fun _ => rfl) plays threads⟩

namespace System

variable [DecidableEq H.Gate] [DecidableEq H.Job]

/-- **How the desk is left and what is recorded when a request ends** that was accepted and was not
itself asked to stop, whatever went on meanwhile.  The run has ended, the caller was told how, the
state says so, and the run is recorded once, as it ended; unless it was asked to stop before its
first step, and then nothing is recorded and the state is what it was, or after its last wait, and
then it passes for a success. -/
theorem export_recorded (sys : System (deskProgram s base) M) (reached : sys.Reached) (c : TaskId)
    (input : ExportInput) (t : Timeline)
    (asks : sys.tasks[c]? = some { origin := requesting s base input })
    (idle : sys.store.2.active = none) (ok : Request.accepted s.freshId input = .ok t)
    (schedule : List (Choice (deskProgram s base)))
    (lasts : ∀ y, ¬ ((sys.resume c).follow schedule).Ended c (requesting s base input) y)
    (y : Exit Video) (ended : (((sys.resume c).follow schedule).resume c).tasks[c]?
      = some ⟨requesting s base input, .ended y, false, 0⟩) :
    ∃ x, let last := ((sys.resume c).follow schedule).resume c
      let h := (sys.resume c).history sys.tasks.length schedule
      last.Ended sys.tasks.length (running s base t) x ∧ y = x.told
        ∧ (IsRecord x.outcome (endings (deeds h)) ∧ last.store.2.state = y.state
          ∨ x = .cancelled ∧ (h = [] ∧ last.store.2.state = sys.store.2.state
            ∨ IsRecord Metric.succeeded (endings (deeds h)) ∧ last.store.2.state = .succeeded)) := by
  obtain ⟨x, p, n, found, told, threads, plays⟩ :=
    export_course reached.orderly asks idle ok schedule lasts ended
  have same := told.resolve_left (Nat.lt_irrefl 0)
  refine ⟨x, ⟨p, n, found⟩, same, ?_⟩
  rcases plays with plays | ⟨-, stopped, unbegun | ⟨v, plays⟩⟩
  · obtain ⟨recorded, settled⟩ := settled_of_plays plays threads
    exact .inl ⟨recorded, settled.trans (same ▸ (Exit.state_told x).symm)⟩
  · rw [unbegun] at threads
    exact .inr ⟨stopped, .inl ⟨unbegun, threads⟩⟩
  · exact .inr ⟨stopped, .inr (settled_of_plays plays threads)⟩

/-! ### Samples -/

/-- A desk that was asked for one export, with a listener that asks for the end at some events. -/
def asked (asks : ProgressEvent → Bool) (input : ExportInput) :
    System (deskProgram .sample .alone) (Machine.alone asks) :=
  (opened [] ()).follow [.call (.inl (.request input))]

/-- The same with a listener that asks for nothing. -/
def askedUnheard (input : ExportInput) :
    System (deskProgram .sample .alone) (Machine.alone fun _ => false) :=
  asked (fun _ => false) input

/-- How a request ended. -/
def answer? (sys : System (deskProgram s base) M) (c : TaskId) : Option (Exit Video) :=
  match sys.tasks[c]? with
  | some ⟨.call (.inl (.request _)), .ended x, _, _⟩ => some x
  | _ => none

/-- What a desk by itself has recorded. -/
def records {asks : ProgressEvent → Bool}
    (sys : System (deskProgram .sample .alone) (Machine.alone asks)) : List Metric :=
  sys.world

section Answers

variable {sys : System (deskProgram s base) M} {c : TaskId} {input : ExportInput}

/-- What a request has answered it ends with. -/
lemma ended_of_answer? (asks : sys.tasks[c]? = some { origin := requesting s base input })
    {schedule : List (Choice (deskProgram s base))} {x : Exit Video}
    (answer : (sys.follow schedule).answer? c = some x) :
    (sys.follow schedule).Ended c (requesting s base input) x := by
  obtain ⟨f, p, n, found, -⟩ := (evolved_follow sys c schedule).own asks (.calm trivial)
  rw [answer?, found] at answer
  cases f with
  | ended y => exact ⟨p, n, by rw [found, ← Option.some.inj answer]⟩
  | fresh => cases answer
  | running => cases answer
  | waiting s k => cases answer
  | ready s x k => cases answer

omit [DecidableEq H.Gate] [DecidableEq H.Job] in
/-- A request without an answer has not ended. -/
lemma not_ended_of_answer? (waits : sys.answer? c = none) (y : Exit Video) :
    ¬ sys.Ended c (requesting s base input) y := by
  rintro ⟨p, n, found⟩
  rw [answer?, found] at waits
  cases waits

end Answers

/-- How a run ended. -/
def runEnd? (sys : System (deskProgram s base) M) (r : TaskId) (t : Timeline) :
    Option (Exit Video) :=
  exitOf sys.tasks r (.inl t)

/-- A desk at which an export goes its way: its end is recorded and is the one that its caller
hears. -/
theorem export_recorded_sample :
    let sys := askedUnheard (.timeline .sample)
    let next := (sys.resume 0).follow [.turn 1]
    sys.Reached ∧ sys.store.2.active = none
      ∧ Request.accepted "" (.timeline .sample) = .ok .sample
      ∧ (∀ y, ¬ next.Ended 0 (requesting .sample .alone (.timeline .sample)) y)
      ∧ ∃ y x, let h := (sys.resume 0).history 1 [.turn 1]
        (next.resume 0).Ended 0 (requesting .sample .alone (.timeline .sample)) y
          ∧ (next.resume 0).Ended 1 (running .sample .alone .sample) x ∧ y = x.told
          ∧ (IsRecord x.outcome (endings (deeds h)) ∧ (next.resume 0).store.2.state = y.state
            ∨ x = .cancelled ∧ (h = [] ∧ (next.resume 0).store.2.state = sys.store.2.state
              ∨ IsRecord Metric.succeeded (endings (deeds h))
                ∧ (next.resume 0).store.2.state = .succeeded)) := by
  intro sys next
  have reached : sys.Reached := ⟨[], (), _, rfl⟩
  have idle : sys.store.2.active = none := rfl
  have ok : Request.accepted "" (.timeline .sample) = .ok .sample := by decide +kernel
  have asks : sys.tasks[0]? = some { origin := requesting .sample .alone (.timeline .sample) } := rfl
  have length : sys.tasks.length = 1 := rfl
  have waits : next.answer? 0 = none := by decide +kernel
  have ends : ((next.resume 0).tasks[0]?).all
      (fun task => task.fiber.hasEnded && !task.pending && task.cancels == 0) = true := by
    decide +kernel
  have lasts : ∀ y, ¬ next.Ended 0 (requesting .sample .alone (.timeline .sample)) y :=
    not_ended_of_answer? waits
  -- from here on the desk is any desk of which this is known
  clear_value sys
  obtain ⟨begins, fresh, -⟩ := resume_accepted asks ((Request.admitted_idle idle).trans ok)
  have unended := exitOf_of_unended fresh rfl (.inl .sample)
  obtain ⟨f, p, n, found, -⟩ :=
    (evolved_follow (sys.resume 0) 0 ([.turn 1] ++ [.turn 0])).own begins (.calm unended)
  rw [follow_turn] at found
  rw [found, Option.all_some] at ends
  simp only [Bool.and_eq_true, Bool.not_eq_true', beq_iff_eq] at ends
  obtain ⟨⟨ended, rfl⟩, rfl⟩ := ends
  obtain ⟨y, rfl⟩ := Fiber.eq_ended ended
  obtain ⟨x, left⟩ := export_recorded sys reached 0 (.timeline .sample) .sample asks idle ok
    [.turn 1] lasts y found
  rw [length] at left
  exact ⟨reached, idle, ok, lasts, y, x, ⟨false, 0, found⟩, left⟩

/-- The first window of `export_recorded`: a run that is asked to stop before its first step has no
history, leaves the state as it was and is not recorded. -/
theorem stopped_before_first_step :
    let sys := askedUnheard (.timeline .sample)
    let schedule := [.call (.inl .cancel), .turn 2, .turn 1]
    let next := (sys.resume 0).follow schedule
    let last := next.resume 0
    (∀ y, ¬ next.Ended 0 (requesting .sample .alone (.timeline .sample)) y)
      ∧ last.Ended 0 (requesting .sample .alone (.timeline .sample)) (.failed (.expected .cancelled))
      ∧ last.Ended 1 (running .sample .alone .sample) .cancelled
      ∧ (sys.resume 0).history 1 schedule = [] ∧ last.store.2.state = sys.store.2.state
      ∧ last.records = [] := by
  intro sys schedule next last
  have asks : sys.tasks[0]? = some { origin := requesting .sample .alone (.timeline .sample) } := rfl
  have evaluated : next.answer? 0 = none
      ∧ (sys.follow (.turn 0 :: (schedule ++ [.turn 0]))).answer? 0
        = some (.failed (.expected .cancelled))
      ∧ last.runEnd? 1 .sample = some .cancelled
      ∧ ((sys.resume 0).history 1 schedule).isEmpty = true
      ∧ last.store.2.state = sys.store.2.state ∧ last.records = [] := by
    decide +kernel
  -- from here on the desk is any desk of which this is known
  clear_value sys
  obtain ⟨waits, answer, told, none, state, records⟩ := evaluated
  exact ⟨not_ended_of_answer? waits, ended_of_answer? asks answer, ended_of_exitOf told,
    List.isEmpty_iff.mp none, state, records⟩

/-- The second window of `export_recorded`: a run whose listener asks it to stop at its last event
passes for a success. -/
theorem stopped_at_last_event :
    let sys := asked (fun e => e.message == Tracker.completeMessage) (.timeline .sample)
    let next := (sys.resume 0).follow [.turn 1]
    let last := next.resume 0
    (∀ y, ¬ next.Ended 0 (requesting .sample .alone (.timeline .sample)) y)
      ∧ last.Ended 0 (requesting .sample .alone (.timeline .sample)) (.failed (.expected .cancelled))
      ∧ last.Ended 1 (running .sample .alone .sample) .cancelled
      ∧ IsRecord Metric.succeeded (endings (deeds ((sys.resume 0).history 1 [.turn 1])))
      ∧ last.store.2.state = .succeeded := by
  intro sys next last
  have asks : sys.tasks[0]? = some { origin := requesting .sample .alone (.timeline .sample) } := rfl
  have evaluated : next.answer? 0 = none
      ∧ (sys.follow [.turn 0, .turn 1, .turn 0]).answer? 0
        = some (.failed (.expected .cancelled))
      ∧ last.runEnd? 1 .sample = some .cancelled
      ∧ endings (deeds ((sys.resume 0).history 1 [.turn 1]))
        = [.exportEnd (some "local") Metric.succeeded none, .exportDuration (some "local")]
      ∧ last.store.2.state = .succeeded := by
    decide +kernel
  clear_value sys
  obtain ⟨waits, answer, told, records, state⟩ := evaluated
  exact ⟨not_ended_of_answer? waits, ended_of_answer? asks answer, ended_of_exitOf told,
    ⟨_, _, records⟩, state⟩

/-- A payload with a pixel that is infinitely far away. -/
def farAway : ExportInput :=
  .payload (.obj [("canvasWidth", .int 1280), ("canvasHeight", .int 720),
    ("clips", .arr [.obj [("id", .str "c0"), ("startTime", .int 0), ("endTime", .int 10),
      ("sourceRef", .str "a.mp4"), ("x", .str "inf")]])])

/-- A fault that comes while the payload is read is not recorded. -/
theorem fault_before_run :
    ∃ last, last = (askedUnheard farAway).follow [.turn 0]
      ∧ last.answer? 0 = some (.failed (.unexpected .infiniteNumber))
      ∧ last.store.2.state = .idle ∧ last.records = [] := by
  refine ⟨_, rfl, ?_, ?_, ?_⟩ <;> decide +kernel

end System

end Montage
