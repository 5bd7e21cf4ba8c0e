import Montage.Proofs.Export.Order
import Montage.Proofs.Export.Sequential
import Montage.Proofs.Export.Solitude
import Montage.Proofs.Routine.Lives
import Montage.Proofs.Timeline.Faults

/-!
# Calls that get in each other's way

Any number of requests and cancellations may be made at one desk, in any order.  One export goes on
at most; a request that comes meanwhile leaves no trace, and neither does one whose timeline is
rejected; and a cancellation reaches the run that goes on, and nobody else.

* `Request.Rejected` — timelines that no export can have; `Request.judged` — what may become of a
  request.
* `System.RunsOn`, `System.Underway` — runs and requests that have not ended.
* `System.Refused`, `System.Cancelled` — a call that leaves no trace, and one that asks the active
  run to stop.
* `System.OneAtATime` — what callers can rely on; **`one_at_a_time`** — whatever the schedule.
-/

namespace Montage

variable {H : Interface} {s : Services H} {base : Program H} {M : Machine (Office H)}

/-! ## Timelines -/

namespace Request

/-- A timeline that no export can have: it cannot be read, or it is not fit for an export. -/
inductive Rejected (freshId : String) : ExportInput → TimelineProblem → Prop
  | malformed {j : Json} {problems : List FieldProblem}
      (reads : Timeline.decode freshId j = .bad problems) :
      Rejected freshId (.payload j) (.malformed problems)
  | unfitPayload {j : Json} {t : Timeline} {p : TimelineProblem}
      (reads : Timeline.decode freshId j = .ok t) (unfit : t.validate = .error p) :
      Rejected freshId (.payload j) p
  | unfit {t : Timeline} {p : TimelineProblem} (unfit : t.validate = .error p) :
      Rejected freshId (.timeline t) p

/-- A payload that breaks the desk off: one of its pixels is infinitely far away. -/
inductive Breaks : ExportInput → Prop
  | infinite {ms : Members} (far : Timeline.hasInfinite ms = true) : Breaks (.payload (.obj ms))

lemma accepted_payload (freshId : String) (j : Json) :
    accepted freshId (.payload j)
      = (Timeline.ofPayload freshId j).bind fun t => accepted freshId (.timeline t) := by
  change (Timeline.ofPayload freshId j).bind _ = _
  cases Timeline.ofPayload freshId j <;> rfl

lemma accepted_of_valid (freshId : String) {t : Timeline} (fit : t.validate = .ok ()) :
    accepted freshId (.timeline t) = .ok t := by
  rw [accepted_timeline, fit]
  rfl

lemma accepted_of_unfit (freshId : String) {t : Timeline} {p : TimelineProblem}
    (unfit : t.validate = .error p) :
    accepted freshId (.timeline t) = .error (.expected (.validation p)) := by
  rw [accepted_timeline, unfit]
  rfl

variable {freshId : String} {input : ExportInput}

/-- Whoever is rejected is told why. -/
lemma Rejected.accepted {p : TimelineProblem} (rejected : Rejected freshId input p) :
    accepted freshId input = .error (.expected (.validation p)) := by
  cases rejected with
  | malformed reads => rw [accepted_payload, Timeline.ofPayload, reads]; rfl
  | unfitPayload reads unfit =>
      rw [accepted_payload, Timeline.ofPayload, reads]
      exact accepted_of_unfit freshId unfit
  | unfit unfit => exact accepted_of_unfit freshId unfit

lemma Breaks.accepted (breaks : Breaks input) :
    accepted freshId input = .error (.unexpected .infiniteNumber) := by
  cases breaks with
  | @infinite ms far =>
      have ends := Timeline.endsWith_ofPayload freshId ms
      rw [far] at ends
      rw [accepted_payload]
      generalize Timeline.ofPayload freshId (.obj ms) = read at ends
      cases ends
      rfl

/-- A request is accepted or rejected, unless its payload breaks the desk off. -/
lemma judged (freshId : String) (input : ExportInput) :
    (∃ t, accepted freshId input = .ok t) ∨ (∃ p, Rejected freshId input p) ∨ Breaks input := by
  cases input with
  | timeline t =>
      cases fit : t.validate with
      | ok u => exact .inl ⟨t, accepted_of_valid freshId fit⟩
      | error p => exact .inr (.inl ⟨p, .unfit fit⟩)
  | payload j =>
      cases reads : Timeline.decode freshId j with
      | bad problems => exact .inr (.inl ⟨_, .malformed reads⟩)
      | ok t =>
          cases fit : t.validate with
          | error p => exact .inr (.inl ⟨p, .unfitPayload reads fit⟩)
          | ok u =>
              refine .inl ⟨t, ?_⟩
              rw [accepted_payload, Timeline.ofPayload, reads]
              exact accepted_of_valid freshId fit
      | broken f =>
          cases j with
          | obj ms =>
              have fault := Timeline.fault?_decode freshId ms
              rw [reads] at fault
              cases far : Timeline.hasInfinite ms with
              | true => exact .inr (.inr (.infinite far))
              | false => rw [far] at fault; cases fault
          | _ => cases reads

end Request

/-! ## Exports and calls -/

/-- A task that has begun and has not ended. -/
def Fiber.isUnderway {E : Interface} {α : Type} : Fiber E α → Bool
  | .fresh => false
  | .ended _ => false
  | _ => true

/-- The task of a call that asks for the end of the export. -/
abbrev cancelling (s : Services H) (base : Program H) : Origin (deskProgram s base) :=
  .call (.inl .cancel)

namespace System

/-- A run that has not ended; at most one is at any time (`OneAtATime`). -/
def RunsOn (sys : System (deskProgram s base) M) (r : TaskId) : Prop :=
  ∃ t f p n, sys.tasks[r]? = some ⟨running s base t, f, p, n⟩ ∧ f.hasEnded = false

/-- A request that has begun and has not ended, so that its run is the one at the desk. -/
def Underway (sys : System (deskProgram s base) M) (c : TaskId) : Prop :=
  ∃ input f p n, sys.tasks[c]? = some ⟨requesting s base input, f, p, n⟩ ∧ f.isUnderway = true

section Calls

variable [DecidableEq H.Gate] [DecidableEq H.Job] (sys : System (deskProgram s base) M) (c : TaskId)
  (n : Nat)

/-- A request ends in its first turn, and leaves no trace. -/
structure Refused (input : ExportInput) (e : Failure) : Prop where
  ended : (sys.resume c).tasks[c]? = some ⟨requesting s base input, .ended (.failed e), false, n⟩
  store : (sys.resume c).store = sys.store
  world : (sys.resume c).world = sys.world
  others : ∀ i, i ≠ c → (sys.resume c).tasks[i]? = sys.tasks[i]?

/-- A request is accepted: it waits for its run, which has not taken its first step. -/
structure Accepted (input : ExportInput) (t : Timeline) : Prop where
  underway : (sys.resume c).Underway c
  run : (sys.resume c).tasks[sys.tasks.length]? = some { origin := running s base t }
  active : (sys.resume c).store.2.active = some sys.tasks.length

/-- A cancellation ends in its first turn: it tells whether a run was going on that was not over,
and that run alone was asked to stop. -/
structure Cancelled (reply : Bool) : Prop where
  ended : (sys.resume c).tasks[c]? = some ⟨cancelling s base, .ended (.returned reply), false, n⟩
  told : reply = true ↔ ∃ r, sys.store.2.active = some r ∧ sys.RunsOn r
  asked : reply = true → ∀ r, sys.store.2.active = some r → (sys.resume c).Asked r
  store : (sys.resume c).store = sys.store
  world : (sys.resume c).world = sys.world
  others : ∀ i, i ≠ c → (reply = true → sys.store.2.active ≠ some i) →
    (sys.resume c).tasks[i]? = sys.tasks[i]?

end Calls

/-- What callers of a desk can rely on between two turns. -/
structure OneAtATime [DecidableEq H.Gate] [DecidableEq H.Job]
    (sys : System (deskProgram s base) M) : Prop where
  /-- One run goes on at most, the active one. -/
  sole : ∀ r, sys.RunsOn r → sys.store.2.active = some r
  /-- There is an active run as long as a request that was accepted has not ended. -/
  busy_iff : sys.store.2.active.isSome = true ↔ ∃ c, sys.Underway c
  /-- A request that comes meanwhile is refused without a trace, whatever its timeline, … -/
  busy : ∀ c input n, sys.tasks[c]? = some ⟨requesting s base input, .fresh, false, n⟩ →
    sys.store.2.active.isSome = true → sys.Refused c n input (.expected .busy)
  /-- … so is one with a timeline that is rejected, … -/
  rejected : ∀ c input n p, sys.tasks[c]? = some ⟨requesting s base input, .fresh, false, n⟩ →
    sys.store.2.active = none → Request.Rejected s.freshId input p →
      sys.Refused c n input (.expected (.validation p))
  /-- … and a payload that breaks the desk off leaves no trace either. -/
  broken : ∀ c input n, sys.tasks[c]? = some ⟨requesting s base input, .fresh, false, n⟩ →
    sys.store.2.active = none → Request.Breaks input →
      sys.Refused c n input (.unexpected .infiniteNumber)
  /-- All others are accepted. -/
  accepted : ∀ c input n t, sys.tasks[c]? = some ⟨requesting s base input, .fresh, false, n⟩ →
    sys.store.2.active = none → Request.accepted s.freshId input = .ok t →
      sys.Accepted c input t
  /-- A cancellation is for the active run and nobody else. -/
  cancel : s.Solitary → ∀ c n, sys.tasks[c]? = some ⟨cancelling s base, .fresh, false, n⟩ →
    ∃ reply, sys.Cancelled c n reply
  /-- However a request ends that was accepted, the desk is free again. -/
  freed : ∀ c input choice y, sys.Underway c →
    (sys.apply choice).Ended c (requesting s base input) y →
      (sys.apply choice).store.2.active = none

/-! ## Single calls -/

variable [DecidableEq H.Gate] [DecidableEq H.Job] {sys : System (deskProgram s base) M} {c : TaskId}
  {r : TaskId} {n : Nat} {input : ExportInput} {t : Timeline}

omit [DecidableEq H.Gate] in
/-- A call that ends changes itself alone. -/
lemma tasks_finish_call {o : Origin (deskProgram s base)} (called : ∃ d, o = .call d)
    (running : sys.tasks[c]? = some ⟨o, .running, false, n⟩) (x : Exit o.Out) :
    (sys.finish c o x).tasks[c]? = some ⟨o, .ended x, false, n⟩
      ∧ ∀ i, i ≠ c → (sys.finish c o x).tasks[i]? = sys.tasks[i]? := by
  refine ⟨ended_finish running x, fun i apart => ?_⟩
  rw [tasks_finish running]
  obtain ⟨d, rfl⟩ := called
  exact announced_call apart

lemma refused_of_error {e : Failure}
    (found : sys.tasks[c]? = some ⟨requesting s base input, .fresh, false, n⟩)
    (bad : Request.admitted s input sys.store.2 = .error e) : sys.Refused c n input e := by
  have turn := resume_refused found bad
  obtain ⟨ended, others⟩ := tasks_finish_call ⟨_, rfl⟩ (running_begun found false) (.failed e)
  rw [← turn] at ended others
  exact ⟨ended, (congrArg System.store turn).trans rfl, (congrArg System.world turn).trans rfl,
    fun i apart => (others i apart).trans (tasks_update_of_ne sys _ apart.symm)⟩

lemma accepted_of_ok (found : sys.tasks[c]? = some ⟨requesting s base input, .fresh, false, n⟩)
    (free : sys.store.2.active = none) (ok : Request.accepted s.freshId input = .ok t) :
    sys.Accepted c input t := by
  obtain ⟨waits, run, -, store⟩ := resume_accepted found ((Request.admitted_idle free).trans ok)
  exact ⟨⟨input, _, _, _, waits, rfl⟩, run, by rw [store]⟩

/-! ### Cancellations -/

/-- A cancellation looks at the desk, and asks its active run. -/
lemma perform_cancel (sys : System (deskProgram s base) M) (c : TaskId) :
    sys.perform c (cancelling s base) Desk.cancel
      = sys.perform c (cancelling s base) (match sys.store.2.active with
        | some t => Routine.cancelTask (E := Office H) t
        | none => .done (.returned false)) := rfl

/-- At an idle desk a cancellation has nobody to ask. -/
lemma perform_cancel_idle (free : sys.store.2.active = none) :
    sys.perform c (cancelling s base) Desk.cancel
      = sys.finish c (cancelling s base) (.returned false) := by
  rw [perform_cancel, free]
  rfl

/-- At a desk with an active run a cancellation asks that run. -/
lemma perform_cancel_active (active : sys.store.2.active = some r) :
    sys.perform c (cancelling s base) Desk.cancel
      = (sys.cancel r).2.finish c (cancelling s base) (.returned (sys.cancel r).1) := by
  rw [perform_cancel, active]
  rfl

/-- At an idle desk a cancellation does nothing. -/
lemma cancelled_idle (found : sys.tasks[c]? = some ⟨cancelling s base, .fresh, false, n⟩)
    (free : sys.store.2.active = none) : sys.Cancelled c n false := by
  obtain ⟨ended, others⟩ := tasks_finish_call (o := cancelling s base) ⟨_, rfl⟩
    (running_begun found false) (.returned false)
  have turn : sys.resume c = (sys.begun c (cancelling s base) false n).finish c
      (cancelling s base) (.returned false) :=
    (resume_fresh found).trans (perform_cancel_idle free)
  rw [← turn] at ended others
  refine ⟨ended, iff_of_false Bool.false_ne_true ?_, nofun, (congrArg System.store turn).trans rfl,
    (congrArg System.world turn).trans rfl, fun i apart _ =>
      (others i apart).trans (tasks_update_of_ne sys _ apart.symm)⟩
  rintro ⟨r, active, -⟩
  cases free.symm.trans active

/-- A cancellation reaches the active run, and nobody else if that has joined nobody. -/
lemma cancelled_active
    (found : sys.tasks[c]? = some ⟨cancelling s base, .fresh, false, n⟩)
    (active : sys.store.2.active = some r) {f : Fiber (Office H) Video} {p : Bool} {m : Nat}
    (run : sys.tasks[r]? = some ⟨running s base t, f, p, m⟩) (alone : f.joined? = none) :
    ∃ reply, sys.Cancelled c n reply := by
  have ne : r ≠ c := by
    rintro rfl
    cases found.symm.trans run
  let begun := sys.begun c (cancelling s base) false n
  have begins : begun.tasks[c]? = some ⟨cancelling s base, .running, false, n⟩ :=
    running_begun found false
  have elsewhere : ∀ i, i ≠ c → begun.tasks[i]? = sys.tasks[i]? := fun i apart =>
    tasks_update_of_ne sys _ apart.symm
  have reaches : ∀ i, i ≠ r → (begun.cancel r).2.tasks[i]? = begun.tasks[i]? := fun i apart =>
    tasks_cancel_of_not_concerns fun concerns => apart <| eq_of_concerns (fun task here => by
      cases ((elsewhere r ne).trans run).symm.trans here
      exact alone) concerns
  obtain ⟨ended, others⟩ := tasks_finish_call (o := cancelling s base) ⟨_, rfl⟩
    ((reaches c ne.symm).trans begins) (.returned (begun.cancel r).1)
  have turn : sys.resume c = (begun.cancel r).2.finish c (cancelling s base)
      (.returned (begun.cancel r).1) :=
    (resume_fresh found).trans (perform_cancel_active active)
  rw [← turn] at ended others
  refine ⟨(begun.cancel r).1, ended, ?_, fun told u active' => ?_, ?_, ?_, fun i apart spared => ?_⟩
  · rw [cancel_eq_true_iff, elsewhere r ne, run]
    refine ⟨fun ⟨task, same, unended⟩ => ?_, fun ⟨u, active', goes⟩ => ?_⟩
    · cases same
      exact ⟨r, active, _, _, _, _, run, unended⟩
    · obtain rfl : r = u := Option.some.inj (active.symm.trans active')
      obtain ⟨_, f, p, m, run', unended⟩ := goes
      exact ⟨_, run.symm.trans run', unended⟩
  · obtain rfl : r = u := Option.some.inj (active.symm.trans active')
    obtain ⟨task, present, asked⟩ := asked_cancelWithin told
    exact ⟨task, (others r ne).trans present, asked⟩
  · exact (congrArg System.store turn).trans (System.steady.cancelWithin begun r _).store
  · exact (congrArg System.world turn).trans (System.world_stops.cancelWithin begun r _)
  · rw [others i apart]
    cases told : (begun.cancel r).1 with
    | true =>
        have other : i ≠ r := fun same => spared told (same ▸ active)
        exact (reaches i other).trans (elsewhere i apart)
    | false =>
        rw [cancel_of_told_false told]
        exact elsewhere i apart

/-! ## Whatever the schedule -/

omit [DecidableEq H.Gate] in
/-- A request waits for its run, or was told how it ended. -/
lemma Taken.underway (taken : sys.Taken c input r t) : sys.Underway c := by
  cases taken.attends with
  | waiting found => exact ⟨_, _, _, _, found, rfl⟩
  | told found => exact ⟨_, _, _, _, found, rfl⟩

omit [DecidableEq H.Gate] [DecidableEq H.Job] in
/-- A run that goes on has a part in an export. -/
lemma RunsOn.busy (goes : sys.RunsOn r) :
    ∃ task, sys.tasks[r]? = some task ∧ task.isBusy = true ∧ task.origin.isRun = true := by
  obtain ⟨t, f, p, n, found, unended⟩ := goes
  refine ⟨_, found, ?_, rfl⟩
  rw [Task.isBusy_eq rfl, unended]
  rfl

section Runs

variable {world : M.State} {store : H.Store} {schedule : List (Choice (deskProgram s base))}

/-- A request that is on its way has a part in an export. -/
lemma Underway.busy (reached : sys = (opened world store).follow schedule)
    (underway : sys.Underway c) :
    ∃ task, sys.tasks[c]? = some task ∧ task.isBusy = true ∧ task.origin.isRequest = true := by
  obtain ⟨input, f, p, n, found, goes⟩ := underway
  refine ⟨_, found, ?_, rfl⟩
  rw [reached] at found
  obtain ⟨evolves, -⟩ := lived rfl found
  generalize (opened world store : System (deskProgram s base) M).history c schedule = h at evolves
  -- nobody is in the middle of a turn
  cases evolves with
  | still => cases goes
  | unbegun => cases goes
  | comes comes =>
      cases comes with
      | waiting leads => rfl
      | ready leads => rfl
      | ended plays => cases goes
      | lost plays => cases goes

/-- The request that is on its way has taken the desk. -/
lemma Underway.taken (orderly : sys.Orderly) (reached : sys = (opened world store).follow schedule)
    (underway : sys.Underway c) : ∃ input r t, sys.Taken c input r t := by
  obtain ⟨task, found, busy, request⟩ := underway.busy reached
  rcases orderly.order with idle | ⟨c', input, r, t, taken⟩
  · cases busy.symm.trans (idle.calm c task found)
  · rcases taken.calm c task found busy with rfl | rfl
    · exact ⟨input, r, t, taken⟩
    · obtain ⟨f, p, n, run⟩ := taken.run
      cases found.symm.trans run
      cases request

/-- The active run has joined nobody. -/
lemma joined?_run (solitary : s.Solitary) (reached : sys = (opened world store).follow schedule)
    {f : Fiber (Office H) Video} {p : Bool} {m : Nat}
    (run : sys.tasks[r]? = some ⟨running s base t, f, p, m⟩) : f.joined? = none := by
  rw [reached] at run
  obtain ⟨evolves, -⟩ := lived rfl run
  have starts : (Fiber.rest (Montage.run s t) .fresh).Solitary := solitary_run solitary t
  exact joined?_eq_none (Routine.Within.evolves starts evolves) fun _ => id

/-- What callers can rely on in a system that has come about. -/
lemma oneAtATime_reached (reached : sys = (opened world store).follow schedule) :
    sys.OneAtATime := by
  have orderly : sys.Orderly := Reached.orderly ⟨world, store, schedule, reached⟩
  refine ⟨fun r goes => ?_, ⟨fun active => ?_, fun ⟨c, underway⟩ => ?_⟩,
    fun c input n found active => ?_, fun c input n p found free rejected => ?_,
    fun c input n found free breaks => ?_, fun c input n t => accepted_of_ok,
    fun solitary c n found => ?_, fun c input choice y underway ended => ?_⟩
  · obtain ⟨task, found, busy, run⟩ := goes.busy
    rcases orderly.order with idle | ⟨c, input, r', t, taken⟩
    · cases busy.symm.trans (idle.calm r task found)
    · rcases taken.calm r task found busy with rfl | rfl
      · obtain ⟨_, _, _, _, found', -⟩ := taken.underway
        cases found.symm.trans found'
        cases run
      · exact taken.active
  · rcases orderly.order with idle | ⟨c, input, r, t, taken⟩
    · cases active.symm.trans (congrArg Option.isSome idle.active)
    · exact ⟨c, taken.underway⟩
  · obtain ⟨input, r, t, taken⟩ := underway.taken orderly reached
    rw [taken.active]
    rfl
  · obtain ⟨r, active⟩ := Option.isSome_iff_exists.mp active
    exact refused_of_error found (Request.admitted_busy active)
  · exact refused_of_error found ((Request.admitted_idle free).trans rejected.accepted)
  · exact refused_of_error found ((Request.admitted_idle free).trans breaks.accepted)
  · rcases orderly.order with idle | ⟨c', input, r, t, taken⟩
    · exact ⟨false, cancelled_idle found idle.active⟩
    · obtain ⟨f, p, m, run⟩ := taken.run
      exact cancelled_active found taken.active run (joined?_run solitary reached run)
  · obtain ⟨input', r, t, taken⟩ := underway.taken orderly reached
    rcases taken.apply orderly.sound orderly.runs choice with still | ⟨idle, -⟩
    · obtain ⟨_, f, p, n, found, goes⟩ := still.underway
      obtain ⟨p', n', found'⟩ := ended
      cases found.symm.trans found'
      cases goes
    · exact idle.active

end Runs

end System

/-- **One export at a time**, and calls that are refused leave no trace: whoever calls, how often
and when, whoever is asked to stop and whatever the stages do.  Every request that comes to an idle
desk is accepted or rejected, unless its payload breaks the desk off; and what the runs of the
studio rely on joins nobody. -/
theorem one_at_a_time :
    (∀ {H : Interface} {s : Services H} {base : Program H} {M : Machine (Office H)}
      [DecidableEq H.Gate] [DecidableEq H.Job] (world : M.State) (store : H.Store)
      (schedule : List (Choice (deskProgram s base))),
      ((System.opened world store).follow schedule).OneAtATime)
    ∧ (∀ (freshId : String) (input : ExportInput), (∃ t, Request.accepted freshId input = .ok t)
      ∨ (∃ p, Request.Rejected freshId input p) ∨ Request.Breaks input)
    ∧ ∀ (settings : Settings) (freshId : String) (backend : BackendKind → Backend),
      (∀ kind, ∃ settings',
        backend kind = .onEngine settings' ∨ backend kind = .onWorker settings') →
      (studioServices settings freshId backend).Solitary :=
  ⟨fun _ _ _ => System.oneAtATime_reached rfl, Request.judged,
    fun settings freshId _ => solitary_studioServices settings freshId⟩

lemma solitary_sample : Services.sample.Solitary :=
  ⟨fun _ => Routine.maintains_done _, fun _ _ _ _ => Routine.maintains_done _,
    fun _ => Routine.maintains_done _⟩

/-- A desk at which an export goes on, and another one and its end have just been asked for. -/
def crowded : System (deskProgram .sample .alone) (Machine.alone fun _ => false) :=
  (System.opened [] ()).follow [.call (.inl (.request (.timeline .sample))), .turn 0,
    .call (.inl (.request (.timeline .sample))), .call (.inl .cancel)]

theorem one_at_a_time_sample :
    crowded.store.2.active = some 1
      ∧ crowded.Refused 2 0 (.timeline .sample) (.expected .busy)
      ∧ (∃ reply, crowded.Cancelled 3 0 reply)
      ∧ (studioServices .defaults "" (.ofKind .defaults)).Solitary := by
  have holds : crowded.OneAtATime := by
    rw [crowded]
    exact one_at_a_time.1 _ _ _
  have active : crowded.store.2.active = some 1 := by decide +kernel
  refine ⟨active, holds.busy 2 _ 0 rfl (congrArg Option.isSome active),
    holds.cancel solitary_sample 3 0 rfl, one_at_a_time.2.2 .defaults "" _ fun kind => ?_⟩
  cases kind with
  | localEngine => exact ⟨_, .inl rfl⟩
  | remoteWorker => exact ⟨_, .inr rfl⟩

end Montage
