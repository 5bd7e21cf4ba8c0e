import Montage.Proofs.Export.Ends
import Montage.Proofs.Progress.Merging

/-!
# What a run tells its listener

A run hands its tracker on from stage to stage, through every note of the classifier and of the
backend.  So what it tells its listener is the stream of one tracker, from the first report to the
last.

* `told` — the events of a history.
* `Routine.Merges` — a routine tells the events of a tracker, and ends with the tracker after them;
  `merges_follow` — so does whatever is listened to.
* **`merges_run`** — so does a run, and one that succeeds tells that the export is complete in the
  end.
* **`progress_merged`** — what streams of trackers have in common, and that those of exports are
  among them.
-/

namespace Montage

variable {H : Interface} {α β : Type} {h : History (Office H)}

/-! ## What is told -/

/-- The events that a listener is told of. -/
def told (h : History (Office H)) : List ProgressEvent :=
  h.filterMap fun
    | .asked (.act (.inl (.event e))) _ => some e
    | _ => none

@[simp] lemma told_nil : told ([] : History (Office H)) = [] := rfl

@[simp] lemma told_append (h h' : History (Office H)) : told (h ++ h') = told h ++ told h' :=
  List.filterMap_append

namespace Routine

/-- A routine that tells nothing, whichever way it goes to its end. -/
def Silent (r : OfficeRoutine H α) : Prop := ∀ h x, r.Plays h x → told h = []

/-- A routine that tells the events of a tracker; with a value comes the tracker after them. -/
def Merges (t : Tracker) (r : OfficeRoutine H α) (out : α → Tracker) : Prop :=
  ∀ h x, r.Plays h x → ∃ calls, told h = t.events calls
    ∧ ∀ a, x = .returned a → out a = t.follow calls

variable {t : Tracker} {r : OfficeRoutine H α} {out : α → Tracker} {out' : β → Tracker}

/-! ### Silence -/

/-- An end tells nothing. -/
lemma silent_done (x : Exit α) : Silent (.done x : OfficeRoutine H α) := by
  intro h y plays
  obtain ⟨rfl, -⟩ := plays_done.mp plays
  rfl

/-- A question tells nothing unless it is an event. -/
lemma silent_ask {q : Request (Office H)} {k : q.Reply → OfficeRoutine H α}
    (quiet : ∀ v, told [.asked q v] = []) (rest : ∀ v, Silent (k v)) : Silent (.ask q k) := by
  intro h x plays
  obtain ⟨v, h', rfl, later⟩ := plays_ask.mp plays
  have same : told (Event.asked q v :: h') = told [.asked q v] ++ told h' :=
    told_append [Event.asked q v] h'
  rw [same, quiet, rest v h' x later, List.nil_append]

/-- To wait tells nothing. -/
lemma silent_await {s : Suspension (Office H)} {k : Exit s.Answer → OfficeRoutine H α}
    (rest : ∀ x, Silent (k x)) : Silent (.await s k) := by
  intro h x plays
  obtain ⟨y, h', rfl, later⟩ := plays_await.mp plays
  exact rest y h' x later

/-- Two parts that tell nothing, one after the other. -/
lemma Silent.handle {f : Exit α → OfficeRoutine H β} (first : Silent r)
    (rest : ∀ x, Silent (f x)) : Silent (r.handle f) := by
  intro h y plays
  obtain ⟨h₁, x, h₂, rfl, own, later⟩ := plays_handle.mp plays
  rw [told_append, first h₁ x own, rest x h₂ y later, List.nil_append]

lemma Silent.bind {f : α → OfficeRoutine H β} (first : Silent r) (rest : ∀ a, Silent (f a)) :
    Silent (r.bind f) := by
  refine first.handle fun x => ?_
  cases x with
  | returned a => exact rest a
  | failed e => exact silent_done _
  | cancelled => exact silent_done _

/-- What cannot fail and tells nothing is gone on with. -/
lemma Silent.plays_bind {ds : List (Deed H)} (silent : Silent r) (surely : Surely r ds)
    {f : α → OfficeRoutine H β} {x : Exit β} (plays : (r.bind f).Plays h x) :
    ∃ a rest, told h = told rest ∧ (f a).Plays rest x := by
  have returns : ∀ h x, r.Plays h x → ∃ a, x = .returned a ∧ told h = [] := fun h x plays => by
    obtain ⟨a, same, -⟩ := surely h x plays
    exact ⟨a, same, silent h x plays⟩
  obtain ⟨a, first, rest, rfl, none, later⟩ := plays_bind_of_returns returns plays
  exact ⟨a, rest, by rw [told_append, none, List.nil_append], later⟩

/-! ### Events -/

/-- An end that hands the tracker on as it is. -/
lemma merges_done {x : Exit α} (same : ∀ a, x = .returned a → out a = t) :
    Merges t (.done x : OfficeRoutine H α) out := by
  intro h y plays
  obtain ⟨rfl, rfl⟩ := plays_done.mp plays
  exact ⟨[], rfl, same⟩

/-- What is silent keeps the tracker as it is. -/
lemma Silent.merges (silent : Silent r) : Merges t r fun _ => t :=
  fun h x plays => ⟨[], silent h x plays, fun _ _ => rfl⟩

/-- What follows goes on with the tracker; where there is no value, nothing more is told. -/
lemma Merges.handle {f : Exit α → OfficeRoutine H β} (first : Merges t r out)
    (goes : ∀ a, Merges (out a) (f (.returned a)) out')
    (stops : ∀ x, (∀ a, x ≠ .returned a) →
      Silent (f x) ∧ ∀ h y b, (f x).Plays h y → y ≠ .returned b) :
    Merges t (r.handle f) out' := by
  intro h y plays
  obtain ⟨h₁, x, h₂, rfl, own, later⟩ := plays_handle.mp plays
  obtain ⟨calls, same, after⟩ := first h₁ x own
  have ends : (∀ a, x ≠ .returned a) → ∃ calls, told (h₁ ++ h₂) = t.events calls
      ∧ ∀ b, y = .returned b → out' b = t.follow calls := by
    intro stopped
    obtain ⟨silent, never⟩ := stops x stopped
    refine ⟨calls, ?_, fun b returned => absurd returned (never h₂ y b later)⟩
    rw [told_append, silent h₂ y later, List.append_nil, same]
  cases x with
  | failed e => exact ends nofun
  | cancelled => exact ends nofun
  | returned a =>
      obtain ⟨more, same', after'⟩ := goes a h₂ y later
      refine ⟨calls ++ more, ?_, fun b returned => ?_⟩
      · rw [told_append, same, same', Tracker.events_append, after a rfl]
      · rw [after' b returned, Tracker.follow_append, after a rfl]

/-- What tells the events of a tracker, and then what tells those of the tracker after it. -/
lemma Merges.bind {f : α → OfficeRoutine H β} (first : Merges t r out)
    (rest : ∀ a, Merges (out a) (f a) out') : Merges t (r.bind f) out' := by
  refine first.handle rest fun x stopped => ?_
  cases x with
  | returned a => exact absurd rfl (stopped a)
  | failed e => exact ⟨silent_done _, fun h y b plays => (plays_done.mp plays).2 ▸ nofun⟩
  | cancelled => exact ⟨silent_done _, fun h y b plays => (plays_done.mp plays).2 ▸ nofun⟩

/-- After a part that tells nothing, however it ends. -/
lemma Silent.merges_handle {f : Exit α → OfficeRoutine H β} (first : Silent r)
    (rest : ∀ x, Merges t (f x) out') : Merges t (r.handle f) out' := by
  intro h y plays
  obtain ⟨h₁, x, h₂, rfl, own, later⟩ := plays_handle.mp plays
  rw [told_append, first h₁ x own, List.nil_append]
  exact rest x h₂ y later

lemma Silent.merges_bind {f : α → OfficeRoutine H β} (first : Silent r)
    (rest : ∀ a, Merges t (f a) out') : Merges t (r.bind f) out' :=
  (first.merges (t := t)).bind rest

/-- What follows a value may tell more; ends without a value are of no interest. -/
lemma Merges.told_bind (first : Merges t r out) {f : α → OfficeRoutine H β} {x : Exit β}
    (plays : (r.bind f).Plays h x) :
    ∃ calls, (told h = t.events calls ∧ ∀ v, x ≠ .returned v)
      ∨ ∃ a h₁ h₂, h = h₁ ++ h₂ ∧ told h₁ = t.events calls ∧ out a = t.follow calls
        ∧ (f a).Plays h₂ x := by
  rcases Routine.plays_bind.mp plays with ⟨a, h₁, h₂, rfl, own, later⟩ | ⟨e, own, rfl⟩ | ⟨own, rfl⟩
  · obtain ⟨calls, same, after⟩ := first h₁ _ own
    exact ⟨calls, .inr ⟨a, h₁, h₂, rfl, same, after a rfl, later⟩⟩
  · obtain ⟨calls, same, -⟩ := first h _ own
    exact ⟨calls, .inl ⟨same, nofun⟩⟩
  · obtain ⟨calls, same, -⟩ := first h _ own
    exact ⟨calls, .inl ⟨same, nofun⟩⟩

end Routine

open Routine

/-! ## The desk -/

lemma silent_modify (f : Desk → Desk) : Silent (Desk.modify f : OfficeRoutine H Unit) :=
  silent_ask (q := .get) (fun _ => rfl) fun s =>
    silent_ask (q := .set (s.1, f s.2)) (fun _ => rfl) fun _ => silent_done _

lemma silent_setState (state : ExportState) : Silent (Desk.setState state : OfficeRoutine H Unit) :=
  silent_modify fun d => { d with state }

lemma silent_record (m : Metric) : Silent (Desk.record m : OfficeRoutine H Unit) :=
  silent_ask (q := .act (.inl (.metric m))) (fun _ => rfl) fun _ => silent_done _

/-- To tell nothing goes to whatever knows nothing of the desk. -/
lemma closed_silent : Office.ClosedAtBase (fun _ => True)
    fun _ (r : OfficeRoutine H _) => Silent r where
  ends := silent_done
  handle := Silent.handle
  ask q foreign := by
    refine silent_ask (fun v => ?_) fun _ => silent_done _
    cases q with
    | act a =>
        cases a with
        | inl e => exact foreign.elim
        | inr a => rfl
    | _ => rfl
  set s := silent_ask (q := .get) (fun _ => rfl) fun old =>
    silent_ask (q := .set (s, old.2)) (fun _ => rfl) fun _ => silent_done _
  await s _ := by
    cases s <;> exact silent_await fun _ => silent_done _

lemma silent_conclude (state : ExportState) (backend : Option BackendKind) (outcome : String)
    (reason : Option String) :
    Silent (Run.conclude state backend outcome reason : OfficeRoutine H Unit) :=
  closed_silent.closed.conclude (silent_setState state) silent_record backend outcome reason

/-! ## Runs -/

variable {t : Tracker}

/-- An event is told once, whatever the listener asks for. -/
lemma told_emit {e : ProgressEvent} {x : Exit Tracker}
    (plays : (Run.emit t e : OfficeRoutine H Tracker).Plays h x) :
    told h = [e] ∧ x = .returned (t.advance e) := by
  obtain ⟨asks, rest, rfl, later⟩ := plays_ask.mp plays
  have ends : told rest = [] ∧ x = .returned (t.advance e) := by
    cases asks with
    | false =>
        obtain ⟨rfl, rfl⟩ := plays_done.mp later
        exact ⟨rfl, rfl⟩
    | true =>
        obtain ⟨_, last, same, ends⟩ :=
          closed_silent.closed.cancel.plays_bind closed_surely.cancel later
        obtain ⟨rfl, rfl⟩ := plays_done.mp ends
        exact ⟨same, rfl⟩
  exact ⟨congrArg (e :: ·) ends.1, ends.2⟩

/-- One event of the tracker. -/
lemma merges_emit (call : TrackerCall) {e : ProgressEvent} (made : t.event? call = some e)
    (after : t.apply call = t.advance e) :
    Merges t (Run.emit t e : OfficeRoutine H Tracker) id := by
  intro h x plays
  obtain ⟨tells, rfl⟩ := told_emit plays
  refine ⟨[call], ?_, fun a same => ?_⟩
  · rw [tells, Tracker.events, made]
    rfl
  · rw [← Exit.returned.inj same]
    exact after.symm

/-- To report is one event of the tracker. -/
lemma merges_report (u : ProgressUpdate) :
    Merges t (Run.emit t (t.report u) : OfficeRoutine H Tracker) id :=
  merges_emit (.report u) rfl rfl

/-- **Whatever is listened to, its notes become events of the tracker.** -/
lemma merges_follow (r : Routine (H.noting ProgressUpdate) α) :
    Merges t (Run.follow t r) Prod.snd := by
  induction r using Routine.noting_induction generalizing t with
  | done x =>
      refine merges_done fun a same => ?_
      cases x with
      | returned b => rw [← Exit.returned.inj same]
      | failed e => cases same
      | cancelled => cases same
  | note u k ih => exact (merges_report u).bind fun t => ih ()
  | question q k ih =>
      rw [Run.follow_question]
      exact (closed_silent.question q).merges_bind fun v => ih v
  | suspension s k ih =>
      rw [Run.follow_suspension]
      exact (closed_silent.await s trivial).merges_handle fun x => ih x

/-- To record an end tells the listener nothing, so a stage tells what is done in it. -/
lemma merges_stage {r : OfficeRoutine H α} {out : α → Tracker} (merges : Merges t r out)
    (backend : Option BackendKind) : Merges t (Run.stage backend r) out := by
  have stops : ∀ outcome reason (x : Exit α), (∀ a, x ≠ .returned a) →
      Silent ((Run.conclude .failed backend outcome reason).bind fun _ => .done x :
        OfficeRoutine H α)
        ∧ ∀ (h : History (Office H)) y b,
          ((Run.conclude .failed backend outcome reason).bind fun _ => .done x).Plays h y →
            y ≠ .returned b := by
    intro outcome reason x stopped
    refine ⟨(silent_conclude _ _ _ _).bind fun _ => silent_done x, fun h y b plays => ?_⟩
    rw [(plays_conclude plays).1]
    exact stopped b
  refine merges.handle (fun a => merges_done fun _ same => by rw [← Exit.returned.inj same])
    fun x stopped => ?_
  cases x with
  | returned a => exact absurd rfl (stopped a)
  | cancelled => exact stops _ _ _ nofun
  | failed e =>
      cases e with
      | expected e => exact stops _ _ _ nofun
      | unexpected f => exact stops _ _ _ nofun

/-- Classifying begins with the first report of a new tracker. -/
lemma merges_classified (s : Services H) (timeline : Timeline) :
    Merges {} (Run.classified s timeline) Prod.snd :=
  (silent_setState _).merges_bind fun _ => (merges_report _).bind fun _ => merges_follow _

/-- Executing goes on with the tracker that it was given; cleaning up tells nothing. -/
lemma merges_processed (s : Services H) (timeline : Timeline) (p : Payloads)
    (backend : BackendKind) : Merges t (Run.processed s timeline p backend t) Prod.snd := by
  have tidies : Silent (do Desk.setState .cleanup; Run.cleanUp s backend : OfficeRoutine H Unit) :=
    (silent_setState _).bind fun _ => closed_silent.cleanUp (within_anything _)
  refine (silent_record _).merges_bind fun _ => (silent_done _).merges_bind fun m => ?_
  refine (merges_report _).bind fun t => (silent_setState _).merges_bind fun _ => ?_
  refine (silent_done _).merges_bind fun g => (silent_setState _).merges_bind fun _ => ?_
  refine (silent_modify _).merges_bind fun _ => (merges_follow _).handle (fun a => ?_)
    fun x stopped => ⟨tidies.bind fun _ => silent_done x, fun h y b plays => ?_⟩
  · exact tidies.merges_bind fun _ => merges_done fun _ same => by rw [← Exit.returned.inj same]
  · rcases plays_bind.mp plays with ⟨_, _, rest, -, -, ends⟩ | ⟨e, -, rfl⟩ | ⟨-, rfl⟩
    · rw [(plays_done.mp ends).2]
      exact stopped b
    · nofun
    · nofun

/-- The end of a run that succeeds. -/
lemma told_succeeded {backend : BackendKind} {v : Video} {x : Exit Video}
    (plays : ((do
      Run.conclude .succeeded (some backend) Metric.succeeded none
      let _ ← Run.emit t (t.complete Tracker.completeMessage)
      return v : OfficeRoutine H Video)).Plays h x) :
    told h = t.events [.complete Tracker.completeMessage] := by
  obtain ⟨_, rest, same, later⟩ :=
    (silent_conclude _ _ _ _).plays_bind (surely_conclude _ _ _ _) plays
  obtain ⟨_, first, last, rfl, tells, ends⟩ := plays_bind_of_returns
    (a := fun h _ => told h = [t.complete Tracker.completeMessage])
    (fun h x plays => ⟨_, (told_emit plays).2, (told_emit plays).1⟩) later
  obtain ⟨rfl, -⟩ := plays_done.mp ends
  rw [same, List.append_nil, tells]
  rfl

/-- **A run tells the stream of one tracker**, and one that succeeds tells last that the export is
complete. -/
theorem merges_run {s : Services H} {timeline : Timeline} {x : Exit Video}
    (plays : (run s timeline).Plays h x) :
    ∃ calls, told h = ({} : Tracker).events calls
      ∧ ∀ v, x = .returned v → ∃ first message, calls = first ++ [.complete message] := by
  obtain ⟨calls, ⟨same, never⟩ | ⟨⟨p, t⟩, h₁, h₂, rfl, same, after, later⟩⟩ :=
    (merges_stage (merges_classified (H := H) s timeline) none).told_bind plays
  · exact ⟨calls, same, fun v returned => absurd returned (never v)⟩
  obtain rfl : t = ({} : Tracker).follow calls := after
  -- the tracker is told which backend it is, and goes on
  let backend := chooseBackend p.totalBytes s.threshold
  let bound := calls ++ [.bind backend]
  have goes : ∀ later, ({} : Tracker).events (bound ++ later)
      = told h₁ ++ ((({} : Tracker).follow calls).bind backend).events later := by
    intro later
    rw [List.append_assoc, Tracker.events_append, same]
    rfl
  obtain ⟨calls', ⟨same', never⟩ | ⟨⟨content, t⟩, h₃, h₄, rfl, same', after', later⟩⟩ :=
    (merges_stage (merges_processed (t := (({} : Tracker).follow calls).bind backend) s timeline p
      backend) (some backend)).told_bind later
  · exact ⟨bound ++ calls', by rw [told_append, goes, same'],
      fun v returned => absurd returned (never v)⟩
  refine ⟨bound ++ (calls' ++ [.complete Tracker.completeMessage]), ?_, fun v _ =>
    ⟨bound ++ calls', _, (List.append_assoc ..).symm⟩⟩
  rw [goes, Tracker.events_append, ← after', ← same', ← told_succeeded later, ← told_append,
    ← told_append]

/-! ## Whole exports -/

/-- The events of an export whose caller gets a video. -/
lemma System.told_of_success {s : Services H} {base : Program H} {M : Machine (Office H)}
    [DecidableEq H.Gate] [DecidableEq H.Job] {sys : System (deskProgram s base) M}
    (reached : sys.Reached) {c : TaskId} {input : ExportInput} {timeline : Timeline}
    (asks : sys.tasks[c]? = some { origin := requesting s base input })
    (idle : sys.store.2.active = none) (ok : Request.accepted s.freshId input = .ok timeline)
    {schedule : List (Choice (deskProgram s base))}
    (lasts : ∀ y, ¬ ((sys.resume c).follow schedule).Ended c (requesting s base input) y)
    {v : Video} (ended : (((sys.resume c).follow schedule).resume c).Ended c
      (requesting s base input) (.returned v)) :
    ∃ first message, told ((sys.resume c).history sys.tasks.length schedule)
      = ({} : Tracker).events (first ++ [.complete message]) := by
  obtain ⟨p, n, ended⟩ := ended
  obtain ⟨x, p', n', found, hears, -, plays⟩ :=
    course_of_ended reached.orderly asks idle ok schedule lasts ended
  -- the run ended with the video
  have returned : ∃ w, x = .returned w := by
    rcases hears with ⟨-, never⟩ | same
    · exact absurd rfl (never v)
    · cases x with
      | returned w => exact ⟨w, rfl⟩
      | failed e => cases same
      | cancelled => cases same
  obtain ⟨w, rfl⟩ := returned
  rcases plays with plays | ⟨-, stopped, -⟩
  · obtain ⟨calls, same, completes⟩ := merges_run plays
    obtain ⟨first, message, rfl⟩ := completes w rfl
    exact ⟨first, message, same⟩
  · cases stopped

/-- **Merged progress.**  Whatever is reported and whoever listens, the history stays on the bar and
does not go back; each report and each completion makes one entry, of which the listener is told
once; history and place do not depend on the listener; and once the export is complete all entries
are at 100.  So the events of an export whose caller gets a video advance, and the last one is at
100. -/
theorem progress_merged :
    (∀ {σ : Type} (hears : Option (Listener σ)) (listener : σ) (calls : List TrackerCall),
      let s := ({ listener } : EventStream σ).follow hears calls
      Advancing s.history
        ∧ (∀ backend, let next := s.apply hears (.bind backend)
          next.history = s.history ∧ next.listener = s.listener)
        ∧ (∀ call, (∀ backend, call ≠ .bind backend) → ∃ e, let next := s.apply hears call
          next.history = s.history ++ [e] ∧ next.tracker.last = e.progress
            ∧ ∀ hear, hears = some hear → next.listener = (hear e s.listener).2)
        ∧ (∀ {τ : Type} (hears' : Option (Listener τ)) (listener' : τ),
          let other := ({ listener := listener' } : EventStream τ).follow hears' calls
          other.history = s.history ∧ other.tracker = s.tracker)
        ∧ ∀ message later, ∃ e rest,
          (s.follow hears (.complete message :: later)).history = s.history ++ e :: rest
            ∧ ∀ e' ∈ e :: rest, e'.progress = 100)
    ∧ ∀ {H : Interface} {s : Services H} {base : Program H} {M : Machine (Office H)}
      [DecidableEq H.Gate] [DecidableEq H.Job] (sys : System (deskProgram s base) M) (c : TaskId)
      (input : ExportInput) (timeline : Timeline) (schedule : List (Choice (deskProgram s base)))
      (v : Video), sys.Reached →
      sys.tasks[c]? = some { origin := requesting s base input } → sys.store.2.active = none →
      Request.accepted s.freshId input = .ok timeline →
      (∀ y, ¬ ((sys.resume c).follow schedule).Ended c (requesting s base input) y) →
      (((sys.resume c).follow schedule).resume c).Ended c (requesting s base input) (.returned v) →
      let events := told ((sys.resume c).history sys.tasks.length schedule)
      Advancing events ∧ ∃ e, events.getLast? = some e ∧ e.progress = 100 := by
  refine ⟨?_, ?_⟩
  · intro σ hears listener calls s
    have stream : s = _ := EventStream.follow_eq _ calls
    have history : s.history = ({} : Tracker).events calls := by
      rw [stream]
      exact List.nil_append _
    refine ⟨by rw [history]; exact Tracker.advancing_events calls, fun backend => ⟨rfl, rfl⟩,
      fun call speaks => ?_, fun {τ} hears' listener' => ?_, fun message later => ?_⟩
    · cases call with
      | bind backend => exact absurd rfl (speaks backend)
      | report u =>
          refine ⟨s.tracker.report u, rfl, rfl, fun hear hears => ?_⟩
          rw [hears]
          exact EventStream.tell_some hear _ _
      | complete message =>
          refine ⟨s.tracker.complete message, rfl, rfl, fun hear hears => ?_⟩
          rw [hears]
          exact EventStream.tell_some hear _ _
    · rw [stream, EventStream.follow_eq]
      exact ⟨rfl, rfl⟩
    · refine ⟨s.tracker.complete message, _, congrArg EventStream.history
        (EventStream.follow_eq s (.complete message :: later)), fun e among => ?_⟩
      rcases List.mem_cons.mp among with rfl | among
      · rfl
      · exact Tracker.events_completed (s.tracker.last_complete message) later e among
  · intro H s base M _ _ sys c input timeline schedule v reached asks idle ok lasts ended events
    obtain ⟨first, message, same⟩ := System.told_of_success reached asks idle ok lasts ended
    rw [show events = _ from same]
    exact ⟨Tracker.advancing_events _, Tracker.getLast?_events _ first message⟩

/-- A listener that notes every event and fails each time. -/
def failing : Listener (List ProgressEvent) := fun e heard => (.error .infiniteNumber, heard ++ [e])

/-- Calls that go back, beyond the end, and to nowhere. -/
def unruly : List TrackerCall :=
  [.report ⟨.finalizing, .nan, ""⟩, .bind .localEngine, .complete "", .report ⟨.classifying, 0, ""⟩]

/-- A listener that fails each time hears of every event; and an export that goes its way is told to
its end. -/
theorem progress_merged_sample :
    (∃ e, let s := ({ listener := [] } : EventStream _).follow (some failing) unruly
      let next := s.apply (some failing) (.complete "")
      Advancing s.history ∧ next.history = s.history ++ [e] ∧ next.tracker.last = e.progress
        ∧ next.listener = (failing e s.listener).2)
    ∧ ∃ v, let sys := System.askedUnheard (.timeline .sample)
      let next := (sys.resume 0).follow [.turn 1]
      sys.Reached ∧ Request.accepted "" (.timeline .sample) = .ok .sample
        ∧ (∀ y, ¬ next.Ended 0 (requesting .sample .alone (.timeline .sample)) y)
        ∧ (next.resume 0).Ended 0 (requesting .sample .alone (.timeline .sample)) (.returned v)
        ∧ Advancing (told ((sys.resume 0).history 1 [.turn 1]))
        ∧ ∃ e, (told ((sys.resume 0).history 1 [.turn 1])).getLast? = some e ∧ e.progress = 100 := by
  refine ⟨?_, ⟨ByteArray.mk #[3], .localEngine, 2⟩, ?_⟩
  · obtain ⟨advancing, -, once, -, -⟩ := progress_merged.1 (some failing) [] unruly
    obtain ⟨e, history, last, hears⟩ := once (.complete "") nofun
    exact ⟨e, advancing, history, last, hears failing rfl⟩
  · intro sys next
    have reached : sys.Reached := ⟨[], (), _, rfl⟩
    have idle : sys.store.2.active = none := rfl
    have ok : Request.accepted "" (.timeline .sample) = .ok .sample := by decide +kernel
    have asks : sys.tasks[0]? = some { origin := requesting .sample .alone (.timeline .sample) } :=
      rfl
    have length : sys.tasks.length = 1 := rfl
    have waits : next.answer? 0 = none := by decide +kernel
    have answer : (sys.follow [.turn 0, .turn 1, .turn 0]).answer? 0
        = some (.returned ⟨ByteArray.mk #[3], .localEngine, 2⟩) := by
      decide +kernel
    -- from here on the desk is any desk of which this is known
    clear_value sys
    have lasts : ∀ y, ¬ next.Ended 0 (requesting .sample .alone (.timeline .sample)) y := by
      rintro y ⟨p, n, found⟩
      rw [System.answer?, found] at waits
      cases waits
    have ended := System.ended_of_answer? asks answer
    have told := progress_merged.2 sys 0 _ _ [.turn 1] _ reached asks idle ok lasts ended
    rw [length] at told
    exact ⟨reached, ok, lasts, ended, told⟩

end Montage
