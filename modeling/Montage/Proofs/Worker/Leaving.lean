import Mathlib.Tactic.Common
import Montage.Proofs.Worker.Limit

/-!
# How a request leaves

Whatever becomes of a request, in the end it closes its files and removes its directory.  A request
to stop that comes earlier has been noticed by then, and one that comes later may interrupt just
that.

* `Routine.gatherFrom_handle` — notes are collected from a routine and then from what follows it.
* `Worker.closing`, `Worker.Unstopped` — the end of a request, and a history in which it is left
  alone there.
* **`Worker.removes_of_plays`** — **a request that has a directory and is left alone at the end
  removes it**, whatever comes before.
-/

namespace Montage

namespace Routine

variable {E : Interface} {N α β : Type} {h : History E} {notes : List N}

/-- Notes are collected from a routine and then from what follows it. -/
lemma gatherFrom_handle (r : Routine (E.noting N) α) (k : Exit α → Routine (E.noting N) β) :
    (r.handle k).gatherFrom notes
      = (r.gatherFrom notes).bind fun p => (k p.2).gatherFrom p.1.reverse := by
  induction r generalizing notes with
  | done x =>
      change (k x).gatherFrom notes = (k x).gatherFrom notes.reverse.reverse
      rw [List.reverse_reverse]
  | ask q g ih =>
      cases q with
      | act a =>
          cases a with
          | inl n => exact ih ()
          | inr a => exact congrArg (Routine.ask (.act a)) (funext fun v => ih v)
      | _ => exact congrArg (Routine.ask _) (funext fun v => ih v)
  | await s g ih => cases s with | _ => exact congrArg (Routine.await _) (funext fun x => ih x)

/-- Whoever collects notes ends with them. -/
lemma returned_of_plays_gatherFrom {r : Routine (E.noting N) α} {x : Exit (List N × Exit α)}
    (plays : (r.gatherFrom notes).Plays h x) : ∃ p, x = .returned p := by
  induction r generalizing h notes with
  | done y => exact ⟨_, (plays_done.mp plays).2⟩
  | ask q g ih =>
      cases q with
      | act a =>
          cases a with
          | inl n => exact ih () plays
          | inr a =>
              obtain ⟨v, _, -, later⟩ := plays_ask.mp plays
              exact ih v later
      | _ =>
          obtain ⟨v, _, -, later⟩ := plays_ask.mp plays
          exact ih v later
  | await s g ih =>
      cases s with
      | _ =>
          obtain ⟨v, _, -, later⟩ := plays_await.mp plays
          exact ih v later

/-- So a history of both parts leads to the second one. -/
lemma plays_gatherFrom_handle {r : Routine (E.noting N) α} {k : Exit α → Routine (E.noting N) β}
    {y : Exit (List N × Exit β)} (plays : ((r.handle k).gatherFrom notes).Plays h y) :
    ∃ first x later rest, h = first ++ rest
      ∧ ((r.handle k).gatherFrom notes).Leads first ((k x).gatherFrom later)
      ∧ ((k x).gatherFrom later).Plays rest y := by
  rw [gatherFrom_handle] at plays ⊢
  obtain ⟨first, z, rest, rfl, own, further⟩ := plays_handle.mp plays
  obtain ⟨p, rfl⟩ := returned_of_plays_gatherFrom own
  exact ⟨first, p.2, p.1.reverse, rest, rfl, own.handle _, further⟩

end Routine

open Routine

/-! ## Waits that get a reply -/

/-- Nobody is stopped, and no wait fails. -/
structure History.Calm (h : History Studio) : Prop where
  unstopped : ∀ q, .awaited q .cancelled ∉ h
  sound : ∀ q e, .awaited (.wait q) (.failed e) ∉ h

lemma History.Calm.left {first rest : History Studio} (calm : History.Calm (first ++ rest)) :
    History.Calm first :=
  ⟨fun q among => calm.unstopped q (List.mem_append_left rest among),
    fun q e among => calm.sound q e (List.mem_append_left rest among)⟩

lemma History.Calm.right {first rest : History Studio} (calm : History.Calm (first ++ rest)) :
    History.Calm rest :=
  ⟨fun q among => calm.unstopped q (List.mem_append_right first among),
    fun q e among => calm.sound q e (List.mem_append_right first among)⟩

namespace Studio

variable {α : Type} {h : History Studio} {path : Path}

lemma plays_wait {q : StudioWait} {x : Exit q.Ans} (plays : (wait q).Plays h x) :
    h = [.awaited (.wait q) x] := by
  obtain ⟨_, _, rfl, ends⟩ := plays_await.mp plays
  obtain ⟨rfl, rfl⟩ := plays_done.mp ends
  rfl

lemma plays_wait_calm {q : StudioWait} {x : Exit q.Ans} (plays : (wait q).Plays h x)
    (calm : History.Calm h) : ∃ v, x = .returned v := by
  obtain rfl := plays_wait plays
  cases x with
  | returned v => exact ⟨v, rfl⟩
  | failed e => exact absurd List.mem_cons_self (calm.sound q e)
  | cancelled => exact absurd List.mem_cons_self (calm.unstopped (.wait q))

lemma plays_pauses_calm {items : List α} {x : Exit Unit}
    (plays : (forEach items fun _ => pause).Plays h x) (calm : History.Calm h) :
    x = .returned () := by
  induction items generalizing h with
  | nil => exact (plays_done.mp plays).2
  | cons a rest ih =>
      rcases plays_bind.mp plays with ⟨_, first, later, rfl, -, further⟩ | ⟨e, own, -⟩ | ⟨own, -⟩
      · exact ih further calm.right
      · obtain ⟨_, same⟩ := plays_wait_calm own calm
        cases same
      · obtain ⟨_, same⟩ := plays_wait_calm own calm
        cases same

/-- Whoever wants a directory removed and is not stopped hears what comes of it. -/
lemma heard_of_removeTree {x : Exit Unit} (handed : pathFault? path = none)
    (plays : (removeTree path).Plays h x) (calm : History.Calm h) :
    ∃ v, .awaited (.wait (.removeTree path)) (.returned v) ∈ h := by
  have routine : removeTree path
      = pause.bind fun _ => (wait (.removeTree path)).bind fun v => orFault v := by
    unfold removeTree inTime
    rw [handed]
    rfl
  have stopped : ∀ {α : Type} {q : StudioWait} {h : History Studio} {f : q.Ans → StudioRoutine α}
      {y}, ((wait q).bind f).Plays h y → History.Calm h → ∃ v first rest, h = first ++ rest
        ∧ first = [.awaited (.wait q) (.returned v)] ∧ (f v).Plays rest y := by
    intro α q h f y plays calm
    rcases plays_bind.mp plays with ⟨v, first, rest, rfl, own, further⟩ | ⟨e, own, -⟩ | ⟨own, -⟩
    · exact ⟨v, first, rest, rfl, plays_wait own, further⟩
    · obtain ⟨_, same⟩ := plays_wait_calm own calm
      cases same
    · obtain ⟨_, same⟩ := plays_wait_calm own calm
      cases same
  rw [routine] at plays
  obtain ⟨_, first, rest, rfl, -, later⟩ := stopped plays calm
  obtain ⟨v, _, last, rfl, rfl, -⟩ := stopped later calm.right
  exact ⟨v, List.mem_append_right first List.mem_cons_self⟩

/-- What may become of something that is done at once. -/
lemma plays_atOnce_cases {a : StudioAct} {same : a.Val = Except OsError α} {x : Exit α}
    (plays : (atOnce path a same).Plays h x) :
    (h = [] ∧ ∀ v, x ≠ .returned v)
      ∨ ∃ reply : a.Val, h = [.asked (.act a) reply]
        ∧ ∀ v, x = .returned v ↔ same ▸ reply = .ok v := by
  unfold atOnce at plays
  cases fault : pathFault? path with
  | some f =>
      rw [fault] at plays
      obtain ⟨rfl, rfl⟩ := plays_done.mp plays
      exact .inl ⟨rfl, nofun⟩
  | none =>
      rw [fault] at plays
      obtain ⟨reply, rest, rfl, ends⟩ := plays_ask.mp plays
      obtain ⟨rfl, rfl⟩ := plays_done.mp ends
      refine .inr ⟨reply, rfl, fun v => ?_⟩
      generalize (same ▸ reply : Except OsError α) = outcome
      cases outcome with
      | error e => exact iff_of_false nofun nofun
      | ok w => exact ⟨fun same => by cases same; rfl, fun same => by cases same; rfl⟩

end Studio

/-! ## The end of a request -/

namespace Worker

variable {settings : Settings} {fresh : String} {directory : Path} {f : Form}
  {h : History Studio}

/-- What is left to do once a request is answered: its files are closed and its directory is
removed. -/
def closing (directory : Path) (f : Form) (notes : List Binary64) (x : Exit WorkerReply) :
    StudioRoutine (List Binary64 × Exit WorkerReply) :=
  ((lift (clear directory f)).bind fun _ => .done x).gatherFrom notes

/-- A history in which a request is not asked to stop once it is closing. -/
def Unstopped (settings : Settings) (fresh : String) (f : Form) (h : History Studio) : Prop :=
  ∀ before after directory notes x, h = before ++ after →
    (answerForm settings fresh f).gather.Leads before (closing directory f notes x) →
    ∀ q, .awaited q .cancelled ∉ after

/-- Whoever closes and is left alone hears what comes of the removal. -/
lemma heard_of_closing {notes : List Binary64} {x : Exit WorkerReply}
    {y : Exit (List Binary64 × Exit WorkerReply)} (handed : Studio.pathFault? directory = none)
    (plays : (closing directory f notes x).Plays h y) (calm : History.Calm h) :
    ∃ v, .awaited (.wait (.removeTree directory)) (.returned v) ∈ h := by
  have parts : closing directory f notes x = (clear directory f).handle fun z =>
      (stopWith z fun _ => .done x).gatherFrom notes := gatherFrom_handle_lift notes _ _
  rw [parts] at plays
  obtain ⟨first, z, rest, rfl, clears, -⟩ := plays_handle.mp plays
  have pauses : ∀ {h x}, (forEach f.uploads fun _ => Studio.pause).Plays h x → History.Calm h →
      x = .returned () := Studio.plays_pauses_calm
  rcases plays_bind.mp clears with ⟨_, pause, later, rfl, -, further⟩ | ⟨e, own, -⟩ | ⟨own, -⟩
  · obtain ⟨removal, _, last, rfl, removes, -⟩ := plays_handle.mp further
    obtain ⟨v, heard⟩ := Studio.heard_of_removeTree handed removes calm.left.right.left
    exact ⟨v, List.mem_append_left _ (List.mem_append_right _ (List.mem_append_left _ heard))⟩
  · cases pauses own calm.left
  · cases pauses own calm.left

/-- **A request that has a directory and is left alone at the end removes it**, whatever comes
before: answers of any kind, faults, and requests to stop. -/
lemma removes_of_plays {y : Exit (List Binary64 × Exit WorkerReply)}
    (plays : (answerForm settings fresh f).gather.Plays h y)
    (unstopped : Unstopped settings fresh f h)
    (sound : ∀ q e, .awaited (.wait q) (.failed e) ∉ h) :
    (∀ parent beginning directory,
      .asked (.act (.makeTemporary parent beginning)) (Except.ok directory) ∉ h)
    ∨ ∃ parent beginning directory,
      .asked (.act (.makeTemporary parent beginning)) (Except.ok directory) ∈ h
      ∧ (Studio.pathFault? directory = none →
        ∃ v, .awaited (.wait (.removeTree directory)) (.returned v) ∈ h) := by
  let opens (directory : Path) : NotingRoutine Binary64 WorkerReply :=
    concluding directory f (work settings fresh directory f)
  let site : Path := .ofText settings.workerRoot
  change (lift (Studio.makeDirectories site) >>= fun _ =>
    lift (Studio.makeTemporary site directoryBeginning) >>= opens).gather.Plays h y at plays
  rw [gather_bind_lift] at plays
  obtain ⟨first, x, after, rfl, makes, later⟩ := plays_handle.mp plays
  have apart : ∀ parent beginning directory,
      .asked (.act (.makeTemporary parent beginning)) (Except.ok directory) ∉ first := by
    intro parent beginning directory
    rcases Studio.plays_atOnce_cases makes with ⟨rfl, -⟩ | ⟨reply, rfl, -⟩
    · nofun
    · exact fun among => nomatch List.mem_singleton.mp among
  cases x with
  | failed e =>
      obtain ⟨rfl, -⟩ := plays_done.mp later
      exact .inl (by simpa using apart)
  | cancelled =>
      obtain ⟨rfl, -⟩ := plays_done.mp later
      exact .inl (by simpa using apart)
  | returned u =>
      rw [stopWith, gather_bind_lift] at later
      obtain ⟨asks, z, last, rfl, temporary, ends⟩ := plays_handle.mp later
      have refused : (∀ directory, z ≠ .returned directory) → ∀ parent beginning directory,
          .asked (.act (.makeTemporary parent beginning)) (Except.ok directory)
            ∉ first ++ (asks ++ []) := by
        intro none parent beginning directory among
        rw [List.append_nil] at among
        rcases List.mem_append.mp among with among | among
        · exact apart _ _ _ among
        · rcases Studio.plays_atOnce_cases temporary with ⟨rfl, -⟩ | ⟨reply, rfl, exact⟩
          · cases among
          · cases List.mem_singleton.mp among
            exact none directory ((exact directory).mpr rfl)
      cases z with
      | failed e =>
          obtain ⟨rfl, -⟩ := plays_done.mp ends
          exact .inl (refused nofun)
      | cancelled =>
          obtain ⟨rfl, -⟩ := plays_done.mp ends
          exact .inl (refused nofun)
      | returned directory =>
          refine .inr ⟨site, directoryBeginning, directory, ?_, fun handed => ?_⟩
          · refine List.mem_append_right _ (List.mem_append_left _ ?_)
            rcases Studio.plays_atOnce_cases temporary with ⟨-, none⟩ | ⟨reply, rfl, exact⟩
            · exact absurd rfl (none directory)
            · obtain rfl : reply = Except.ok directory := (exact directory).mp rfl
              exact List.mem_cons_self
          · obtain ⟨begins, x, notes, ending, rfl, works, closes⟩ := plays_gatherFrom_handle ends
            have leads : (answerForm settings fresh f).gather.Leads (first ++ (asks ++ begins))
                (closing directory f notes x) :=
              leads_gather_bind makes (leads_gather_bind temporary works)
            have calm : History.Calm ending :=
              ⟨unstopped (first ++ (asks ++ begins)) ending directory notes x (by simp) leads,
                fun q e among => sound q e (List.mem_append_right _
                  (List.mem_append_right _ (List.mem_append_right _ among)))⟩
            obtain ⟨v, heard⟩ := heard_of_closing handed closes calm
            exact ⟨v, List.mem_append_right _
              (List.mem_append_right _ (List.mem_append_right _ heard))⟩

end Worker

end Montage
