import Mathlib.Data.Nat.Find
import Mathlib.Data.Nat.Init
import Montage.Proofs.Routine.Evolution

/-!
# Fair schedules

A routine is a finite way down a tree, so a task that gets its turns and its replies comes to an
end, whatever the others do meanwhile.

* `System.after` — the state after so many steps of a schedule without end.
* `System.Fair`, `System.Served` — who could take a turn takes one; who waits does not wait forever.
* **`System.ends_of_fair`** — a task that is treated fairly and served ends.
-/

namespace Montage

variable {E : Interface}

/-! ## Parts of routines -/

namespace Routine

variable {α : Type}

/-- What is left of a routine when something was heard. -/
def Below (r' r : Routine E α) : Prop := ∃ e h, r.Leads (e :: h) r'

lemma below_of_leads {r r' r'' : Routine E α} {e : Event E} {h h' : History E}
    (first : r.Leads h r') (rest : r'.Leads (e :: h') r'') : Below r'' r := by
  have leads := first.trans rest
  cases h with
  | nil => exact ⟨e, h', leads⟩
  | cons e' h => exact ⟨e', h ++ e :: h', leads⟩

/-- There is no way down a routine without end. -/
lemma wellFounded_below : WellFounded (@Below E α) := by
  refine ⟨fun r => ?_⟩
  have step : ∀ {r r' : Routine E α}, Acc Below r → (∃ h, r.Leads h r') → Acc Below r' := by
    rintro r r' accessible ⟨h, leads⟩
    cases h with
    | nil =>
        cases leads
        exact accessible
    | cons e h => exact accessible.inv ⟨e, h, leads⟩
  induction r with
  | done x =>
      constructor
      rintro r' ⟨e, h, leads⟩
      cases leads
  | ask q k ih =>
      constructor
      rintro r' ⟨e, h, leads⟩
      cases leads with
      | ask rest => exact step (ih _) ⟨h, rest⟩
  | await s k ih =>
      constructor
      rintro r' ⟨e, h, leads⟩
      cases leads with
      | await rest => exact step (ih _) ⟨h, rest⟩

end Routine

/-! ## Tasks that get what they need -/

section Fibers

variable {α : Type}

/-- Who could take a turn. -/
def Fiber.isAwake : Fiber E α → Bool
  | .fresh | .ready .. => true
  | _ => false

/-- Who waits for a reply. -/
def Fiber.isWaiting : Fiber E α → Bool
  | .waiting .. => true
  | _ => false

/-- Who has taken a turn. -/
def Fiber.isBegun : Fiber E α → Bool
  | .fresh | .running => false
  | _ => true

lemma Comes.isBegun {r : Routine E α} {c : Nat} {h : History E} {f : Fiber E α}
    (comes : Comes r c h f) : f.isBegun = true := by
  cases comes <;> rfl

/-- Unless it ends a routine, a history leads to what is left. -/
lemma Comes.rest {r r' : Routine E α} {c : Nat} {h : History E} {f : Fiber E α}
    (comes : Comes r c h f) : (∃ x, f = .ended x) ∨ r.Leads h (f.rest r') := by
  cases comes with
  | waiting leads => exact .inr leads
  | ready leads => exact .inr leads
  | ended plays => exact .inl ⟨_, rfl⟩
  | lost plays asked => exact .inl ⟨_, rfl⟩

end Fibers

namespace System

variable {P : Program E} {M : Machine E}

variable [DecidableEq E.Gate] [DecidableEq E.Job]

/-- The state after so many steps of a schedule without end. -/
def after (sys : System P M) (schedule : Nat → Choice P) (n : Nat) : System P M :=
  sys.follow ((List.range n).map schedule)

/-- The replies that a task has got by then. -/
def heardUntil (sys : System P M) (schedule : Nat → Choice P) (i : TaskId) (n : Nat) : History E :=
  sys.history i ((List.range n).map schedule)

/-- A task that could take a turn takes one, then or later. -/
def Fair (sys : System P M) (schedule : Nat → Choice P) (i : TaskId) : Prop :=
  ∀ n task, (sys.after schedule n).tasks[i]? = some task → task.fiber.isAwake = true →
    ∃ m, n ≤ m ∧ schedule m = .turn i

/-- A task that waits does not wait forever: whatever it waits for, at some time it waits no
more. -/
def Served (sys : System P M) (schedule : Nat → Choice P) (i : TaskId) : Prop :=
  ∀ n task, (sys.after schedule n).tasks[i]? = some task → task.fiber.isWaiting = true →
    ∃ m task', n ≤ m ∧ (sys.after schedule m).tasks[i]? = some task'
      ∧ task'.fiber.isWaiting = false

/-- A task is never asked to stop. -/
def Unasked (sys : System P M) (schedule : Nat → Choice P) (i : TaskId) : Prop :=
  ∀ n task, (sys.after schedule n).tasks[i]? = some task → task.cancels = 0

variable {sys : System P M} {schedule : Nat → Choice P} {i : TaskId} {o : Origin P}
  {f : Fiber E o.Out} {p : Bool} {c : Nat}

lemma after_succ (n : Nat) :
    sys.after schedule (n + 1) = (sys.after schedule n).apply (schedule n) := by
  simp [after, follow, List.range_succ, List.foldl_append]

lemma heardUntil_succ (n : Nat) :
    sys.heardUntil schedule i (n + 1)
      = sys.heardUntil schedule i n ++ (sys.after schedule n).hears i (schedule n) := by
  rw [heardUntil, List.range_succ, List.map_append, history_append]
  exact congrArg _ (List.append_nil _)

/-- From one time to a later one every task comes to where its history leads. -/
lemma evolved_after (sys : System P M) (schedule : Nat → Choice P) (i : TaskId) {n m : Nat}
    (later : n ≤ m) :
    ∃ h, sys.heardUntil schedule i m = sys.heardUntil schedule i n ++ h
      ∧ Evolved i h (sys.after schedule n).tasks (sys.after schedule m).tasks := by
  induction m, later using Nat.le_induction with
  | base => exact ⟨[], (List.append_nil _).symm, .refl i _⟩
  | succ m later ih =>
      obtain ⟨h, hears, evolved⟩ := ih
      rw [after_succ, heardUntil_succ, hears, List.append_assoc]
      exact ⟨_, rfl, evolved.trans (evolved_apply _ i (schedule m))⟩

/-- Until it takes a turn a task is nudged at most. -/
lemma nudged_after {n m : Nat} (later : n ≤ m)
    (others : ∀ k, n ≤ k → k < m → schedule k ≠ .turn i) {task : Task P}
    (found : (sys.after schedule n).tasks[i]? = some task) :
    ∃ task', (sys.after schedule m).tasks[i]? = some task' ∧ task.Nudged task' := by
  induction m, later using Nat.le_induction with
  | base => exact ⟨task, found, .refl task⟩
  | succ m later ih =>
      obtain ⟨task', found', nudged⟩ := ih fun k from' below => others k from' (by omega)
      obtain ⟨task'', found'', nudged'⟩ :=
        nudged_apply _ (others m later (Nat.lt_succ_self m)) found'
      rw [after_succ]
      exact ⟨task'', found'', nudged.trans nudged'⟩

lemma after_turn {n : Nat} (turn : schedule n = .turn i) :
    sys.after schedule (n + 1) = (sys.after schedule n).resume i := by
  rw [after_succ, turn]
  rfl

/-- Nothing happens any more when only tasks that have ended take turns. -/
lemma after_settled {n : Nat}
    (settled : ∀ m, n ≤ m → ∃ t, schedule m = .turn t
      ∧ ((sys.after schedule n).tasks[t]?).any Task.hasEnded = true) {m : Nat} (later : n ≤ m) :
    sys.after schedule m = sys.after schedule n := by
  induction m, later using Nat.le_induction with
  | base => rfl
  | succ m later ih =>
      obtain ⟨t, turn, ended⟩ := settled m later
      rw [after_turn turn, ih, resume_hasEnded ended]

/-- Who could take a turn takes one from where it was left. -/
lemma Fair.turn (fair : sys.Fair schedule i) {n : Nat}
    (found : (sys.after schedule n).tasks[i]? = some ⟨o, f, p, c⟩)
    (sound : Task.Sound (sys.after schedule n).tasks ⟨o, f, p, c⟩) (awake : f.isAwake = true) :
    ∃ m p c, n ≤ m ∧ schedule m = .turn i
      ∧ (sys.after schedule m).tasks[i]? = some ⟨o, f, p, c⟩
      ∧ Task.Sound (sys.after schedule m).tasks ⟨o, f, p, c⟩ := by
  classical
  have turns := fair n _ found awake
  have least : ∀ k, n ≤ k → k < Nat.find turns → schedule k ≠ .turn i :=
    fun k since below turn => Nat.find_min turns below ⟨since, turn⟩
  obtain ⟨later, turn⟩ := Nat.find_spec turns
  obtain ⟨task, found', nudged⟩ := nudged_after later least found
  obtain ⟨h, -, evolved⟩ := evolved_after sys schedule i later
  obtain ⟨f', p', c', present, -, -, sound', -⟩ := evolved.own found sound
  cases found'.symm.trans present
  cases nudged with
  | flags more => exact ⟨_, p', c', later, turn, present, sound'⟩
  | woken more => cases awake

/-- Who takes its first turn has begun. -/
lemma begun_resume {t : TaskId} {sys : System P M} (found : sys.tasks[t]? = some ⟨o, .fresh, p, c⟩)
    (sound : Task.Sound sys.tasks ⟨o, .fresh, p, c⟩) :
    ∃ f' p' c', (sys.resume t).tasks[t]? = some ⟨o, f', p', c'⟩ ∧ f'.isBegun = true := by
  cases p with
  | true =>
      obtain ⟨f', p', c', own, -, comes, -⟩ :=
        (turned_finish (running_begun found true) .cancelled).own sound.counted
      simp only [resume, found]
      exact ⟨f', p', c', own, comes.isBegun⟩
  | false =>
      obtain ⟨f', p', c', own, -, comes, -⟩ :=
        (turned_perform o.routine (running_begun found false)).own sound.counted
      simp only [resume, found]
      exact ⟨f', p', c', own, comes.isBegun⟩

/-- A task ends then or later, however long that may take. -/
def EndsFrom (sys : System P M) (schedule : Nat → Choice P) (i : TaskId) (o : Origin P) (n : Nat) :
    Prop :=
  ∃ m x, n ≤ m ∧ (sys.after schedule m).Ended i o x

lemma EndsFrom.of_later {n m : Nat} (ends : sys.EndsFrom schedule i o m) (later : n ≤ m) :
    sys.EndsFrom schedule i o n := by
  obtain ⟨m', x, later', ended⟩ := ends
  exact ⟨m', x, Nat.le_trans later later', ended⟩

/-- A task that has begun comes to its end, since every turn leads it further down its routine. -/
lemma ends_of_begun (fair : sys.Fair schedule i) (served : sys.Served schedule i) {n : Nat}
    (found : (sys.after schedule n).tasks[i]? = some ⟨o, f, p, c⟩)
    (sound : Task.Sound (sys.after schedule n).tasks ⟨o, f, p, c⟩) (begun : f.isBegun = true) :
    sys.EndsFrom schedule i o n := by
  -- by induction on what is left of the routine
  obtain ⟨r, left⟩ : ∃ r, r = f.rest o.routine := ⟨_, rfl⟩
  have leads : ∃ h, r.Leads h (f.rest o.routine) := ⟨[], left ▸ .refl _⟩
  clear left
  induction r using Routine.wellFounded_below.induction generalizing n f p c with
  | _ r ih =>
  -- a reply is heard in the next turn, and less is left after that
  have fromReady : ∀ {n : Nat} {s : Suspension E} {x : Exit s.Answer}
      {k : Exit s.Answer → Routine E o.Out} {p : Bool} {c : Nat},
      (sys.after schedule n).tasks[i]? = some ⟨o, .ready s x k, p, c⟩ →
      Task.Sound (sys.after schedule n).tasks ⟨o, .ready s x k, p, c⟩ →
      (∃ h, r.Leads h (.await s k)) → sys.EndsFrom schedule i o n := by
    rintro n s x k p c found sound ⟨h, leads⟩
    obtain ⟨m, p, c, later, turn, present, sound'⟩ := fair.turn found sound rfl
    obtain ⟨f, p', c', next, -, evolves, sound'', -⟩ :=
      ((sys.after schedule m).turn_resume i).own.own present sound'
    obtain ⟨e, h', heard⟩ := heardIn_ready present
    rw [heard] at evolves
    rw [← after_turn turn] at next sound''
    cases evolves with
    | comes comes =>
        refine EndsFrom.of_later ?_ (Nat.le_succ_of_le later)
        rcases comes.rest with ⟨x, rfl⟩ | further
        · exact ⟨m + 1, x, Nat.le_refl _, p', c', next⟩
        · exact ih _ (Routine.below_of_leads leads further) next sound'' comes.isBegun
            ⟨[], .refl _⟩
  cases f with
  | fresh => cases begun
  | running => cases begun
  | ended x => exact ⟨n, x, Nat.le_refl n, p, c, found⟩
  | ready s x k => exact fromReady found sound leads
  | waiting s k =>
      obtain ⟨m, task, later, present, waits⟩ := served n _ found rfl
      obtain ⟨h', -, evolved⟩ := evolved_after sys schedule i later
      obtain ⟨f', p', c', present', -, evolves, sound', -⟩ := evolved.own found sound
      cases present.symm.trans present'
      refine EndsFrom.of_later ?_ later
      cases evolves with
      | still => cases waits
      | comes comes =>
          cases comes with
          | waiting => cases waits
          | ended => exact ⟨m, _, Nat.le_refl m, p', c', present⟩
          | lost => exact ⟨m, _, Nat.le_refl m, p', c', present⟩
          | ready further =>
              obtain ⟨h, leads⟩ := leads
              exact fromReady present' sound' ⟨_, leads.trans further⟩

/-- **A task that is treated fairly and served ends.** -/
theorem ends_of_fair (fair : sys.Fair schedule i) (served : sys.Served schedule i) {n : Nat}
    (found : (sys.after schedule n).tasks[i]? = some ⟨o, f, p, c⟩)
    (sound : Task.Sound (sys.after schedule n).tasks ⟨o, f, p, c⟩) (still : f ≠ .running) :
    sys.EndsFrom schedule i o n := by
  cases f with
  | running => exact absurd rfl still
  | waiting s k => exact ends_of_begun fair served found sound rfl
  | ready s x k => exact ends_of_begun fair served found sound rfl
  | ended x => exact ends_of_begun fair served found sound rfl
  | fresh =>
      obtain ⟨m, p, c, later, turn, present, sound'⟩ := fair.turn found sound rfl
      obtain ⟨f, p', c', next, begun⟩ := begun_resume present sound'
      obtain ⟨_, _, _, next', -, -, sound'', -⟩ :=
        ((sys.after schedule m).turn_resume i).own.own present sound'
      cases next.symm.trans next'
      rw [← after_turn turn] at next sound''
      exact (ends_of_begun fair served next sound'' begun).of_later (Nat.le_succ_of_le later)

end System

end Montage
