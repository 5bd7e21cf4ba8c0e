import Montage.Proofs.Export.Request
import Montage.Proofs.Graph.Plan
import Montage.Proofs.Routine.Fairness

/-!
# Exports one step after the other

Whatever else goes on, a request that nobody asks to stop goes as if it were alone: it is refused
for its timeline, or its run takes its stages in order and the caller is told how it ended.

* `unanswered_of_waiting` — a request waits for its run and for nothing else.
* **`export_sequential`** — every fair schedule takes a request at an idle desk to the end that its
  stages have.
-/

namespace Montage

variable {H : Interface} {s : Services H} {base : Program H} {M : Machine (Office H)}

namespace System

variable [DecidableEq H.Gate] [DecidableEq H.Job] {sys : System (deskProgram s base) M}
  {schedule : Nat → Choice (deskProgram s base)} {c r : TaskId} {input : ExportInput} {t : Timeline}

/-- A request that still waits for its run has not missed its end. -/
lemma unanswered_of_waiting {n m : Nat}
    (waits : (sys.after schedule n).tasks[c]? = some
      ⟨requesting s base input, .waiting (.join (.inl t) r) Request.onExit, false, 0⟩)
    (fresh : exitOf (sys.after schedule n).tasks r (.inl t) = none) (later : n ≤ m)
    {task : Task (deskProgram s base)} (found : (sys.after schedule m).tasks[c]? = some task)
    (waiting : task.fiber.isWaiting = true) :
    exitOf (sys.after schedule m).tasks r (.inl t) = none := by
  obtain ⟨h, -, evolved⟩ := evolved_after sys schedule c later
  obtain ⟨f, p, k, found', -, evolves, sound, -⟩ := evolved.own waits (.calm fresh)
  cases found.symm.trans found'
  cases evolves with
  | still => exact sound.fiber
  | comes comes =>
      cases comes with
      | ready => cases waiting
      | ended => cases waiting
      | lost => cases waiting
      | waiting leads =>
          cases leads with
          | refl => exact sound.fiber
          | await rest => exact absurd rest (Request.prompt_onExit _).never_waits

/-- When the run of a request ends, the request does not wait forever. -/
lemma served_of_ends {o : Origin (deskProgram s base)} (asks : sys.tasks[c]? = some { origin := o })
    (waits : (sys.after schedule 1).tasks[c]? = some
      ⟨requesting s base input, .waiting (.join (.inl t) r) Request.onExit, false, 0⟩)
    (unended : exitOf (sys.after schedule 1).tasks r (.inl t) = none)
    (ends : sys.EndsFrom schedule r (running s base t) 1) : sys.Served schedule c := by
  intro n task found waiting
  obtain ⟨m, x, later, ended⟩ := ends
  cases n with
  | zero =>
      cases asks.symm.trans found
      cases waiting
  | succ n =>
      -- at a time after both, the request has been told
      have after : 1 ≤ max (n + 1) m := Nat.le_trans later (Nat.le_max_right _ _)
      obtain ⟨_, -, evolved⟩ := evolved_after sys schedule c after
      obtain ⟨f, p, k, present, -⟩ := evolved.own waits (.calm unended)
      refine ⟨_, _, Nat.le_max_left _ _, present, ?_⟩
      by_contra still
      have unanswered := unanswered_of_waiting waits unended after present (by simpa using still)
      obtain ⟨_, -, evolved⟩ := evolved_after sys schedule r (Nat.le_max_right (n + 1) m)
      cases unanswered.symm.trans (evolved.ends _ _ _ ended.exitOf)

/-- **A request at an idle desk that nobody asks to stop goes one step after the other.**

* A timeline that is not valid is refused in the first turn: its caller hears the problem, no run is
  started, and the desk and the surroundings are as they were.
* Any other timeline gets a run that comes to an end, and its caller hears that end.  The run has
  gone as `Ran` says: the files are read first; where they are read, the local engine is the backend
  exactly when their sizes add up to no more than `s.threshold`, and the worker otherwise; the
  timeline is compiled once; that one backend, and no other, executes the graph and cleans up
  afterwards; and the end is recorded once, as what it is.

That nobody asks the two tasks to stop is `unasked`, and that they get their turns is `fair` and
`served`; what the stages do is left open. -/
theorem export_sequential (sys : System (deskProgram s base) M)
    (schedule : Nat → Choice (deskProgram s base)) (c : TaskId) (t : Timeline)
    (asks : sys.tasks[c]? = some { origin := requesting s base (.timeline t) })
    (idle : sys.store.2.active = none) (first : schedule 0 = .turn c)
    (unasked : ∀ i ∈ [c, sys.tasks.length], sys.Unasked schedule i)
    (fair : ∀ i ∈ [c, sys.tasks.length], sys.Fair schedule i)
    (served : sys.Served schedule sys.tasks.length) :
    (∀ p, t.validate = .error p →
      let next := sys.after schedule 1
      next.Ended c (requesting s base (.timeline t)) (.failed (.expected (.validation p)))
        ∧ next.tasks.length = sys.tasks.length ∧ next.store = sys.store ∧ next.world = sys.world) ∧
    (t.validate = .ok () → ∃ n x, let last := sys.after schedule n
      last.Ended c (requesting s base (.timeline t)) x.told
        ∧ last.Ended sys.tasks.length (running s base t) x
        ∧ Ran s t (deeds (sys.heardUntil schedule sys.tasks.length n)) x) := by
  have one : sys.after schedule 1 = sys.resume c := after_turn first
  constructor
  · intro p bad
    have refused : Request.admitted s (.timeline t) sys.store.2
        = .error (.expected (.validation p)) := by
      rw [Request.admitted_idle idle, Request.accepted_timeline, bad]
      rfl
    obtain ⟨ended, length, store, world⟩ := resume_rejected asks refused
    rw [one]
    exact ⟨⟨_, _, ended⟩, length, store, world⟩
  · intro valid
    have ok : Request.admitted s (.timeline t) sys.store.2 = .ok t := by
      rw [Request.admitted_idle idle, Request.accepted_timeline, valid]
      rfl
    obtain ⟨waits, fresh, -⟩ := resume_accepted asks ok
    rw [← one] at waits fresh
    have unended := exitOf_of_unended fresh rfl (.inl t)
    have fairCaller := fair c List.mem_cons_self
    have fairRun := fair sys.tasks.length (List.mem_cons_of_mem _ List.mem_cons_self)
    have runEnds : sys.EndsFrom schedule sys.tasks.length (running s base t) 1 :=
      ends_of_fair fairRun served fresh (.calm trivial) (fun h => by cases h)
    obtain ⟨n, y, later, p, k, ended⟩ :
        sys.EndsFrom schedule c (requesting s base (.timeline t)) 1 :=
      ends_of_fair fairCaller (served_of_ends asks waits unended runEnds) waits (.calm unended)
        (fun h => by cases h)
    have counted : k = 0 := unasked c List.mem_cons_self n _ ended
    obtain ⟨_, -, evolved⟩ := evolved_after sys schedule c later
    rcases told_of_ended waits (.calm unended) evolved ended with asked | ⟨x, told, rfl⟩
    · omega
    obtain ⟨h, heard, evolved⟩ := evolved_after sys schedule sys.tasks.length later
    obtain ⟨p', k', found, plays⟩ := plays_of_ended fresh evolved told
    have counted' : k' = 0 :=
      unasked _ (List.mem_cons_of_mem _ List.mem_cons_self) n _ found
    have silent : sys.heardUntil schedule sys.tasks.length 1 = [] := by
      obtain ⟨inside, -⟩ := List.getElem?_eq_some_iff.mp asks
      rw [heardUntil_succ, first]
      exact if_neg (Nat.ne_of_lt inside)
    rw [silent, List.nil_append] at heard
    refine ⟨n, x, ⟨p, k, ended⟩, ⟨p', k', found⟩, ?_⟩
    rw [heard]
    rcases plays with plays | ⟨asked, -⟩
    · exact .of_plays plays
    · omega

end System

/-! ## A sample -/

section Sample

/-- An interface with nothing around it. -/
def Interface.alone : Interface where
  Act := Empty
  Val := Empty.elim
  Wait := Empty
  Ans := Empty.elim
  Gate := Empty
  Store := Unit
  Job := Empty
  Out := Empty.elim

instance : DecidableEq Interface.alone.Gate := inferInstanceAs (DecidableEq Empty)

instance : DecidableEq Interface.alone.Job := inferInstanceAs (DecidableEq Empty)

/-- There are no tasks and no calls besides those of the desk. -/
def Program.alone : Program Interface.alone where
  job j := nomatch j
  Call := Empty
  Result := Empty.elim
  call c := nomatch c
  capacity g := nomatch g

/-- Surroundings that keep the records, with a listener that asks for the end at some events. -/
def Machine.alone (asks : ProgressEvent → Bool) : Machine (Office Interface.alone) where
  State := List Metric
  act _ a records :=
    match a with
    | .inl (.event e) => (asks e, records)
    | .inl (.metric m) => ((), records ++ [m])
  wait _ w := nomatch w
  release _ w := nomatch w

/-- Stages that come to their values at once. -/
def Services.sample : Services Interface.alone where
  threshold := 2
  freshId := ""
  classify _ := .done (.returned ⟨[ByteArray.mk #[1, 2]], []⟩)
  execute _ _ _ _ := .done (.returned (ByteArray.mk #[3]))
  cleanup _ := .done (.returned ())
  preload := none

namespace System

/-- An idle desk with one request. -/
def sample (asks : ProgressEvent → Bool) :
    System (deskProgram .sample .alone) (Machine.alone asks) where
  world := []
  store := ((), {})
  tasks := [{ origin := requesting .sample .alone (.timeline .sample) }]

/-- The same with a listener that asks for nothing. -/
def sampleUnheard : System (deskProgram .sample .alone) (Machine.alone fun _ => false) :=
  sample fun _ => false

/-- The request and its run take turns. -/
def inTurn (n : Nat) : Choice (deskProgram Services.sample Program.alone) := .turn (n % 2)

/-- Nobody is asked to stop, and the run never waits. -/
lemma calm_sample (n : Nat) :
    ((sampleUnheard.after inTurn n).tasks.all fun task => task.cancels == 0) = true
      ∧ ((sampleUnheard.after inTurn n).tasks[1]?).all
        (fun task => !task.fiber.isWaiting) = true := by
  -- after three turns both have ended
  have ended : ∀ i < 2,
      ((sampleUnheard.after inTurn 3).tasks[i]?).any Task.hasEnded = true := by
    decide +kernel
  have settled : ∀ m, 3 ≤ m → (sampleUnheard.after inTurn m)
      = sampleUnheard.after inTurn 3 := fun m later =>
    after_settled (fun m _ => ⟨m % 2, rfl, ended _ (Nat.mod_lt m (by decide))⟩) later
  rcases Nat.lt_or_ge n 3 with early | late
  · have first : ∀ n < 3,
        ((sampleUnheard.after inTurn n).tasks.all fun task => task.cancels == 0) = true
          ∧ ((sampleUnheard.after inTurn n).tasks[1]?).all
            (fun task => !task.fiber.isWaiting) = true := by
      decide +kernel
    exact first n early
  · rw [settled n late]
    decide +kernel

/-- Two tasks that take turns: the request waits for its run, and the run goes through all stages to
a video of a classifier that reads two bytes. -/
theorem export_sequential_sample :
    Timeline.sample.validate = .ok () ∧ sampleUnheard.store.2.active = none ∧ inTurn 0 = .turn 0
      ∧ (∀ i ∈ [0, 1], sampleUnheard.Unasked inTurn i)
      ∧ (∀ i ∈ [0, 1], sampleUnheard.Fair inTurn i) ∧ sampleUnheard.Served inTurn 1
      ∧ ∃ n x, let last := sampleUnheard.after inTurn n
        last.Ended 0 (requesting .sample .alone (.timeline .sample)) x.told
          ∧ last.Ended 1 (running .sample .alone .sample) x
          ∧ Ran .sample .sample (deeds (sampleUnheard.heardUntil inTurn 1 n)) x := by
  have valid : Timeline.sample.validate = .ok () := by decide +kernel
  have unasked : ∀ i ∈ [0, 1], sampleUnheard.Unasked inTurn i := by
    intro i _ n task found
    have calm := List.all_eq_true.mp (calm_sample n).1 task (List.mem_of_getElem? found)
    exact eq_of_beq calm
  have fair : ∀ i ∈ [0, 1], sampleUnheard.Fair inTurn i := by
    intro i among n _ _ _
    have below : i < 2 := by
      rcases List.mem_pair.mp among with rfl | rfl <;> decide
    have later : n ≤ 2 * n + i := by
      rw [Nat.two_mul, Nat.add_assoc]
      exact Nat.le_add_right n _
    exact ⟨2 * n + i, later, by rw [inTurn, Nat.mul_add_mod, Nat.mod_eq_of_lt below]⟩
  have served : sampleUnheard.Served inTurn 1 := by
    intro n task found waiting
    have calm := (calm_sample n).2
    rw [found, Option.all_some, waiting] at calm
    cases calm
  exact ⟨valid, rfl, rfl, unasked, fair, served,
    (export_sequential sampleUnheard inTurn 0 .sample rfl rfl rfl unasked fair served).2 valid⟩

end System

end Sample

end Montage
