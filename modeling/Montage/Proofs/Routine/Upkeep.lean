import Mathlib.Tactic.Common
import Montage.Proofs.Routine.Outline

/-!
# Outlines are kept

If an outline holds, all tasks know what they should at any time, whatever the schedule.  One task
is busy in its turn; the others stand where they were left, and one of them may be behind the gate.

* `Outline.Kept` — what all tasks know between two turns, and who is behind the gate.
* `Kept.leave`, `Kept.take` — how the place behind the gate changes hands.
* `Outline.Acts` — what the busy task knows in its turn; `Acts.reply`, `Acts.begin` — its steps.
* **`Outline.Kept.apply`** — whatever happens next, all tasks know what they should.
* `Outline.Kept.follow` — so they do over any schedule.
-/

namespace Montage

variable {E : Interface} {P : Program E} {M : Machine E} {S : Type}

namespace Outline

variable (O : Outline P M S)

/-- All tasks that are not busy know enough to go on, and at most one is behind the gate. -/
structure Kept (holder busy : Option TaskId) (sys : System P M) (s : E.Store) : Prop where
  sound : O.sound sys.world
  place : ∀ i, holder = some i → i < sys.tasks.length ∧ 0 < (sys.gates O.gate).inside
  tasks : ∀ (i : TaskId) (t : Task P), busy ≠ some i → sys.tasks[i]? = some t →
    O.Stands sys.world s i (holder = some i) t
  /-- Whoever comes next can begin. -/
  absent : ∀ i o, sys.tasks.length ≤ i → O.knows i o O.start sys.world

variable {O} {holder busy : Option TaskId} {sys sys' : System P M} {s s' : E.Store}

lemma Kept.store (kept : O.Kept holder busy sys s) (store : E.Store) :
    O.Kept holder busy { sys with store } s :=
  ⟨kept.sound, kept.place, kept.tasks, kept.absent⟩

/-- Less is claimed while some task is busy. -/
lemma Kept.but (kept : O.Kept holder none sys s) (busy : Option TaskId) :
    O.Kept holder busy sys s :=
  ⟨kept.sound, kept.place, fun i t _ => kept.tasks i t nofun, kept.absent⟩

lemma Kept.stirs (holds : O.Holds) (kept : O.Kept holder busy sys s)
    (stirs : sys.Stirs O.gate busy sys') : O.Kept holder busy sys' s where
  sound := stirs.world ▸ kept.sound
  place i here := by
    rw [stirs.length, stirs.inside]
    exact kept.place i here
  tasks i t' idle found' := by
    have inside := (List.getElem?_eq_some_iff.mp found').1
    rw [stirs.length] at inside
    have found := List.getElem?_eq_getElem inside
    obtain ⟨t'', found'', stirred⟩ := stirs.each i _ idle found
    cases found'.symm.trans found''
    rw [stirs.world]
    exact (kept.tasks i _ idle found).stirred holds stirred
  absent i o beyond := by
    rw [stirs.world]
    exact kept.absent i o (stirs.length ▸ beyond)

/-- What the busy task does to the surroundings. -/
lemma Kept.moves (holds : O.Holds) {i : TaskId} {a : S} {w : M.State}
    (kept : O.Kept holder (some i) sys s) (present : i < sys.tasks.length)
    (side : O.inside a ↔ holder = some i) (moves : O.Moves i a sys.world w) :
    O.Kept holder (some i) { sys with world := w } s where
  sound := moves.sound
  place := kept.place
  tasks j t idle found := by
    have other : j ≠ i := fun same => idle (same ▸ rfl)
    refine (kept.tasks j t idle found).moves holds moves other ?_
    rintro ⟨inside, here⟩
    cases here.symm.trans (side.mp inside)
    exact other rfl
  absent j o beyond := moves.others j o O.start (Nat.ne_of_gt (Nat.lt_of_lt_of_le present beyond))
    (fun both => holds.outside both.2) (kept.absent j o beyond)

/-- A new task. -/
lemma Kept.spawn (holds : O.Holds) (kept : O.Kept holder busy sys s) (o : Origin P) :
    O.Kept holder busy (sys.spawn o).2 s where
  sound := kept.sound
  place i here := by
    obtain ⟨present, place⟩ := kept.place i here
    refine ⟨?_, place⟩
    rw [System.spawn, List.length_append]
    exact Nat.lt_add_right _ present
  tasks i t idle found := by
    rcases Nat.lt_or_ge i sys.tasks.length with old | new
    · exact kept.tasks i t idle ((List.getElem?_append_left old).symm.trans found)
    · have outside : ¬ holder = some i := fun here =>
        absurd (kept.place i here).1 (Nat.not_lt_of_ge new)
      replace found := (List.getElem?_append_right new).symm.trans found
      rw [List.mem_singleton.mp (List.mem_of_getElem? found)]
      exact .fresh outside ⟨kept.absent i o new, holds.blank s⟩
  absent i o' beyond := by
    rw [System.spawn, List.length_append] at beyond
    exact kept.absent i o' (Nat.le_of_add_right_le beyond)

/-- What turns make of the record. -/
lemma Kept.forward (holds : O.Holds) (kept : O.Kept holder busy sys s) (more : O.forward s s') :
    O.Kept holder busy sys s' :=
  ⟨kept.sound, kept.place, fun i t idle found => (kept.tasks i t idle found).forward holds more,
    kept.absent⟩

/-- The turn is over. -/
lemma Kept.settle {i : TaskId} (kept : O.Kept holder (some i) sys s)
    (own : ∀ t, sys.tasks[i]? = some t → O.Stands sys.world s i (holder = some i) t) :
    O.Kept holder none sys s where
  sound := kept.sound
  place := kept.place
  tasks j t _ found := by
    by_cases here : i = j
    · subst here
      exact own t found
    · exact kept.tasks j t (fun same => here (Option.some.inj same)) found
  absent := kept.absent

/-! ## The gate -/

variable [DecidableEq E.Gate]

lemma answer_waiting (g : E.Gate) (o : Origin P)
    (k : Exit (Suspension.enter g).Answer → Routine E o.Out) (p : Bool) (c : Nat) :
    Task.answer ⟨o, .waiting (.enter g) k, p, c⟩ (System.admitted g)
      = ⟨o, .ready (.enter g) (.returned ()) k, p, c⟩ := by
  simp [Task.answer, System.admitted]

/-- Who does not wait at the gate does not mind a place that is given up. -/
lemma answer_admitted (g : E.Gate) (t : Task P) :
    (∃ (o : Origin P) (k : Exit (Suspension.enter g).Answer → Routine E o.Out) (p : Bool)
      (c : Nat), t = ⟨o, .waiting (.enter g) k, p, c⟩) ∨ t.answer (System.admitted g) = t := by
  obtain ⟨o, f, p, c⟩ := t
  cases f with
  | fresh => exact .inr rfl
  | running => exact .inr rfl
  | ready q x k => exact .inr rfl
  | ended x => exact .inr rfl
  | waiting q k =>
      cases q with
      | wait w => exact .inr rfl
      | join j u => exact .inr rfl
      | watch j u => exact .inr rfl
      | enter h =>
          by_cases same : h = g
          · subst same
            exact .inl ⟨o, k, p, c, rfl⟩
          · exact .inr (by simp [Task.answer, System.admitted, same])

/-- Who waits at the gate is let in. -/
lemma Kept.admit {i u : TaskId} (kept : O.Kept none (some i) sys s)
    (inside : 0 < (sys.gates O.gate).inside) {o : Origin P}
    {k : Exit (Suspension.enter O.gate).Answer → Routine E o.Out} {p : Bool} {c : Nat}
    (found : sys.tasks[u]? = some ⟨o, .waiting (.enter O.gate) k, p, c⟩) :
    O.Kept (some u) (some i) (sys.update u fun t => t.answer (System.admitted O.gate)) s where
  sound := kept.sound
  place j here := by
    cases here
    refine ⟨?_, inside⟩
    rw [System.update, List.length_modify]
    exact (List.getElem?_eq_some_iff.mp found).1
  tasks j t idle found' := by
    by_cases here : u = j
    · subst here
      have stands := kept.tasks u _ idle found
      rw [System.update, List.getElem?_modify_eq, found] at found'
      cases found'
      dsimp only
      rw [answer_waiting]
      cases stands with
      | waiting obeys _ aware => exact .admitted obeys rfl aware
    · rw [System.update, List.getElem?_modify_ne _ _ here] at found'
      exact (kept.tasks j t idle found').congr
        ⟨fun same => absurd same.symm (Option.some_ne_none j),
          fun same => absurd (Option.some.inj same) here⟩
  absent j o' beyond := kept.absent j o' (by rwa [System.update, List.length_modify] at beyond)

/-- Who comes to the gate when it is free is let in at once. -/
lemma Kept.take (holds : O.Holds) {i : TaskId} (kept : O.Kept holder (some i) sys s)
    (present : i < sys.tasks.length) (free : (sys.gates O.gate).inside < P.capacity O.gate)
    (line : List TaskId) :
    O.Kept (some i) (some i)
      (sys.setGate O.gate { inside := (sys.gates O.gate).inside + 1, line }) s where
  sound := kept.sound
  place j here := by
    cases here
    refine ⟨present, ?_⟩
    simp only [System.setGate, ↓reduceIte]
    exact Nat.succ_pos _
  tasks j t idle found := by
    refine (kept.tasks j t idle found).congr ⟨fun here => ?_, fun here => absurd here idle⟩
    have inside := (kept.place j here).2
    rw [holds.alone] at free
    omega
  absent := kept.absent

/-- Who leaves the gate passes the place on, or leaves it free. -/
lemma Kept.leave (holds : O.Holds) {i : TaskId} (kept : O.Kept (some i) (some i) sys s) :
    ∃ holder, holder ≠ some i ∧ O.Kept holder (some i) (sys.leave O.gate) s := by
  obtain ⟨-, inside⟩ := kept.place i rfl
  have free : ∀ (j : TaskId) t, some i ≠ some j → sys.tasks[j]? = some t →
      O.Stands sys.world s j (none = some j) t := fun j t idle found =>
    (kept.tasks j t idle found).congr ⟨fun here => absurd here idle, nofun⟩
  unfold System.leave
  dsimp only
  split
  · exact ⟨none, nofun, kept.sound, nofun, free, kept.absent⟩
  · rename_i u rest line
    have vacant : O.Kept none (some i) sys s := ⟨kept.sound, nofun, free, kept.absent⟩
    have lined : sys.Stirs O.gate (some i)
        (sys.setGate O.gate { sys.gates O.gate with line := rest }) :=
      sys.stirs_setGate O.gate fun _ => rfl
    have next := vacant.stirs holds lined
    by_cases waits : ∃ (o : Origin P) (k : Exit (Suspension.enter O.gate).Answer → Routine E o.Out)
        (p : Bool) (c : Nat), u ≠ i ∧ sys.tasks[u]? = some ⟨o, .waiting (.enter O.gate) k, p, c⟩
    · obtain ⟨o, k, p, c, other, found⟩ := waits
      have admitted := next.admit (lined.inside ▸ inside) found
      exact ⟨some u, fun same => other (Option.some.inj same),
        admitted.stirs holds (System.stirs_enqueue _ u)⟩
    · refine ⟨none, nofun, next.stirs holds
        ((System.stirs_update _ u fun idle t found => ?_).trans (System.stirs_enqueue _ u))⟩
      rcases answer_admitted O.gate t with ⟨o, k, p, c, rfl⟩ | same
      · exact absurd ⟨o, k, p, c, fun same => idle (same ▸ rfl), found⟩ waits
      · rw [same]
        exact .refl O.gate t

/-! ## Turns -/

variable [DecidableEq E.Job] {i : TaskId} {o : Origin P} {a : S} {p : Bool} {c : Nat}

/-- What the busy task knows in its turn, while the others wait and go on knowing what they know. -/
structure Acts (O : Outline P M S) (holder : Option TaskId) (i : TaskId) (o : Origin P) (a : S)
    (sys : System P M) (s : E.Store) : Prop where
  kept : O.Kept holder (some i) sys s
  aware : O.Aware i o a sys.world sys.store
  side : O.inside a ↔ holder = some i
  running : ∃ p c, sys.tasks[i]? = some ⟨o, .running, p, c⟩

omit [DecidableEq E.Gate] [DecidableEq E.Job] in
lemma Acts.present (acts : O.Acts holder i o a sys s) : i < sys.tasks.length := by
  obtain ⟨p, c, running⟩ := acts.running
  exact (List.getElem?_eq_some_iff.mp running).1

/-- A place behind the gate is given up. -/
lemma Acts.passOn (holds : O.Holds) (acts : O.Acts (some i) i o a sys s) {b : S}
    (outside : ¬ O.inside b) (aware : O.Aware i o b sys.world sys.store) :
    ∃ holder, O.Acts holder i o b (sys.leave O.gate) s := by
  obtain ⟨kept, -, -, p, c, running⟩ := acts
  obtain ⟨holder, other, kept'⟩ := kept.leave holds
  obtain ⟨p', c', running', -⟩ := (gently.leave sys O.gate).running running
  refine ⟨holder, kept', ?_, ⟨fun here => absurd here outside, fun here => absurd here other⟩,
    p', c', running'⟩
  rwa [sys.world_leave, (sys.steady_leave O.gate).store]

/-- A question and its answer. -/
lemma Acts.reply (holds : O.Holds) (acts : O.Acts holder i o a sys s) {q : Request E}
    (may : (O.regime o).mayAsk a q) :
    ∃ holder' b, (O.regime o).asked a q (sys.reply i q).1 b
      ∧ O.Acts holder' i o b (sys.reply i q).2 s := by
  obtain ⟨kept, aware, side, p, c, running⟩ := acts
  have running' : ∃ p c, (sys.reply i q).2.tasks[i]? = some ⟨o, .running, p, c⟩ := by
    obtain ⟨p', c', running', -⟩ := (gently.reply sys i q).running running
    exact ⟨p', c', running'⟩
  have plainly : q.Plain O.gate → O.Kept holder (some i) (sys.reply i q).2 s →
      (sys.reply i q).2.world = sys.world →
      ∃ holder' b, (O.regime o).asked a q (sys.reply i q).1 b
        ∧ O.Acts holder' i o b (sys.reply i q).2 s := by
    intro plain kept' world
    obtain ⟨tells, leaves⟩ := System.tells_reply id sys i q
    obtain ⟨b, asked, same, aware'⟩ := holds.plain aware may plain tells
    refine ⟨holder, b, asked, kept', ?_, same.trans side, running'⟩
    rw [world]
    exact (id leaves : (sys.reply i q).2.store = _) ▸ aware'
  cases q with
  | act e =>
      obtain ⟨moves, b, asked, same, aware'⟩ := holds.act kept.sound aware may
      exact ⟨holder, b, asked, kept.moves holds (List.getElem?_eq_some_iff.mp running).1 side moves,
        aware', same.trans side, running'⟩
  | get => exact plainly trivial kept rfl
  | set store => exact plainly trivial (kept.store store) rfl
  | start j => exact plainly trivial (kept.spawn holds (.job j)) rfl
  | cancel u =>
      have stirs : sys.Stirs O.gate (some i) (sys.cancel u).2 := System.stirs.cancelWithin sys u _
      exact plainly trivial (kept.stirs holds stirs) stirs.world
  | cancelling => exact plainly trivial kept rfl
  | leave g =>
      by_cases here : g = O.gate
      · subst here
        obtain ⟨inside, b, asked, outside, aware'⟩ := holds.leave aware may
        obtain rfl := side.mp inside
        obtain ⟨holder', acts'⟩ :=
          passOn holds ⟨kept, aware, side, p, c, running⟩ outside aware'
        exact ⟨holder', b, asked, acts'⟩
      · have stirs : sys.Stirs O.gate (some i) (sys.leave g) := sys.stirs_leave here
        exact plainly here (kept.stirs holds stirs) stirs.world

/-- What becomes of a suspension that has begun. -/
def Comes (O : Outline P M S) (holder : Option TaskId) (i : TaskId) (o : Origin P) (a : S)
    (q : Suspension E) (sys : System P M) (s : E.Store) : System.Prospect q.Answer → Prop
  | .now x => ∃ holder' b, (O.regime o).awaited a q x b ∧ O.Acts holder' i o b sys s
  | .later x => O.Kept holder (some i) sys s ∧ ¬ q.Grants O.gate x
      ∧ O.Awaited i o a q x sys.world sys.store ∧ O.Awaited i o a q .cancelled sys.world sys.store
  | .unknown => O.Kept holder (some i) sys s ∧ O.Aware i o a sys.world sys.store

omit [DecidableEq E.Gate] [DecidableEq E.Job] in
/-- The end of a wait for tasks or for other gates. -/
lemma Acts.told (holds : O.Holds) (acts : O.Acts holder i o a sys s) {q : Suspension E}
    (may : (O.regime o).mayAwait a q) (plain : q.Plain O.gate) (x : Exit q.Answer) :
    O.Comes holder i o a q sys s (.now x) := by
  obtain ⟨kept, aware, side, running⟩ := acts
  obtain ⟨b, awaited, same, aware'⟩ := holds.told (x := x) aware may (.inr plain)
  exact ⟨holder, b, awaited, kept, aware', same.trans side, running⟩

lemma Acts.begin (holds : O.Holds) (acts : O.Acts holder i o a sys s) {q : Suspension E}
    (may : (O.regime o).mayAwait a q) :
    O.Comes holder i o a q (sys.begin i q).2 s (sys.begin i q).1 := by
  have present := acts.present
  have told := acts.told holds may
  obtain ⟨kept, aware, side, running⟩ := acts
  cases q with
  | wait w =>
      obtain ⟨moves, held, answered⟩ := holds.wait kept.sound aware may
      have kept' := kept.moves holds present side moves
      rw [System.begin]
      cases reply : M.wait i w sys.world with
      | mk v world =>
          rw [reply] at kept' held answered
          cases v with
          | none => exact ⟨kept', held rfl⟩
          | some v => exact ⟨kept', id, answered v rfl⟩
  | enter g =>
      by_cases here : g = O.gate
      · subst here
        obtain ⟨outside, b, awaited, inside, aware'⟩ := holds.enter aware may
        simp only [System.begin]
        split
        · rename_i free
          exact ⟨some i, b, awaited, kept.take holds present free.1 _, aware',
            ⟨fun _ => rfl, fun _ => inside⟩, running⟩
        · have stirs : sys.Stirs O.gate (some i) (sys.setGate O.gate
              { sys.gates O.gate with line := (sys.gates O.gate).line ++ [i] }) :=
            sys.stirs_setGate O.gate fun _ => rfl
          exact ⟨kept.stirs holds stirs, aware⟩
      · simp only [System.begin]
        split
        · obtain ⟨holder', b, awaited, acts⟩ := told here (.returned ())
          have stirs : sys.Stirs O.gate (some i) (sys.setGate g
              { sys.gates g with inside := (sys.gates g).inside + 1 }) :=
            sys.stirs_setGate g fun same => absurd same here
          exact ⟨holder', b, awaited, acts.kept.stirs holds stirs, acts.aware, acts.side, running⟩
        · have stirs : sys.Stirs O.gate (some i) (sys.setGate g
              { sys.gates g with line := (sys.gates g).line ++ [i] }) :=
            sys.stirs_setGate g fun _ => rfl
          exact ⟨kept.stirs holds stirs, aware⟩
  | join j u =>
      simp only [System.begin]
      split
      · exact told trivial _
      · exact ⟨kept, aware⟩
  | watch j u =>
      simp only [System.begin]
      split
      · exact told trivial _
      · exact ⟨kept, aware⟩

omit [DecidableEq E.Gate] [DecidableEq E.Job] in
/-- A turn that comes to a suspension. -/
lemma Kept.park (holds : O.Holds) (kept : O.Kept holder (some i) sys s)
    (more : O.forward s sys.store) {f : Fiber E o.Out}
    (stands : ∀ p c, O.Stands sys.world sys.store i (holder = some i) ⟨o, f, p, c⟩) :
    O.Kept holder none (sys.update i fun t =>
      { origin := o, fiber := f, pending := t.pending, cancels := t.cancels }) sys.store := by
  have next := kept.forward holds more
  refine (next.stirs holds (sys.stirs_update_busy i _)).settle fun t found => ?_
  rw [System.update, List.getElem?_modify_eq] at found
  obtain ⟨old, -, rfl⟩ := Option.map_eq_some_iff.mp found
  exact stands _ _

omit [DecidableEq E.Gate] in
/-- A turn that comes to its end. -/
lemma Acts.finish (holds : O.Holds) (acts : O.Acts holder i o a sys s) (outside : ¬ O.inside a)
    (more : O.forward s sys.store) (x : Exit o.Out) :
    O.Kept holder none (sys.finish i o x) sys.store := by
  obtain ⟨kept, aware, side, p, c, running⟩ := acts
  have stirs : sys.Stirs O.gate (some i) (sys.finish i o x) := sys.stirs_finish i o x
  refine ((kept.forward holds more).stirs holds stirs).settle fun t found => ?_
  rw [System.tasks_finish running, System.announced_own (List.getElem?_eq_some_iff.mp running).1]
    at found
  cases found
  refine .ended (fun here => outside (side.mpr here)) outside ?_
  rwa [stirs.world]

/-- A turn leaves all tasks knowing what they should. -/
lemma Acts.perform (holds : O.Holds) (r : Routine E o.Out) {sys : System P M}
    {holder : Option TaskId} {a : S} (acts : O.Acts holder i o a sys s) (obeys : O.Obeys o r a)
    (more : O.forward s (sys.perform i o r).store) :
    ∃ holder', O.Kept holder' none (sys.perform i o r) (sys.perform i o r).store := by
  induction r generalizing sys holder a with
  | done x =>
      cases obeys with
      | done outside =>
          have same := (sys.steady_finish i o x).store
          rw [System.perform, same] at more ⊢
          exact ⟨holder, acts.finish holds outside more x⟩
  | ask q k ih =>
      obtain ⟨may, rest⟩ := Routine.obeys_ask_iff.mp obeys
      obtain ⟨holder', b, asked, acts'⟩ := acts.reply holds may
      exact ih _ acts' (rest _ b asked) more
  | await q k ih =>
      obtain ⟨may, rest⟩ := Routine.obeys_await_iff.mp obeys
      rw [System.perform] at more ⊢
      by_cases stops : (sys.isPending i && sys.suspends q) = true
      · rw [if_pos stops] at more ⊢
        have calm := acts.kept.stirs holds
          (sys.stirs_update_busy i fun t => { t with pending := false })
        have stopped := holds.told acts.aware may (.inl rfl)
        have ready : ∀ p c, O.Stands sys.world sys.store i (holder = some i)
            ⟨o, .ready q .cancelled k, p, c⟩ := fun p c =>
          .ready obeys acts.side (q.not_grants_cancelled O.gate) stopped stopped
        cases q with
        | join j u =>
            -- the request to stop is passed on to who is waited for
            rw [(System.steady.cancelWithin _ u _).store] at more ⊢
            have parked := calm.park holds more fun p c => .waiting obeys acts.side acts.aware
            exact ⟨holder, parked.stirs holds (System.stirs.cancelWithin _ u _)⟩
        | wait w =>
            exact ⟨holder, (calm.park holds more ready).stirs holds (System.stirs_enqueue _ i)⟩
        | enter g =>
            exact ⟨holder, (calm.park holds more ready).stirs holds (System.stirs_enqueue _ i)⟩
        | watch j u =>
            exact ⟨holder, (calm.park holds more ready).stirs holds (System.stirs_enqueue _ i)⟩
      · rw [if_neg stops] at more ⊢
        have comes := acts.begin holds may
        cases begun : sys.begin i q with
        | mk prospect sys' =>
            rw [begun] at comes more
            cases prospect with
            | now x =>
                obtain ⟨holder', b, awaited, acts'⟩ := comes
                exact ih x acts' (rest x b awaited) more
            | later x =>
                obtain ⟨kept, apart, told, stopped⟩ := comes
                have parked := kept.park holds more fun p c =>
                  .ready obeys acts.side apart told stopped
                exact ⟨holder, parked.stirs holds (System.stirs_enqueue _ i)⟩
            | unknown =>
                obtain ⟨kept, aware⟩ := comes
                exact ⟨holder, kept.park holds more fun p c => .waiting obeys acts.side aware⟩

omit [DecidableEq E.Gate] [DecidableEq E.Job] in
/-- A task begins its turn. -/
lemma Kept.acts (holds : O.Holds) (kept : O.Kept holder none sys sys.store) {f : Fiber E o.Out}
    (found : sys.tasks[i]? = some ⟨o, f, p, c⟩) (aware : O.Aware i o a sys.world sys.store)
    (side : O.inside a ↔ holder = some i) (p' : Bool) :
    O.Acts holder i o a (sys.begun i o p' c) sys.store :=
  ⟨(kept.but (some i)).stirs holds (sys.stirs_update_busy i _), aware, side, p', c,
    System.running_begun found p'⟩

/-- A place behind another gate is passed on. -/
lemma Acts.passedOn (holds : O.Holds) (acts : O.Acts holder i o a sys s) {q : Suspension E}
    {x : Exit q.Answer} (apart : ¬ q.Grants O.gate x) :
    O.Acts holder i o a (sys.passedOn q x) s := by
  obtain ⟨kept, aware, side, p, c, running⟩ := acts
  have stirs : sys.Stirs O.gate (some i) (sys.passedOn q x) := sys.stirs_passedOn apart
  obtain ⟨p', c', running', -⟩ := (gently.passedOn sys q x).running running
  refine ⟨kept.stirs holds stirs, ?_, side, p', c', running'⟩
  rwa [stirs.world, (sys.steady_passedOn q x).store]

/-- **After any turn all tasks know what they should.** -/
lemma Kept.resume (holds : O.Holds) (kept : O.Kept holder none sys sys.store)
    (more : O.forward sys.store (sys.resume i).store) :
    ∃ holder', O.Kept holder' none (sys.resume i) (sys.resume i).store := by
  cases found : sys.tasks[i]? with
  | none =>
      simp only [System.resume, found]
      exact ⟨holder, kept⟩
  | some t =>
      have stands := kept.tasks i _ (Option.some_ne_none i).symm found
      cases stands with
      | waiting obeys side aware =>
          rw [System.resume_waiting found]
          exact ⟨holder, kept⟩
      | ended outside apart aware =>
          simp only [System.resume, found]
          exact ⟨holder, kept⟩
      | @fresh o p c outside aware =>
          have side : O.inside O.start ↔ holder = some i :=
            ⟨fun inside => absurd inside holds.outside, fun here => absurd here outside⟩
          have acts := kept.acts holds found aware side p
          cases p with
          | true =>
              simp only [System.resume, found] at more ⊢
              exact ⟨holder, acts.finish holds holds.outside more .cancelled⟩
          | false =>
              simp only [System.resume, found] at more ⊢
              exact acts.perform holds o.routine (holds.routine o) more
      | @admitted o a k p c obeys here aware =>
          obtain ⟨may, rest⟩ := Routine.obeys_await_iff.mp obeys
          obtain ⟨outside, b, awaited, inside, aware'⟩ := holds.enter aware may
          have acts := kept.acts holds found aware' ⟨fun _ => here, fun _ => inside⟩ false
          cases p with
          | true =>
              rw [System.resume_ready_asked found] at more ⊢
              obtain ⟨d, stopped, same, aware''⟩ := holds.told aware may (.inl rfl)
              subst here
              have apart : ¬ O.inside d := fun here => outside (same.mp here)
              obtain ⟨holder', acts'⟩ := acts.passOn holds apart aware''
              exact acts'.perform holds _ (rest _ d stopped) more
          | false =>
              simp only [System.resume, found] at more ⊢
              exact acts.perform holds _ (rest _ b awaited) more
      | @ready o a q x k p c obeys side apart told stopped =>
          obtain ⟨may, rest⟩ := Routine.obeys_await_iff.mp obeys
          cases p with
          | true =>
              rw [System.resume_ready_asked found] at more ⊢
              obtain ⟨b, awaited, same, aware⟩ := stopped
              have acts := kept.acts holds found aware (same.trans side) false
              exact (acts.passedOn holds apart).perform holds _ (rest _ b awaited) more
          | false =>
              simp only [System.resume, found] at more ⊢
              obtain ⟨b, awaited, same, aware⟩ := told
              have acts := kept.acts holds found aware (same.trans side) false
              exact acts.perform holds _ (rest _ b awaited) more

/-! ## Schedules -/

omit [DecidableEq E.Gate] [DecidableEq E.Job] in
/-- A held effect gets its reply. -/
lemma Kept.release (holds : O.Holds) (kept : O.Kept holder none sys sys.store) (i : TaskId) :
    O.Kept holder none (sys.release i) sys.store := by
  unfold System.release
  split
  · rename_i o w k p c found
    have stands := kept.tasks i _ (Option.some_ne_none i).symm found
    cases stands with
    | waiting obeys side aware =>
        obtain ⟨may, rest⟩ := Routine.obeys_await_iff.mp obeys
        obtain ⟨moves, told, stopped⟩ := holds.release kept.sound aware may
        have present := (List.getElem?_eq_some_iff.mp found).1
        have moved := (kept.but (some i)).moves holds present side moves
        refine ((moved.stirs holds (System.stirs_update_busy _ i _)).stirs holds
          (System.stirs_enqueue _ i)).settle fun t found' => ?_
        rw [System.enqueue, System.update, List.getElem?_modify_eq, found] at found'
        cases found'
        exact .ready obeys side id told stopped
  · exact kept

/-- **Whatever happens next, all tasks know what they should**, if the record goes a way it may. -/
theorem Kept.apply (holds : O.Holds) (kept : O.Kept holder none sys sys.store) (choice : Choice P)
    (more : O.forward sys.store (sys.apply choice).store) :
    ∃ holder', O.Kept holder' none (sys.apply choice) (sys.apply choice).store := by
  cases choice with
  | turn t => exact kept.resume holds more
  | call c => exact ⟨holder, kept.spawn holds (.call c)⟩
  | cancel t =>
      have same : (sys.apply (.cancel t)).store = sys.store :=
        (System.steady.cancelWithin sys t _).store
      rw [same]
      exact ⟨holder, kept.stirs holds (System.stirs.cancelWithin sys t _)⟩
  | release t =>
      have same : (sys.apply (.release t)).store = sys.store := (sys.steady_release t).store
      rw [same]
      exact ⟨holder, kept.release holds t⟩

omit [DecidableEq E.Gate] [DecidableEq E.Job] in
/-- Before there is any task. -/
lemma kept_nobody (nobody : sys.tasks = []) (sound : O.sound sys.world)
    (blank : ∀ i o, O.knows i o O.start sys.world) : O.Kept none none sys sys.store where
  sound := sound
  place := nofun
  tasks i t _ found := by
    rw [nobody] at found
    cases found
  absent i o _ := blank i o

/-- **Over any schedule all tasks go on knowing what they should.** -/
theorem Kept.follow (holds : O.Holds) (kept : O.Kept holder none sys sys.store)
    (schedule : List (Choice P))
    (more : ∀ first choice rest, schedule = first ++ choice :: rest →
      O.forward (sys.follow first).store ((sys.follow first).apply choice).store) :
    ∃ holder', O.Kept holder' none (sys.follow schedule) (sys.follow schedule).store := by
  induction schedule generalizing sys holder with
  | nil => exact ⟨holder, kept⟩
  | cons choice rest ih =>
      obtain ⟨holder', kept'⟩ := kept.apply holds choice (more [] choice rest rfl)
      exact ih kept' fun first next last same =>
        more (choice :: first) next last (congrArg (choice :: ·) same)

end Outline

end Montage
