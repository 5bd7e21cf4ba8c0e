import Mathlib.Tactic.Common
import Montage.Proofs.Routine.Invariants
import Montage.Proofs.Routine.Regime

/-!
# Outlines

A task goes on knowing what it knows as long as no other task takes that away.  An outline says what
the routines of a program know at each point.  It holds if what one task does never disturbs what
the others know.  Behind one gate, where only one task may be at a time, more can be known than
elsewhere.

* `Outline` — what tasks know; `Outline.Holds` — what is to be shown of single steps.
* `Outline.Stands` — what a task knows between two turns.
* `Task.Stirred`, `System.Stirs` — what can happen to a task that does not take a turn.
* **`Outline.Stands.moves`**, **`Outline.Stands.stirred`** — that is nothing that a task would mind.
-/

namespace Montage

variable {E : Interface} {P : Program E} {M : Machine E} {S : Type}

/-! ## Questions that have nothing to do with the gate or the surroundings -/

/-- A question about tasks, the record or other gates. -/
def Request.Plain (g : E.Gate) : Request E → Prop
  | .act _ => False
  | .leave h => h ≠ g
  | _ => True

/-- A wait for tasks or for other gates. -/
def Suspension.Plain (g : E.Gate) : Suspension E → Prop
  | .wait _ => False
  | .enter h => h ≠ g
  | _ => True

/-- A reply that is a place behind the gate. -/
def Suspension.Grants (g : E.Gate) : (q : Suspension E) → Exit q.Answer → Prop
  | .enter h, .returned _ => h = g
  | _, _ => False

/-- A request to stop opens no gate … -/
lemma Suspension.not_grants_cancelled (g : E.Gate) (q : Suspension E) :
    ¬ q.Grants g .cancelled := by
  cases q <;> exact id

/-- … nor does a wait for anything else. -/
lemma Suspension.Plain.not_grants {g : E.Gate} {q : Suspension E} (plain : q.Plain g)
    (x : Exit q.Answer) : ¬ q.Grants g x := by
  cases q with
  | wait w => cases plain
  | enter h => cases x <;> first | exact plain | exact id
  | join j u => exact id
  | watch j u => exact id

/-! ## Outlines -/

/-- What the tasks of a program know of their surroundings and of the record. -/
structure Outline (P : Program E) (M : Machine E) (S : Type) where
  /-- The gate that lets one in at a time. -/
  gate : E.Gate
  regime : Origin P → Regime E S
  /-- What is known before the first step. -/
  start : S
  /-- What is known behind the gate only. -/
  inside : S → Prop
  /-- What knowing means for the surroundings. -/
  knows : TaskId → Origin P → S → M.State → Prop
  /-- What knowing means for the record. -/
  sees : S → E.Store → Prop
  /-- What turns may make of the record. -/
  forward : E.Store → E.Store → Prop
  /-- What the surroundings are like at any time. -/
  sound : M.State → Prop

namespace Outline

variable (O : Outline P M S)

/-- What a task knows is so, of the surroundings and of the record. -/
structure Aware (i : TaskId) (o : Origin P) (a : S) (w : M.State) (s : E.Store) : Prop where
  knows : O.knows i o a w
  sees : O.sees a s

/-- A reply to a question tells a task what it knows next, on the same side of the gate. -/
def Asked (i : TaskId) (o : Origin P) (a : S) (q : Request E) (v : q.Reply) (w : M.State)
    (s : E.Store) : Prop :=
  ∃ b, (O.regime o).asked a q v b ∧ (O.inside b ↔ O.inside a) ∧ O.Aware i o b w s

/-- The end of a suspension tells a task what it knows next, on the same side of the gate. -/
def Awaited (i : TaskId) (o : Origin P) (a : S) (q : Suspension E) (x : Exit q.Answer)
    (w : M.State) (s : E.Store) : Prop :=
  ∃ b, (O.regime o).awaited a q x b ∧ (O.inside b ↔ O.inside a) ∧ O.Aware i o b w s

/-- What a task does to the surroundings does not disturb what the others know. -/
structure Moves (i : TaskId) (a : S) (w w' : M.State) : Prop where
  sound : O.sound w'
  others : ∀ j o b, j ≠ i → ¬ (O.inside a ∧ O.inside b) → O.knows j o b w → O.knows j o b w'

/-- A routine keeps to the outline from what is known on, and ends outside of the gate. -/
abbrev Obeys (o : Origin P) (r : Routine E o.Out) (a : S) : Prop :=
  r.Obeys (O.regime o) (fun b _ => ¬ O.inside b) a

/-- What is to be shown of single steps.  From these alone it follows that tasks know what they know
after any schedule (`Outline.Kept`). -/
structure Holds : Prop where
  alone : P.capacity O.gate = 1
  outside : ¬ O.inside O.start
  blank : ∀ s, O.sees O.start s
  routine : ∀ o : Origin P, O.Obeys o o.routine O.start
  forward : ∀ {a s s'}, O.forward s s' → O.sees a s → O.sees a s'
  act : ∀ {i o a w s e}, O.sound w → O.Aware i o a w s → (O.regime o).mayAsk a (.act e) →
    O.Moves i a w (M.act i e w).2 ∧ O.Asked i o a (.act e) (M.act i e w).1 (M.act i e w).2 s
  plain : ∀ {i o a w s} {q : Request E} {v : q.Reply}, O.Aware i o a w s →
    (O.regime o).mayAsk a q → q.Plain O.gate → q.Tells id s v →
    O.Asked i o a q v w (q.leaves id s)
  leave : ∀ {i o a w s}, O.Aware i o a w s → (O.regime o).mayAsk a (.leave O.gate) →
    O.inside a ∧ ∃ b, (O.regime o).asked a (.leave O.gate) () b ∧ ¬ O.inside b ∧ O.Aware i o b w s
  enter : ∀ {i o a w s}, O.Aware i o a w s → (O.regime o).mayAwait a (.enter O.gate) →
    ¬ O.inside a ∧ ∃ b, (O.regime o).awaited a (.enter O.gate) (.returned ()) b ∧ O.inside b
      ∧ O.Aware i o b w s
  told : ∀ {i o a w s} {q : Suspension E} {x : Exit q.Answer}, O.Aware i o a w s →
    (O.regime o).mayAwait a q → x = .cancelled ∨ q.Plain O.gate → O.Awaited i o a q x w s
  wait : ∀ {i o a w s q}, O.sound w → O.Aware i o a w s → (O.regime o).mayAwait a (.wait q) →
    O.Moves i a w (M.wait i q w).2
      ∧ ((M.wait i q w).1 = none → O.Aware i o a (M.wait i q w).2 s)
      ∧ ∀ v, (M.wait i q w).1 = some v →
        O.Awaited i o a (.wait q) (.returned v) (M.wait i q w).2 s
          ∧ O.Awaited i o a (.wait q) .cancelled (M.wait i q w).2 s
  release : ∀ {i o a w s q}, O.sound w → O.Aware i o a w s → (O.regime o).mayAwait a (.wait q) →
    O.Moves i a w (M.release i q w).2
      ∧ O.Awaited i o a (.wait q) (.returned (M.release i q w).1) (M.release i q w).2 s
      ∧ O.Awaited i o a (.wait q) .cancelled (M.release i q w).2 s

/-! ### Single tasks -/

/-- A task between two turns knows enough to go on, on its side of the gate. -/
inductive Stands (w : M.State) (s : E.Store) (i : TaskId) (behind : Prop) : Task P → Prop
  | fresh {o : Origin P} {p : Bool} {c : Nat} (outside : ¬ behind)
      (aware : O.Aware i o O.start w s) : Stands w s i behind ⟨o, .fresh, p, c⟩
  | waiting {o : Origin P} {a : S} {q : Suspension E} {k : Exit q.Answer → Routine E o.Out}
      {p : Bool} {c : Nat} (obeys : O.Obeys o (.await q k) a) (side : O.inside a ↔ behind)
      (aware : O.Aware i o a w s) : Stands w s i behind ⟨o, .waiting q k, p, c⟩
  | ready {o : Origin P} {a : S} {q : Suspension E} {x : Exit q.Answer}
      {k : Exit q.Answer → Routine E o.Out} {p : Bool} {c : Nat} (obeys : O.Obeys o (.await q k) a)
      (side : O.inside a ↔ behind) (apart : ¬ q.Grants O.gate x) (told : O.Awaited i o a q x w s)
      (stopped : O.Awaited i o a q .cancelled w s) : Stands w s i behind ⟨o, .ready q x k, p, c⟩
  /-- A place behind the gate is there already. -/
  | admitted {o : Origin P} {a : S} {k : Exit (Suspension.enter O.gate).Answer → Routine E o.Out}
      {p : Bool} {c : Nat}
      (obeys : O.Obeys o (.await (.enter O.gate) k) a) (holds : behind)
      (aware : O.Aware i o a w s) :
      Stands w s i behind ⟨o, .ready (.enter O.gate) (.returned ()) k, p, c⟩
  | ended {o : Origin P} {a : S} {x : Exit o.Out} {p : Bool} {c : Nat} (outside : ¬ behind)
      (apart : ¬ O.inside a) (aware : O.Aware i o a w s) : Stands w s i behind ⟨o, .ended x, p, c⟩

variable {O} {w w' : M.State} {s s' : E.Store} {i : TaskId} {o : Origin P} {a : S}
  {behind behind' : Prop} {t t' : Task P}

/-- How it is said who is behind the gate does not matter. -/
lemma Stands.congr (stands : O.Stands w s i behind t) (same : behind ↔ behind') :
    O.Stands w s i behind' t := by
  rwa [← propext same]

/-- Every task knows something. -/
lemma Stands.aware (stands : O.Stands w s i behind t) : ∃ a, O.Aware i t.origin a w s := by
  cases stands with
  | fresh _ aware => exact ⟨_, aware⟩
  | waiting _ _ aware => exact ⟨_, aware⟩
  | ready _ _ _ told _ =>
      obtain ⟨b, -, -, aware⟩ := told
      exact ⟨b, aware⟩
  | admitted _ _ aware => exact ⟨_, aware⟩
  | ended _ _ aware => exact ⟨_, aware⟩

/-- What turns make of the record leaves a task aware … -/
lemma Aware.forward (holds : O.Holds) (aware : O.Aware i o a w s) (more : O.forward s s') :
    O.Aware i o a w s' :=
  ⟨aware.knows, holds.forward more aware.sees⟩

/-- … and a reply the same news. -/
lemma Awaited.forward (holds : O.Holds) {q : Suspension E} {x : Exit q.Answer}
    (awaited : O.Awaited i o a q x w s) (more : O.forward s s') : O.Awaited i o a q x w s' := by
  obtain ⟨b, here, side, aware⟩ := awaited
  exact ⟨b, here, side, aware.forward holds more⟩

/-- What turns make of the record is no surprise to a task. -/
lemma Stands.forward (holds : O.Holds) (stands : O.Stands w s i behind t) (more : O.forward s s') :
    O.Stands w s' i behind t := by
  cases stands with
  | fresh outside aware => exact .fresh outside (aware.forward holds more)
  | waiting obeys side aware => exact .waiting obeys side (aware.forward holds more)
  | ready obeys side apart told stopped =>
      exact .ready obeys side apart (told.forward holds more) (stopped.forward holds more)
  | admitted obeys here aware => exact .admitted obeys here (aware.forward holds more)
  | ended outside apart aware => exact .ended outside apart (aware.forward holds more)

/-- A task outside, or one that is there while the other is not, goes on knowing what it knows. -/
lemma Stands.moves (holds : O.Holds) (stands : O.Stands w s i behind t) {j : TaskId} {c : S}
    (moves : O.Moves j c w w') (other : i ≠ j) (apart : ¬ (O.inside c ∧ behind)) :
    O.Stands w' s i behind t := by
  have knowing : ∀ {o b}, ¬ (O.inside c ∧ O.inside b) → O.Aware i o b w s → O.Aware i o b w' s :=
    fun clear aware => ⟨moves.others i _ _ other clear aware.knows, aware.sees⟩
  have awaiting : ∀ {o b q x}, ¬ (O.inside c ∧ O.inside b) → O.Awaited i o b q x w s →
      O.Awaited i o b q x w' s := by
    rintro o b q x clear ⟨b', here, side, aware⟩
    exact ⟨b', here, side, knowing (by rwa [side]) aware⟩
  cases stands with
  | fresh outside aware => exact .fresh outside (knowing (fun both => holds.outside both.2) aware)
  | waiting obeys side aware => exact .waiting obeys side (knowing (by rwa [side]) aware)
  | @ready _ a _ _ _ _ _ obeys side clear told stopped =>
      have free : ¬ (O.inside c ∧ O.inside a) := by rwa [side]
      exact .ready obeys side clear (awaiting free told) (awaiting free stopped)
  | admitted obeys here aware =>
      have outside := (holds.enter aware (Routine.obeys_await_iff.mp obeys).1).1
      exact .admitted obeys here (knowing (fun both => outside both.2) aware)
  | ended outside clear aware =>
      exact .ended outside clear (knowing (fun both => clear both.2) aware)

end Outline

/-! ## Tasks that do not take a turn -/

/-- What can happen to a task that does not take a turn and does not get behind the gate. -/
inductive Task.Stirred (g : E.Gate) : Task P → Task P → Prop
  | flags {o : Origin P} {f : Fiber E o.Out} {p p' : Bool} {c c' : Nat} :
      Stirred g ⟨o, f, p, c⟩ ⟨o, f, p', c'⟩
  | told {o : Origin P} {q : Suspension E} {x : Exit q.Answer}
      {k : Exit q.Answer → Routine E o.Out} {p p' : Bool} {c c' : Nat}
      (harmless : x = .cancelled ∨ q.Plain g) :
      Stirred g ⟨o, .waiting q k, p, c⟩ ⟨o, .ready q x k, p', c'⟩

/-- A task may be left as it is. -/
lemma Task.Stirred.refl (g : E.Gate) (t : Task P) : t.Stirred g t := .flags

/-- A task may be stirred twice. -/
lemma Task.Stirred.trans {g : E.Gate} {t t' t'' : Task P} (first : t.Stirred g t')
    (rest : t'.Stirred g t'') : t.Stirred g t'' := by
  cases first with
  | flags =>
      cases rest with
      | flags => exact .flags
      | told harmless => exact .told harmless
  | told harmless =>
      cases rest with
      | flags => exact .told harmless

/-- A reply stirs a task if it is a request to stop, or about something else than the gate. -/
lemma Task.stirred_answer {g : E.Gate} (t : Task P)
    {reply : (q : Suspension E) → Option (Exit q.Answer)}
    (harmless : ∀ q x, reply q = some x → x = .cancelled ∨ q.Plain g) :
    t.Stirred g (t.answer reply) := by
  obtain ⟨o, f, p, c⟩ := t
  unfold Task.answer
  cases f with
  | waiting q k =>
      cases told : reply q with
      | none =>
          simp only [told]
          exact .flags
      | some x =>
          simp only [told]
          exact .told (harmless q x told)
  | fresh => exact .flags
  | running => exact .flags
  | ready q x k => exact .flags
  | ended x => exact .flags

/-- A stirred task still stands where it stood. -/
lemma Outline.Stands.stirred {O : Outline P M S} (holds : O.Holds) {w : M.State} {s : E.Store}
    {i : TaskId} {behind : Prop} {t t' : Task P} (stands : O.Stands w s i behind t)
    (stirred : t.Stirred O.gate t') : O.Stands w s i behind t' := by
  cases stirred with
  | flags =>
      cases stands with
      | fresh outside aware => exact .fresh outside aware
      | waiting obeys side aware => exact .waiting obeys side aware
      | ready obeys side apart told stopped => exact .ready obeys side apart told stopped
      | admitted obeys here aware => exact .admitted obeys here aware
      | ended outside apart aware => exact .ended outside apart aware
  | @told o q x k p p' c c' harmless =>
      cases stands with
      | waiting obeys side aware =>
          have may := (Routine.obeys_await_iff.mp obeys).1
          have apart : ¬ q.Grants O.gate x := by
            rcases harmless with rfl | plain
            · exact q.not_grants_cancelled O.gate
            · exact plain.not_grants x
          exact .ready obeys side apart (holds.told aware may harmless)
            (holds.told aware may (.inl rfl))

namespace System

/-- The surroundings are the same, and so is who is behind the gate; tasks that are not busy are
stirred at most. -/
structure Stirs (g : E.Gate) (busy : Option TaskId) (sys sys' : System P M) : Prop where
  world : sys'.world = sys.world
  inside : (sys'.gates g).inside = (sys.gates g).inside
  length : sys'.tasks.length = sys.tasks.length
  each : ∀ (i : TaskId) (t : Task P), busy ≠ some i → sys.tasks[i]? = some t →
    ∃ t', sys'.tasks[i]? = some t' ∧ t.Stirred g t'

variable {g : E.Gate} {busy : Option TaskId}

/-- Nothing at all need happen. -/
lemma Stirs.refl (g : E.Gate) (busy : Option TaskId) (sys : System P M) : Stirs g busy sys sys :=
  ⟨rfl, rfl, rfl, fun _ t _ found => ⟨t, found, .refl g t⟩⟩

/-- What stirs tasks and then stirs them again stirs them. -/
lemma Stirs.trans {sys sys' sys'' : System P M} (first : Stirs g busy sys sys')
    (rest : Stirs g busy sys' sys'') : Stirs g busy sys sys'' where
  world := rest.world.trans first.world
  inside := rest.inside.trans first.inside
  length := rest.length.trans first.length
  each i t idle found := by
    obtain ⟨t', found', stirred⟩ := first.each i t idle found
    obtain ⟨t'', found'', stirred'⟩ := rest.each i t' idle found'
    exact ⟨t'', found'', stirred.trans stirred'⟩

/-- A change of one task. -/
lemma stirs_update (sys : System P M) (u : TaskId) {f : Task P → Task P}
    (stirred : busy ≠ some u → ∀ t : Task P, sys.tasks[u]? = some t → t.Stirred g (f t)) :
    Stirs g busy sys (sys.update u f) where
  world := rfl
  inside := rfl
  length := List.length_modify _ _ _
  each i t idle found := by
    by_cases here : u = i
    · subst here
      refine ⟨f t, ?_, stirred idle t found⟩
      rw [update, List.getElem?_modify_eq, found]
      rfl
    · refine ⟨t, ?_, .refl g t⟩
      rw [update, List.getElem?_modify_ne _ _ here, found]

/-- The busy task may change in any way. -/
lemma stirs_update_busy (sys : System P M) (u : TaskId) (f : Task P → Task P) :
    Stirs g (some u) sys (sys.update u f) :=
  sys.stirs_update u fun idle => absurd rfl idle

/-- Putting a task in the line for a turn stirs nobody. -/
lemma stirs_enqueue (sys : System P M) (u : TaskId) : Stirs g busy sys (sys.enqueue u) :=
  ⟨rfl, rfl, rfl, fun _ t _ found => ⟨t, found, .refl g t⟩⟩

variable [DecidableEq E.Gate]

/-- A change of the line before a gate. -/
lemma stirs_setGate (sys : System P M) (h : E.Gate) {state : GateState}
    (same : h = g → state.inside = (sys.gates h).inside) :
    Stirs g busy sys (sys.setGate h state) where
  world := rfl
  inside := by
    simp only [setGate]
    split
    · rename_i here
      rw [same here.symm, here]
    · rfl
  length := rfl
  each _ t _ found := ⟨t, found, .refl g t⟩

/-- Leaving a gate does nothing to the surroundings. -/
lemma world_leave (sys : System P M) (h : E.Gate) : (sys.leave h).world = sys.world := by
  unfold leave
  dsimp only
  split <;> rfl

/-- A place behind another gate is given up. -/
lemma stirs_leave (sys : System P M) {h : E.Gate} (apart : h ≠ g) :
    Stirs g busy sys (sys.leave h) := by
  unfold leave
  dsimp only
  split
  · exact sys.stirs_setGate h fun same => absurd same apart
  · rename_i t rest _
    refine ((sys.stirs_setGate h fun same => absurd same apart).trans
      (stirs_update _ t fun _ task _ => task.stirred_answer fun q x told => ?_)).trans
        (stirs_enqueue _ t)
    cases q with
    | wait w => cases told
    | enter h' =>
        have same : h' = h := by
          by_contra other
          simp [admitted, other] at told
        exact .inr fun here => apart (same.symm.trans here)
    | join j u => cases told
    | watch j u => cases told

/-- A reply that does not come from the gate is handed on without opening it. -/
lemma stirs_passedOn (sys : System P M) {q : Suspension E} {x : Exit q.Answer}
    (apart : ¬ q.Grants g x) : Stirs g busy sys (sys.passedOn q x) := by
  unfold passedOn
  split
  · exact sys.stirs_leave apart
  · exact .refl g busy sys

/-- Interrupting a task stirs it and nobody else. -/
lemma stirs_interrupt (sys : System P M) (t : TaskId) (q : Suspension E) :
    Stirs g busy sys (sys.interrupt t q) := by
  have withdraws : Stirs g busy sys (sys.withdraw t q) := by
    cases q with
    | enter h => exact sys.stirs_setGate h fun _ => rfl
    | wait w => exact .refl g busy sys
    | join j u => exact .refl g busy sys
    | watch j u => exact .refl g busy sys
  refine (withdraws.trans (stirs_update _ t fun _ task _ => task.stirred_answer ?_)).trans
    (stirs_enqueue _ t)
  intro q x told
  cases told
  exact .inl rfl

/-- **A request to stop stirs at most.** -/
lemma stirs : BearsStops (Stirs (P := P) (M := M) g busy) where
  refl := .refl g busy
  trans := .trans
  pass _ := stirs_update _ _ fun _ _ _ => .flags
  interrupt _ _ := (stirs_update _ _ fun _ _ _ => .flags).trans (stirs_interrupt _ _ _)
  mark _ _ := (stirs_update _ _ fun _ _ _ => .flags).trans
    (stirs_update _ _ fun _ _ _ => .flags)

variable [DecidableEq E.Job]

omit [DecidableEq E.Gate] in
/-- The end of a task, told to everyone who waits for it. -/
lemma stirs_announce (sys : System P M) (t : TaskId) (ended : Task P) :
    Stirs g busy sys (sys.announce t ended) where
  world := rfl
  inside := rfl
  length := List.length_map _
  each i task _ found := by
    refine ⟨task.answer (exitFor? ended t), ?_, task.stirred_answer fun q x told => ?_⟩
    · rw [announce, List.getElem?_map, found]
      rfl
    · cases q with
      | wait w => cases told
      | enter h => cases told
      | join j u => exact .inr trivial
      | watch j u => exact .inr trivial

omit [DecidableEq E.Gate] in
/-- The end of a task stirs no more than those who wait for it. -/
lemma stirs_finish (sys : System P M) (t : TaskId) (o : Origin P) (x : Exit o.Out) :
    Stirs g (some t) sys (sys.finish t o x) :=
  (sys.stirs_update_busy t _).trans (stirs_announce _ t _)

end System

end Montage
