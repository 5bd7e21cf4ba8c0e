import Mathlib.Tactic.Common
import Montage.Proofs.Routine.Record
import Montage.Proofs.Routine.Upkeep

/-!
# Custody

Something that many tasks share is used behind a gate only, and each task passes the gate once.  So
from its first use on it belongs to the task alone, and what the task knows about it stays true
until the task itself changes it.

* `Custody` — what is used, and what can be known about it; `Custody.Respected` — what is relied on.
* `Custody.Phase` — before, behind and after the gate; `Custody.regime` — what a task may do in
  each.
* `Custody.outline` — what the tasks know of the record of all that was done.
* **`Custody.follow`** — **whatever the schedule, nobody is disturbed**, and all that was done was
  permitted.
-/

namespace Montage

variable {E : Interface} {P : Program E} {M : Machine E} {σ : Type}

/-- What only one task at a time may use: the gate it is behind, what counts as using it, what it
looks like and when it may be used.  `Respected` says that all keep to it. -/
structure Custody (P : Program E) (M : Machine E) (σ : Type) where
  gate : E.Gate
  usesAct : E.Act → Prop
  usesWait : E.Wait → Prop
  /-- What can be known about it. -/
  view : M.State → σ
  /-- What was known is still so. -/
  keeps : σ → σ → Prop
  /-- What is known after a use that takes time. -/
  waits : σ → (q : E.Wait) → E.Ans q → σ → Prop
  /-- What turns may make of the record that all share. -/
  forward : E.Store → E.Store → Prop
  /-- What may be done to it, if this is known. -/
  permits : Origin P → σ → E.Act → Prop
  /-- What the surroundings are like at any time. -/
  sane : M.State → Prop

/-- Where a task is with respect to the gate, and what it knows there: about what it uses, and about
the record. -/
inductive Custody.Phase (σ τ : Type) where
  | before
  | inside (u : σ) (s : τ)
  | after

namespace Custody

variable (K : Custody P M σ)

/-- What is known after the reply to a wait. -/
structure Answers (u : σ) (q : E.Wait) (v : E.Ans q) (u' : σ) : Prop where
  used : K.usesWait q → K.waits u q v u'
  unused : ¬ K.usesWait q → K.keeps u u'

/-- Who comes to the gate has used nothing; behind it nothing is forbidden but what is not
permitted; and after it nothing is done any more. -/
def regime (o : Origin P) : Regime E (Phase σ E.Store) where
  mayAsk
    | .before, .act a => ¬ K.usesAct a
    | .inside u _, .act a => K.usesAct a → ∀ u', K.keeps u u' → K.permits o u' a
    | .after, .act _ => False
    | .inside .., .set _ => False
    | .before, .leave g => g ≠ K.gate
    | .after, .leave g => g ≠ K.gate
    | _, _ => True
  asked
    | .inside u s, .act a, _, p => (K.usesAct a ∧ ∃ u', p = .inside u' s)
        ∨ (¬ K.usesAct a ∧ p = .inside u s)
    | .inside u s, .get, v, p => K.forward s v ∧ p = .inside u v
    | .inside u s, .leave g, _, p => (g = K.gate ∧ p = .after) ∨ (g ≠ K.gate ∧ p = .inside u s)
    | p, _, _, p' => p' = p
  mayAwait
    | .before, .wait q => ¬ K.usesWait q
    | .after, .wait _ => False
    | .inside .., .enter g => g ≠ K.gate
    | .after, .enter g => g ≠ K.gate
    | _, _ => True
  awaited
    | .inside u s, .wait q, .returned v, p => ∃ u', p = .inside u' s ∧ K.Answers u q v u'
    | .inside u s, .wait q, _, p => ∃ u', p = .inside u' s ∧ (¬ K.usesWait q → K.keeps u u')
    | .before, .enter g, .returned _, p => (g = K.gate ∧ ∃ u s, p = .inside u s)
        ∨ (g ≠ K.gate ∧ p = .before)
    | p, _, _, p' => p' = p

/-- Behind the gate. -/
def IsInside {σ τ : Type} : Phase σ τ → Prop
  | .inside .. => True
  | _ => False

/-- What is relied on: idle moves change nothing that is known, others what they say; and all
routines keep to the regime. -/
structure Respected : Prop where
  alone : P.capacity K.gate = 1
  keeps_refl : ∀ u, K.keeps u u
  keeps_trans : ∀ {u u' u''}, K.keeps u u' → K.keeps u' u'' → K.keeps u u''
  forward_refl : ∀ s, K.forward s s
  forward_trans : ∀ {s s' s''}, K.forward s s' → K.forward s' s'' → K.forward s s''
  waits_of_keeps : ∀ {u u' q v u''}, K.keeps u u' → K.waits u' q v u'' → K.waits u q v u''
  act : ∀ {i a w}, K.sane w → K.sane (M.act i a w).2
    ∧ (¬ K.usesAct a → K.keeps (K.view w) (K.view (M.act i a w).2))
  wait : ∀ {i q w}, K.sane w → K.sane (M.wait i q w).2
    ∧ ((M.wait i q w).1 = none → K.keeps (K.view w) (K.view (M.wait i q w).2))
    ∧ ∀ v, (M.wait i q w).1 = some v → K.Answers (K.view w) q v (K.view (M.wait i q w).2)
  release : ∀ {i q w}, K.sane w → K.sane (M.release i q w).2
    ∧ K.Answers (K.view w) q (M.release i q w).1 (K.view (M.release i q w).2)
  routine : ∀ o : Origin P, o.routine.Obeys (K.regime o) (fun p _ => ¬ IsInside p) .before

/-! ## What tasks know of the record -/

/-- Whether a move is a use. -/
def uses : Move E → Prop
  | .act a => K.usesAct a
  | .begin q => K.usesWait q
  | .finish q => K.usesWait q

/-- All that a task did was permitted, given what things looked like when it did it. -/
def Permitted (i : TaskId) (o : Origin P) (record : List (Entry M)) : Prop :=
  ∀ e ∈ record, e.task = i → ∀ a, e.move = .act a → K.usesAct a → K.permits o (K.view e.before) a

/-- What a task knows of the surroundings and of what was done to them. -/
def Knows (i : TaskId) : Phase σ E.Store → M.State × List (Entry M) → Prop
  | .before, w => ∀ e ∈ w.2, e.task = i → ¬ K.uses e.move
  | .inside u _, w => K.keeps u (K.view w.1) ∧ Untouched K.uses i w.2
  | .after, _ => True

/-- What the tasks know of the record of all that was done. -/
def outline : Outline P M.recording (Phase σ E.Store) where
  gate := K.gate
  regime := K.regime
  start := .before
  inside := IsInside
  knows i o p w := K.Permitted i o w.2 ∧ K.Knows i p w
  sees
    | .inside _ s, s' => K.forward s s'
    | _, _ => True
  forward := K.forward
  sound w := K.sane w.1 ∧ Undisturbed K.uses w.2

variable {K} {i j : TaskId} {o : Origin P} {p p' : Phase σ E.Store} {m : Move E}
  {w w' : M.State} {record : List (Entry M)}

/-- What a task may do where it is. -/
def Allows (K : Custody P M σ) (m : Move E) : Phase σ E.Store → Prop
  | .before => ¬ K.uses m
  | .inside .. => True
  | .after => False

/-! ### One more entry -/

lemma Permitted.concat (before : K.Permitted i o record)
    (permits : ∀ a, m = .act a → K.usesAct a → K.permits o (K.view w) a) :
    K.Permitted i o (record ++ [⟨i, m, w⟩]) := by
  intro e among own a same uses
  rcases List.mem_append.mp among with old | new
  · exact before e old own a same uses
  · rw [List.mem_singleton.mp new] at same ⊢
    exact permits a same uses

lemma Permitted.concat_other (before : K.Permitted j o record) (other : j ≠ i) :
    K.Permitted j o (record ++ [⟨i, m, w⟩]) := by
  intro e among own
  rcases List.mem_append.mp among with old | new
  · exact before e old own
  · rw [List.mem_singleton.mp new] at own
    exact absurd own.symm other

lemma knows_before_concat (known : K.Knows i .before (w, record)) (clear : i = j → ¬ K.uses m) :
    K.Knows i .before (w', record ++ [⟨j, m, w⟩]) := by
  intro e among own
  rcases List.mem_append.mp among with old | new
  · exact known e old own
  · rw [List.mem_singleton.mp new] at own ⊢
    exact clear own.symm

/-- Who has used nothing has not been disturbed. -/
lemma untouched_of_before (known : K.Knows i .before (w, record)) : Untouched K.uses i record := by
  intro a d found uses _ own
  exact absurd uses (known a (found.subset List.mem_cons_self) own)

/-- Nobody has been disturbed who could do something. -/
lemma untouched_of_allows (known : K.Knows i p (w, record)) (allows : K.Allows m p) :
    Untouched K.uses i record := by
  cases p with
  | before => exact untouched_of_before known
  | inside u s => exact known.2
  | after => cases allows

/-- What a task does disturbs nobody. -/
lemma moves_concat (respected : K.Respected) (sound : K.outline.sound (w, record))
    (known : K.Knows i p (w, record)) (allows : K.Allows m p) (sane : K.sane w')
    (idle : ¬ K.uses m → K.keeps (K.view w) (K.view w')) :
    K.outline.Moves i p (w, record) (w', record ++ [⟨i, m, w⟩]) := by
  refine ⟨⟨sane, sound.2.concat (untouched_of_allows known allows)⟩, ?_⟩
  rintro j o p' other apart ⟨permitted, theirs⟩
  refine ⟨permitted.concat_other other, ?_⟩
  cases p' with
  | before => exact knows_before_concat theirs fun same => absurd same other
  | after => trivial
  | inside u s =>
      -- only one of the two is behind the gate
      have unused : ¬ K.uses m := by
        cases p with
        | before => exact allows
        | inside u' s' => exact absurd ⟨trivial, trivial⟩ apart
        | after => cases allows
      exact ⟨respected.keeps_trans theirs.1 (idle unused),
        theirs.2.concat fun uses => absurd uses unused⟩

/-- A task that goes on behind the gate. -/
lemma aware_inside {u : σ} {s s' : E.Store}
    (permitted : K.Permitted i o record) (untouched : Untouched K.uses i record)
    (permits : ∀ a, m = .act a → K.usesAct a → K.permits o (K.view w) a)
    (keeps : K.keeps u (K.view w')) (sees : K.forward s s') :
    K.outline.Aware i o (.inside u s) (w', record ++ [⟨i, m, w⟩]) s' :=
  ⟨⟨permitted.concat permits, keeps, untouched.concat fun _ => rfl⟩, sees⟩

/-! ## The outline -/

lemma outline_act (respected : K.Respected) {w : M.State × List (Entry M)} {s : E.Store} {e : E.Act}
    (sound : K.outline.sound w) (aware : K.outline.Aware i o p w s)
    (may : (K.regime o).mayAsk p (.act e)) :
    K.outline.Moves i p w (M.recording.act i e w).2
      ∧ K.outline.Asked i o p (.act e) (M.recording.act i e w).1 (M.recording.act i e w).2 s := by
  obtain ⟨w, record⟩ := w
  obtain ⟨⟨permitted, known⟩, sees⟩ := aware
  obtain ⟨sane, idle⟩ := respected.act (i := i) (a := e) sound.1
  have moves := fun allows => moves_concat (m := .act e) respected sound known allows sane idle
  cases p with
  | after => cases may
  | before =>
      refine ⟨moves may, .before, rfl, .rfl, ⟨permitted.concat ?_, ?_⟩, trivial⟩
      · rintro a ⟨⟩ uses
        exact absurd uses may
      · exact knows_before_concat known fun _ => may
  | inside u s' =>
      have permits : ∀ a, Move.act e = .act a → K.usesAct a → K.permits o (K.view w) a := by
        rintro a ⟨⟩ uses
        exact may uses _ known.1
      by_cases uses : K.usesAct e
      · exact ⟨moves trivial, .inside (K.view (M.act i e w).2) s', .inl ⟨uses, _, rfl⟩, .rfl,
          aware_inside permitted known.2 permits (respected.keeps_refl _) sees⟩
      · exact ⟨moves trivial, .inside u s', .inr ⟨uses, rfl⟩, .rfl,
          aware_inside permitted known.2 permits
            (respected.keeps_trans known.1 (idle uses)) sees⟩

lemma outline_plain (respected : K.Respected) {w : M.State × List (Entry M)} {s : E.Store}
    {q : Request E} {v : q.Reply} (aware : K.outline.Aware i o p w s)
    (may : (K.regime o).mayAsk p q) (plain : q.Plain K.gate) (tells : q.Tells id s v) :
    K.outline.Asked i o p q v w (q.leaves id s) := by
  have stays : (K.regime o).asked p q v p → (q.leaves id s = s ∨ ¬ IsInside p) →
      K.outline.Asked i o p q v w (q.leaves id s) := by
    intro asked same
    refine ⟨p, asked, .rfl, aware.knows, ?_⟩
    rcases same with same | outside
    · rw [same]
      exact aware.sees
    · cases p with
      | before => trivial
      | inside u s' => exact absurd trivial outside
      | after => trivial
  cases p with
  | before => cases q <;> exact stays rfl (.inr id)
  | after => cases q <;> exact stays rfl (.inr id)
  | inside u s' =>
      cases q with
      | act e => cases plain
      | set t => cases may
      | get =>
          have same : v = s := tells
          subst same
          exact ⟨.inside u v, ⟨aware.sees, rfl⟩, .rfl, aware.knows, respected.forward_refl v⟩
      | leave g => exact stays (.inr ⟨plain, rfl⟩) (.inl rfl)
      | start j => exact stays rfl (.inl rfl)
      | cancel t => exact stays rfl (.inl rfl)
      | cancelling => exact stays rfl (.inl rfl)

lemma outline_leave {w : M.State × List (Entry M)} {s : E.Store}
    (aware : K.outline.Aware i o p w s) (may : (K.regime o).mayAsk p (.leave K.gate)) :
    IsInside p ∧ ∃ p', (K.regime o).asked p (.leave K.gate) () p' ∧ ¬ IsInside p'
      ∧ K.outline.Aware i o p' w s := by
  cases p with
  | before => exact absurd rfl may
  | after => exact absurd rfl may
  | inside u s' =>
      exact ⟨trivial, .after, .inl ⟨rfl, rfl⟩, id, ⟨aware.knows.1, trivial⟩, trivial⟩

lemma outline_enter (respected : K.Respected) {w : M.State × List (Entry M)} {s : E.Store}
    (aware : K.outline.Aware i o p w s) (may : (K.regime o).mayAwait p (.enter K.gate)) :
    ¬ IsInside p ∧ ∃ p', (K.regime o).awaited p (.enter K.gate) (.returned ()) p' ∧ IsInside p'
      ∧ K.outline.Aware i o p' w s := by
  cases p with
  | after => exact absurd rfl may
  | inside u s' => exact absurd rfl may
  | before =>
      obtain ⟨permitted, known⟩ := aware.knows
      exact ⟨id, .inside (K.view w.1) s, .inl ⟨rfl, _, _, rfl⟩, trivial,
        ⟨permitted, respected.keeps_refl _, untouched_of_before known⟩, respected.forward_refl s⟩

lemma outline_told (respected : K.Respected) {w : M.State × List (Entry M)} {s : E.Store}
    {q : Suspension E}
    {x : Exit q.Answer} (aware : K.outline.Aware i o p w s) (may : (K.regime o).mayAwait p q)
    (harmless : x = .cancelled ∨ q.Plain K.gate) : K.outline.Awaited i o p q x w s := by
  have stays : (K.regime o).awaited p q x p → K.outline.Awaited i o p q x w s :=
    fun awaited => ⟨p, awaited, .rfl, aware⟩
  cases p with
  | after => exact stays rfl
  | before =>
      cases q with
      | wait q => exact stays rfl
      | join j u => exact stays rfl
      | watch j u => exact stays rfl
      | enter g =>
          cases x with
          | failed e => exact stays rfl
          | cancelled => exact stays rfl
          | returned u =>
              have other : g ≠ K.gate := harmless.resolve_left nofun
              exact stays (.inr ⟨other, rfl⟩)
  | inside u s' =>
      cases q with
      | enter g => exact stays rfl
      | join j t => exact stays rfl
      | watch j t => exact stays rfl
      | wait q =>
          rcases harmless with rfl | plain
          · exact stays ⟨u, rfl, fun _ => respected.keeps_refl u⟩
          · cases plain

/-- Where a task goes on after a wait, seen or not. -/
lemma outline_answered (respected : K.Respected) {s : E.Store} {q : E.Wait} {v : E.Ans q}
    (aware : K.outline.Aware i o p (w, record) s) (may : (K.regime o).mayAwait p (.wait q))
    (answers : K.Answers (K.view w) q v (K.view w')) (unacted : ∀ a, m ≠ .act a)
    (used : K.uses m ↔ K.usesWait q) :
    K.outline.Awaited i o p (.wait q) (.returned v) (w', record ++ [⟨i, m, w⟩]) s
      ∧ K.outline.Awaited i o p (.wait q) .cancelled (w', record ++ [⟨i, m, w⟩]) s := by
  obtain ⟨⟨permitted, known⟩, sees⟩ := aware
  have permits : ∀ a, m = .act a → K.usesAct a → K.permits o (K.view w) a :=
    fun a same => absurd same (unacted a)
  cases p with
  | after => cases may
  | before =>
      have next : K.outline.Aware i o .before (w', record ++ [⟨i, m, w⟩]) s :=
        ⟨⟨permitted.concat permits, knows_before_concat known fun _ => used.not.mpr may⟩, trivial⟩
      exact ⟨⟨.before, rfl, .rfl, next⟩, .before, rfl, .rfl, next⟩
  | inside u s' =>
      have next : K.outline.Aware i o (.inside (K.view w') s') (w', record ++ [⟨i, m, w⟩]) s :=
        aware_inside permitted known.2 permits (respected.keeps_refl _) sees
      have answers' : K.Answers u q v (K.view w') :=
        ⟨fun uses => respected.waits_of_keeps known.1 (answers.used uses),
          fun unused => respected.keeps_trans known.1 (answers.unused unused)⟩
      exact ⟨⟨.inside (K.view w') s', ⟨_, rfl, answers'⟩, .rfl, next⟩,
        .inside (K.view w') s', ⟨_, rfl, answers'.unused⟩, .rfl, next⟩

lemma outline_wait (respected : K.Respected) {w : M.State × List (Entry M)} {s : E.Store}
    {q : E.Wait} (sound : K.outline.sound w) (aware : K.outline.Aware i o p w s)
    (may : (K.regime o).mayAwait p (.wait q)) :
    K.outline.Moves i p w (M.recording.wait i q w).2
      ∧ ((M.recording.wait i q w).1 = none → K.outline.Aware i o p (M.recording.wait i q w).2 s)
      ∧ ∀ v, (M.recording.wait i q w).1 = some v →
        K.outline.Awaited i o p (.wait q) (.returned v) (M.recording.wait i q w).2 s
          ∧ K.outline.Awaited i o p (.wait q) .cancelled (M.recording.wait i q w).2 s := by
  obtain ⟨w, record⟩ := w
  obtain ⟨sane, held, answered⟩ := respected.wait (i := i) (q := q) sound.1
  have allows : K.Allows (.begin q) p := by
    cases p with
    | before => exact may
    | inside u s => trivial
    | after => cases may
  have idle : ¬ K.uses (.begin q) → K.keeps (K.view w) (K.view (M.wait i q w).2) := by
    intro unused
    cases reply : (M.wait i q w).1 with
    | none => exact held reply
    | some v => exact (answered v reply).unused unused
  refine ⟨moves_concat respected sound aware.knows.2 allows sane idle, fun unanswered => ?_,
    fun v reply => outline_answered respected aware may (answered v reply) nofun .rfl⟩
  obtain ⟨⟨permitted, known⟩, sees⟩ := aware
  cases p with
  | after => cases may
  | before =>
      exact ⟨⟨permitted.concat nofun, knows_before_concat known fun _ => may⟩, trivial⟩
  | inside u s' =>
      exact aware_inside permitted known.2 nofun
        (respected.keeps_trans known.1 (held unanswered)) sees

lemma outline_release (respected : K.Respected) {w : M.State × List (Entry M)} {s : E.Store}
    {q : E.Wait} (sound : K.outline.sound w) (aware : K.outline.Aware i o p w s)
    (may : (K.regime o).mayAwait p (.wait q)) :
    K.outline.Moves i p w (M.recording.release i q w).2
      ∧ K.outline.Awaited i o p (.wait q) (.returned (M.recording.release i q w).1)
        (M.recording.release i q w).2 s
      ∧ K.outline.Awaited i o p (.wait q) .cancelled (M.recording.release i q w).2 s := by
  obtain ⟨w, record⟩ := w
  obtain ⟨sane, answers⟩ := respected.release (i := i) (q := q) sound.1
  have allows : K.Allows (.finish q) p := by
    cases p with
    | before => exact may
    | inside u s => trivial
    | after => cases may
  exact ⟨moves_concat respected sound aware.knows.2 allows sane answers.unused,
    outline_answered respected aware may answers nofun .rfl⟩

/-- The outline holds. -/
lemma Respected.holds (respected : K.Respected) : K.outline.Holds where
  alone := respected.alone
  outside := id
  blank _ := trivial
  routine := respected.routine
  forward := by
    intro p s s' more sees
    cases p with
    | inside u t => exact respected.forward_trans sees more
    | before => trivial
    | after => trivial
  act := outline_act respected
  plain := outline_plain respected
  leave := outline_leave
  enter := outline_enter respected
  told := outline_told respected
  wait := outline_wait respected
  release := outline_release respected

/-! ## Schedules -/

variable [DecidableEq E.Gate] [DecidableEq E.Job] {sys : System P M.recording}

/-- **Whatever the schedule, nobody is disturbed**, if the record goes the way it may; and all that
was done was permitted. -/
theorem Respected.follow (respected : K.Respected) (nobody : sys.tasks = [])
    (blank : sys.world.2 = []) (sane : K.sane sys.world.1) (schedule : List (Choice P))
    (more : ∀ first choice rest, schedule = first ++ choice :: rest →
      K.forward (sys.follow first).store ((sys.follow first).apply choice).store) :
    Undisturbed K.uses (sys.follow schedule).world.2
      ∧ ∀ (i : TaskId) (t : Task P), (sys.follow schedule).tasks[i]? = some t →
        K.Permitted i t.origin (sys.follow schedule).world.2 := by
  have undisturbed : K.outline.sound sys.world := by
    refine ⟨sane, ?_⟩
    rw [blank]
    exact fun a d b found => absurd found (by simp)
  have unused : ∀ i o, K.outline.knows i o .before sys.world := by
    intro i o
    refine ⟨fun e among => ?_, fun e among => ?_⟩
    · rw [blank] at among
      cases among
    · rw [blank] at among
      cases among
  obtain ⟨holder, kept⟩ :=
    (Outline.kept_nobody nobody undisturbed unused).follow respected.holds schedule more
  refine ⟨kept.sound.2, fun i t found => ?_⟩
  obtain ⟨p, aware⟩ := (kept.tasks i t nofun found).aware
  exact aware.knows.1

end Custody

end Montage
