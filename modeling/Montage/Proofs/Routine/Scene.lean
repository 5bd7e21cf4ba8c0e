import Mathlib.Logic.Relation
import Mathlib.Tactic.Common
import Montage.Routine.Notes
import Montage.Routine.System

/-!
# A routine alone with its surroundings

Most of what a routine does it does without regard to others.  A scene is a routine with what is
around it and nobody else; it goes on step by step, and each step answers one question.

* `Scene`, `Scene.Step`, `Scene.Reaches` — the steps, and any number of them.
* `Scene.Reaches.handle`, `Scene.Reaches.bind` — **a part of a routine goes on as it would alone**.
* `Scene.Reaches.lift`, `Scene.Reaches.relay`, `Scene.Reaches.gather` — notes make no difference.
* **`Scene.Reaches.follow`** — what a scene reaches, a system reaches by some schedule.
-/

namespace Montage

/-! ## Scenes -/

section Scenes

variable {E : Interface} {α β : Type}

/-- A routine and what is around it: the surroundings, the record and the gates, as one task sees
them that has no others beside it. -/
structure Scene (M : Machine E) (α : Type) where
  world : M.State
  store : E.Store
  /-- How many are behind each gate. -/
  inside : E.Gate → Nat
  routine : Routine E α

namespace Scene

variable [DecidableEq E.Gate] {M : Machine E}

/-- One more behind a gate. -/
def occupy (inside : E.Gate → Nat) (g : E.Gate) : E.Gate → Nat :=
  fun h => if h = g then inside g + 1 else inside h

/-- One less behind a gate. -/
def vacate (inside : E.Gate → Nat) (g : E.Gate) : E.Gate → Nat :=
  fun h => if h = g then inside g - 1 else inside h

/-- One answer, in the surroundings of a machine whose gates let so many in.  What is held is
released; questions about other tasks have no answer here. -/
inductive Step (M : Machine E) (capacity : E.Gate → Nat) : Scene M α → Scene M α → Prop
  | act {w s i a k} : Step M capacity ⟨w, s, i, .ask (.act a) k⟩
      ⟨(M.act 0 a w).2, s, i, k (M.act 0 a w).1⟩
  | get {w s i k} : Step M capacity ⟨w, s, i, .ask .get k⟩ ⟨w, s, i, k s⟩
  | set {w s i t k} : Step M capacity ⟨w, s, i, .ask (.set t) k⟩ ⟨w, t, i, k ()⟩
  | leave {w s i g k} : Step M capacity ⟨w, s, i, .ask (.leave g) k⟩ ⟨w, s, vacate i g, k ()⟩
  | enter {w s i g k} (free : i g < capacity g) :
      Step M capacity ⟨w, s, i, .await (.enter g) k⟩ ⟨w, s, occupy i g, k (.returned ())⟩
  | wait {w s i q k v w'} (answered : M.wait 0 q w = (some v, w')) :
      Step M capacity ⟨w, s, i, .await (.wait q) k⟩ ⟨w', s, i, k (.returned v)⟩
  | release {w s i q k w'} (held : M.wait 0 q w = (none, w')) :
      Step M capacity ⟨w, s, i, .await (.wait q) k⟩
        ⟨(M.release 0 q w').2, s, i, k (.returned (M.release 0 q w').1)⟩

/-- Any number of answers. -/
def Reaches (M : Machine E) (capacity : E.Gate → Nat) : Scene M α → Scene M α → Prop :=
  Relation.ReflTransGen (Step M capacity)

variable {capacity : E.Gate → Nat}

/-! ### Parts of routines -/

/-- A scene whose routine goes on with something else. -/
def handle (c : Scene M α) (f : Exit α → Routine E β) : Scene M β :=
  ⟨c.world, c.store, c.inside, c.routine.handle f⟩

lemma Step.handle {c d : Scene M α} (h : Step M capacity c d) (f : Exit α → Routine E β) :
    Step M capacity (c.handle f) (d.handle f) := by
  cases h with
  | act => exact .act
  | get => exact .get
  | set => exact .set
  | leave => exact .leave
  | enter free => exact .enter free
  | wait answered => exact .wait answered
  | release held => exact .release held

/-- **A part of a routine goes on as it would alone.** -/
lemma Reaches.handle {c d : Scene M α} (h : Reaches M capacity c d) (f : Exit α → Routine E β) :
    Reaches M capacity (c.handle f) (d.handle f) :=
  Relation.ReflTransGen.lift (Scene.handle · f) (fun _ _ step => Step.handle step f) _ _ h

/-- A part that comes to a value, and what follows. -/
lemma Reaches.bind {w w' : M.State} {s s' : E.Store} {i i' : E.Gate → Nat} {r : Routine E α} {a : α}
    (h : Reaches M capacity ⟨w, s, i, r⟩ ⟨w', s', i', .done (.returned a)⟩)
    {f : α → Routine E β} {d : Scene M β}
    (rest : Reaches M capacity ⟨w', s', i', f a⟩ d) :
    Reaches M capacity ⟨w, s, i, r.bind f⟩ d :=
  (h.handle fun x => Routine.stopWith x f).trans rest

end Scene

end Scenes

/-! ## Notes -/

section Notes

variable {E : Interface} {N N' α : Type}

/-- Surroundings that take notes without a reply. -/
def Machine.noting (N : Type) (M : Machine E) : Machine (E.noting N) where
  State := M.State
  act t a w :=
    match a with
    | .inl _ => ((), w)
    | .inr a => M.act t a w
  wait := M.wait
  release := M.release

namespace Scene

variable [DecidableEq E.Gate] {M : Machine E} {capacity : E.Gate → Nat}

instance : DecidableEq (E.noting N).Gate := inferInstanceAs (DecidableEq E.Gate)

/-- The same scene where notes could be made. -/
def lift (N : Type) (c : Scene M α) : Scene (M.noting N) α :=
  ⟨c.world, c.store, c.inside, c.routine.lift⟩

lemma Reaches.lift {c d : Scene M α} (h : Reaches M capacity c d) (N : Type) :
    Reaches (M.noting N) capacity (c.lift N) (d.lift N) := by
  refine Relation.ReflTransGen.lift (Scene.lift N) (fun c d step => ?_) _ _ h
  cases step with
  | act => exact .act
  | get => exact .get
  | set => exact .set
  | leave => exact .leave
  | enter free => exact .enter free
  | wait answered => exact .wait answered
  | release held => exact .release held

/-- The same scene with its notes converted. -/
def relay (f : N → N') (c : Scene (M.noting N) α) : Scene (M.noting N') α :=
  ⟨c.world, c.store, c.inside, c.routine.relay f⟩

lemma Reaches.relay {c d : Scene (M.noting N) α} (h : Reaches (M.noting N) capacity c d)
    (f : N → N') : Reaches (M.noting N') capacity (c.relay f) (d.relay f) := by
  refine Relation.ReflTransGen.lift (Scene.relay f) (fun c d step => ?_) _ _ h
  cases step with
  | @act _ _ _ a =>
      cases a with
      | inl n => exact .act
      | inr a => exact .act
  | get => exact .get
  | set => exact .set
  | leave => exact .leave
  | enter free => exact .enter free
  | wait answered => exact .wait answered
  | release held => exact .release held

/-- The same scene with its notes collected, after those that were made before. -/
def gathered (notes : List N) (c : Scene (M.noting N) α) : Scene M (List N × Exit α) :=
  ⟨c.world, c.store, c.inside, c.routine.gatherFrom notes⟩

lemma Step.gather {c d : Scene (M.noting N) α} (h : Step (M.noting N) capacity c d)
    (notes : List N) :
    ∃ notes', Reaches M capacity (c.gathered notes) (d.gathered notes') := by
  cases h with
  | @act _ _ _ a =>
      cases a with
      | inl n => exact ⟨n :: notes, .refl⟩
      | inr a => exact ⟨notes, .single .act⟩
  | get => exact ⟨notes, .single .get⟩
  | set => exact ⟨notes, .single .set⟩
  | leave => exact ⟨notes, .single .leave⟩
  | enter free => exact ⟨notes, .single (.enter free)⟩
  | wait answered => exact ⟨notes, .single (.wait answered)⟩
  | release held => exact ⟨notes, .single (.release held)⟩

lemma Reaches.gather {c d : Scene (M.noting N) α} (h : Reaches (M.noting N) capacity c d)
    (notes : List N) :
    ∃ notes', Reaches M capacity (c.gathered notes) (d.gathered notes') := by
  induction h with
  | refl => exact ⟨notes, .refl⟩
  | tail _ step ih =>
      obtain ⟨middle, before⟩ := ih
      obtain ⟨notes', after⟩ := step.gather middle
      exact ⟨notes', before.trans after⟩

end Scene

end Notes

/-! ## Scenes within systems -/

section Systems

variable {E : Interface} [DecidableEq E.Gate] [DecidableEq E.Job]
variable {P : Program E} {M : Machine E}

namespace Scene

/-- A system with a single task, which is taking its turn in a scene. -/
def system (o : Origin P) (c : Scene M o.Out) (queue : List TaskId) : System P M :=
  { world := c.world
    store := c.store
    tasks := [{ origin := o, fiber := .running }]
    gates := fun g => { inside := c.inside g }
    queue }

/-- The rest of the turn. -/
def turn (o : Origin P) (c : Scene M o.Out) (queue : List TaskId) : System P M :=
  (c.system o queue).perform 0 o c.routine

variable {o : Origin P}

omit [DecidableEq E.Job] in
lemma system_occupy (c : Scene M o.Out) (g : E.Gate) (queue : List TaskId) :
    (c.system o queue).setGate g { inside := c.inside g + 1 }
      = ({ c with inside := occupy c.inside g } : Scene M o.Out).system o queue := by
  have gates : (fun h => if h = g then ({ inside := c.inside g + 1 } : GateState)
      else { inside := c.inside h }) = fun h => { inside := occupy c.inside g h } := by
    funext h
    by_cases same : h = g <;> simp [occupy, same]
  simp only [System.setGate, system, gates]

omit [DecidableEq E.Job] in
lemma system_vacate (c : Scene M o.Out) (g : E.Gate) (queue : List TaskId) :
    (c.system o queue).setGate g { inside := c.inside g - 1 }
      = ({ c with inside := vacate c.inside g } : Scene M o.Out).system o queue := by
  have gates : (fun h => if h = g then ({ inside := c.inside g - 1 } : GateState)
      else { inside := c.inside h }) = fun h => { inside := vacate c.inside g h } := by
    funext h
    by_cases same : h = g <;> simp [vacate, same]
  simp only [System.setGate, system, gates]

/-- A suspension whose reply is there at once. -/
lemma perform_now {self : TaskId} {sys sys' : System P M} {q : Suspension E} {x : Exit q.Answer}
    {k : Exit q.Answer → Routine E o.Out} (calm : sys.isPending self = false)
    (begun : sys.begin self q = (.now x, sys')) :
    sys.perform self o (.await q k) = sys'.perform self o (k x) := by
  rw [System.perform]
  simp [calm, begun]

/-- A task that is put aside with its suspension. -/
def parked (o : Origin P) (fiber : Fiber E o.Out) (sys : System P M) : System P M :=
  sys.update 0 fun task => { origin := o, fiber, pending := task.pending, cancels := task.cancels }

/-- A suspension whose reply comes with a later turn. -/
lemma perform_later {sys sys' : System P M} {q : Suspension E} {x : Exit q.Answer}
    {k : Exit q.Answer → Routine E o.Out} (calm : sys.isPending 0 = false)
    (begun : sys.begin 0 q = (.later x, sys')) :
    sys.perform 0 o (.await q k) = (parked o (.ready q x k) sys').enqueue 0 := by
  rw [System.perform]
  simp [calm, begun, parked]

/-- A suspension whose reply is held. -/
lemma perform_held {self : TaskId} {sys sys' : System P M} {q : Suspension E}
    {k : Exit q.Answer → Routine E o.Out} (calm : sys.isPending self = false)
    (begun : sys.begin self q = (.unknown, sys')) :
    sys.perform self o (.await q k) = sys'.update self fun task =>
      { origin := o, fiber := .waiting q k, pending := task.pending, cancels := task.cancels } := by
  rw [System.perform]
  simp [calm, begun]

/-- One step takes no new turn, or one, or one after a release. -/
lemma Step.follow {c d : Scene M o.Out} (h : Step M P.capacity c d) (queue : List TaskId) :
    ∃ schedule queue', (c.turn o queue).follow schedule = d.turn o queue' := by
  cases h with
  | act => exact ⟨[], queue, rfl⟩
  | get => exact ⟨[], queue, rfl⟩
  | set => exact ⟨[], queue, rfl⟩
  | @leave w s i g k =>
      have left := system_vacate (o := o) (⟨w, s, i, k ()⟩ : Scene M o.Out) g queue
      exact ⟨[], queue, congrArg (System.perform 0 o · (k ())) left⟩
  | @enter w s i g k free =>
      have entered := system_occupy (o := o) (⟨w, s, i, k (.returned ())⟩ : Scene M o.Out) g queue
      have begun : (system o ⟨w, s, i, .await (.enter g) k⟩ queue : System P M).begin 0 (.enter g)
          = (.now (.returned ()), (system o ⟨w, s, i, k (.returned ())⟩ queue).setGate g
              { inside := i g + 1 }) := if_pos ⟨free, rfl⟩
      refine ⟨[], queue, (perform_now rfl begun).trans ?_⟩
      exact congrArg (System.perform 0 o · (k (.returned ()))) entered
  | @wait w s i q k v w' answered =>
      have begun : (system o ⟨w, s, i, .await (.wait q) k⟩ queue : System P M).begin 0 (.wait q)
          = (.later (.returned v), system o ⟨w', s, i, .await (.wait q) k⟩ queue) := by
        simp [System.begin, system, answered]
      refine ⟨[.turn 0], queue ++ [0], ?_⟩
      exact congrArg (System.resume · 0) (perform_later rfl begun)
  | @release w s i q k w' held =>
      have begun : (system o ⟨w, s, i, .await (.wait q) k⟩ queue : System P M).begin 0 (.wait q)
          = (.unknown, system o ⟨w', s, i, .await (.wait q) k⟩ queue) := by
        simp [System.begin, system, held]
      refine ⟨[.release 0, .turn 0], queue ++ [0], ?_⟩
      exact congrArg (fun sys => (System.release sys 0).resume 0) (perform_held rfl begun)

/-- **What a scene reaches, a system reaches by some schedule.** -/
theorem Reaches.follow {c d : Scene M o.Out} (h : Reaches M P.capacity c d)
    (queue : List TaskId) :
    ∃ schedule queue', (c.turn o queue).follow schedule = d.turn o queue' := by
  induction h with
  | refl => exact ⟨[], queue, rfl⟩
  | tail _ step ih =>
      obtain ⟨before, middle, hb⟩ := ih
      obtain ⟨after, queue', ha⟩ := step.follow middle
      refine ⟨before ++ after, queue', ?_⟩
      rw [System.follow, List.foldl_append]
      exact (congrArg (List.foldl System.apply · after) hb).trans ha

end Scene

end Systems

end Montage
