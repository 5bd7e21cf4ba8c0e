import Mathlib.Tactic.Common
import Montage.Proofs.Routine.History
import Montage.Proofs.Routine.Tasks

/-!
# Turns

A turn runs a routine from where it was left to its next suspension or its end.  What happens to the
task in that time is a history of its routine; what happens to the others is a nudge.

* `System.heard` — the replies that a routine gets in one turn.
* `Comes` — where a routine stands after a history: suspended, answered or ended.
* `System.Awaits`, `System.awaits_perform` — what comes of a suspension in a turn, case by case.
* **`System.turned_perform`** — a turn leads a routine along what it heard.
-/

namespace Montage

variable {E : Interface} {P : Program E}

/-! ## Where a routine comes to -/

/-- Where a task stands whose routine has had a history.  A value is lost if the task was asked to
stop. -/
inductive Comes {α : Type} (r : Routine E α) (cancels : Nat) : History E → Fiber E α → Prop
  | waiting {h : History E} {s : Suspension E} {k : Exit s.Answer → Routine E α}
      (leads : r.Leads h (.await s k)) : Comes r cancels h (.waiting s k)
  | ready {h : History E} {s : Suspension E} {x : Exit s.Answer} {k : Exit s.Answer → Routine E α}
      (leads : r.Leads h (.await s k)) : Comes r cancels h (.ready s x k)
  | ended {h : History E} {x : Exit α} (plays : r.Plays h x) : Comes r cancels h (.ended x)
  | lost {h : History E} {a : α} (plays : r.Plays h (.returned a)) (asked : 0 < cancels) :
      Comes r cancels h (.ended .cancelled)

/-- Something happens first. -/
lemma Comes.after {α : Type} {r r' : Routine E α} {c : Nat} {h h' : History E} {f : Fiber E α}
    (rest : Comes r' c h' f) (before : r.Leads h r') : Comes r c (h ++ h') f := by
  cases rest with
  | waiting leads => exact .waiting (before.trans leads)
  | ready leads => exact .ready (before.trans leads)
  | ended plays => exact .ended (before.trans plays)
  | lost plays asked => exact .lost (before.trans plays) asked

lemma Comes.of_more {α : Type} {r : Routine E α} {c c' : Nat} {h : History E} {f : Fiber E α}
    (comes : Comes r c h f) (more : c ≤ c') : Comes r c' h f := by
  cases comes with
  | waiting leads => exact .waiting leads
  | ready leads => exact .ready leads
  | ended plays => exact .ended plays
  | lost plays asked => exact .lost plays (Nat.lt_of_lt_of_le asked more)

/-! ## Events that tell the truth -/

variable [DecidableEq E.Job]

/-- What a task was told is so: the end of a task is the one that it came to, and who was told of
being asked to stop was asked. -/
def Event.Holds (tasks : List (Task P)) (cancels : Nat) : Event E → Prop
  | .asked .cancelling v => v = true → 0 < cancels
  | .awaited s x => Justified tasks cancels s x
  | _ => True

lemma Event.Holds.of_ends {tasks tasks' : List (Task P)} {c c' : Nat} {e : Event E}
    (h : e.Holds tasks c) (more : c ≤ c')
    (ends : ∀ u j x, exitOf tasks u j = some x → exitOf tasks' u j = some x) :
    e.Holds tasks' c' := by
  unfold Event.Holds at h ⊢
  split at h
  · exact fun asked => Nat.lt_of_lt_of_le (h asked) more
  · exact h.of_ends more ends
  · trivial

/-- What one task does to the others: each is nudged and stays sound, and who has ended stays
so. -/
structure Others (actor : TaskId) (tasks tasks' : List (Task P)) : Prop where
  each : ∀ (i : TaskId) (t : Task P), i ≠ actor → tasks[i]? = some t →
    ∃ t' : Task P, tasks'[i]? = some t' ∧ t.Nudged t' ∧ (t.Sound tasks → t'.Sound tasks')
  ends : ∀ u j x, exitOf tasks u j = some x → exitOf tasks' u j = some x

lemma Gently.others {tasks tasks' : List (Task P)} (h : Gently tasks tasks') (self : TaskId) :
    Others self tasks tasks' where
  each i t _ ht := h.each i t ht
  ends u j _ hx := (h.ends u j).trans hx

lemma Others.trans {self : TaskId} {tasks tasks' tasks'' : List (Task P)}
    (h : Others self tasks tasks') (h' : Others self tasks' tasks'') :
    Others self tasks tasks'' where
  each i t apart ht := by
    obtain ⟨t', ht', nudged, sound⟩ := h.each i t apart ht
    obtain ⟨t'', ht'', nudged', sound'⟩ := h'.each i t' apart ht'
    exact ⟨t'', ht'', nudged.trans nudged', sound' ∘ sound⟩
  ends u j x hx := h'.ends u j x (h.ends u j x hx)

/-- A task that changes itself, without having ended before or after. -/
lemma others_modify {self : TaskId} {tasks : List (Task P)} {task : Task P} {f : Task P → Task P}
    (found : tasks[self]? = some task) (before : task.fiber.hasEnded = false)
    (after : (f task).fiber.hasEnded = false) : Others self tasks (tasks.modify self f) where
  each i t apart ht := by
    refine ⟨t, ?_, .refl t, fun h => h.of_ends (exitOf_modify_unended found before after)⟩
    rw [List.getElem?_modify_ne _ _ apart.symm, ht]
  ends u j x hx := (exitOf_modify_unended found before after u j).trans hx

/-! ## The end of a task -/

section Ends

variable {tasks : List (Task P)} {actor : TaskId} {o : Origin P} {p : Bool} {c : Nat}

/-- All tasks when one of them has ended and everyone who waits for it has been told. -/
def announced (tasks : List (Task P)) (actor : TaskId) (ended : Task P) : List (Task P) :=
  (tasks.modify actor fun _ => ended).map fun task => task.answer (System.exitFor? ended actor)

lemma exitOf_announced (inside : actor < tasks.length) (ended : Task P) (u : TaskId) (j : E.Job) :
    exitOf (announced tasks actor ended) u j
      = if u = actor then ended.exit? j else exitOf tasks u j := by
  have told : ∀ task : Task P,
      (task.answer (System.exitFor? ended actor)).exit? j = task.exit? j :=
    fun task => (task.nudged_answer _).exit?_eq j
  unfold exitOf announced
  rw [List.getElem?_map]
  split
  · rename_i same
    subst same
    rw [List.getElem?_modify_eq, List.getElem?_eq_getElem inside]
    exact told ended
  · rename_i apart
    rw [List.getElem?_modify_ne _ _ fun same => apart same.symm]
    cases tasks[u]? with
    | none => rfl
    | some task => exact told task

/-- Who had ended before still has. -/
lemma exitOf_announced_of_some (inside : actor < tasks.length)
    (unended : ∀ j, exitOf tasks actor j = none) (ended : Task P) (u : TaskId) (j : E.Job)
    (x : Exit (E.Out j)) (hx : exitOf tasks u j = some x) :
    exitOf (announced tasks actor ended) u j = some x := by
  rw [exitOf_announced inside, if_neg]
  · exact hx
  · rintro rfl
    cases (unended j).symm.trans hx

/-- Nobody waits for the end of a call. -/
lemma announced_call {d : P.Call} {f : Fiber E (P.Result d)} {i : TaskId} (apart : i ≠ actor) :
    (announced tasks actor ⟨.call d, f, p, c⟩)[i]? = tasks[i]? := by
  have none : ∀ s : Suspension E,
      System.exitFor? (⟨.call d, f, p, c⟩ : Task P) actor s = none := by
    intro s
    cases s with
    | wait w => rfl
    | enter g => rfl
    | join j u => exact ite_self _
    | watch j u => exact ite_self _
  rw [announced, List.getElem?_map, List.getElem?_modify_ne _ _ apart.symm]
  cases tasks[i]? with
  | none => rfl
  | some task =>
      obtain ⟨o, f, p, c⟩ := task
      cases f with
      | waiting s k => simp only [Option.map_some, Task.answer, none]
      | _ => rfl

/-- Who waits for the end that has come is told; who waits for another one goes on waiting. -/
lemma Task.Sound.announced {t : Task P} (h : t.Sound tasks) (inside : actor < tasks.length)
    (unended : ∀ j, exitOf tasks actor j = none) (ended : Task P) :
    (t.answer (System.exitFor? ended actor)).Sound (announced tasks actor ended) := by
  have exits := exitOf_announced inside ended
  obtain ⟨o, f, p, c⟩ := t
  have fiber := h.fiber
  unfold Task.answer
  cases f with
  | fresh => exact ⟨trivial, h.counted⟩
  | running => exact ⟨trivial, h.counted⟩
  | ended x => exact ⟨trivial, h.counted⟩
  | ready s x k =>
      exact ⟨Answered.of_ends fiber (Nat.le_refl _)
        (exitOf_announced_of_some inside unended ended), h.counted⟩
  | waiting s k =>
      -- the end of the actor answers this task or leaves it waiting for another one
      have waiting : ∀ j u, (if u = actor then ended.exit? j else none) = none →
          exitOf tasks u j = none → exitOf (Montage.announced tasks actor ended) u j = none := by
        intro j u unanswered before
        rw [exits]
        by_cases here : u = actor
        · rwa [if_pos here] at unanswered ⊢
        · rwa [if_neg here]
      have told : ∀ j u x, (if u = actor then ended.exit? j else none) = some x →
          exitOf (Montage.announced tasks actor ended) u j = some x := by
        intro j u x answered
        rw [exits]
        by_cases here : u = actor
        · rwa [if_pos here] at answered ⊢
        · rw [if_neg here] at answered
          cases answered
      cases s with
      | wait w => exact ⟨trivial, h.counted⟩
      | enter g => exact ⟨trivial, h.counted⟩
      | join j u =>
          cases hx : System.exitFor? ended actor (.join j u) with
          | none => simp only [hx]; exact ⟨waiting j u hx fiber, h.counted⟩
          | some x => simp only [hx]; exact ⟨told j u x hx, h.counted⟩
      | watch j u =>
          cases hx : System.exitFor? ended actor (.watch j u) with
          | none => simp only [hx]; exact ⟨waiting j u hx fiber, h.counted⟩
          | some x => simp only [hx]; exact ⟨.inl (told j u x hx), h.counted⟩

lemma others_announced (running : tasks[actor]? = some ⟨o, .running, p, c⟩) (ended : Task P) :
    Others actor tasks (announced tasks actor ended) := by
  obtain ⟨inside, -⟩ := List.getElem?_eq_some_iff.mp running
  have unended : ∀ j, exitOf tasks actor j = none := exitOf_of_unended running rfl
  refine ⟨fun i t apart ht => ?_, exitOf_announced_of_some inside unended ended⟩
  have told : (announced tasks actor ended)[i]?
      = some (t.answer (System.exitFor? ended actor)) := by
    rw [announced, List.getElem?_map, List.getElem?_modify_ne _ _ apart.symm, ht]
    rfl
  exact ⟨_, told, t.nudged_answer _, fun sound => sound.announced inside unended ended⟩

end Ends

/-! ## Turns -/

/-- A turn of a task that had a routine to run, and maybe a request to stop that has yet to reach
it: the task has come to where what it heard leads it, nothing that it heard is wrong, and the
others were nudged at most. -/
structure Turned (actor : TaskId) (o : Origin P) (r : Routine E o.Out) (pending : Bool)
    (cancels : Nat) (h : History E) (tasks tasks' : List (Task P)) : Prop where
  own (counted : pending = true → 0 < cancels) :
    ∃ (f : Fiber E o.Out) (p : Bool) (c : Nat), tasks'[actor]? = some ⟨o, f, p, c⟩
      ∧ cancels ≤ c ∧ Comes r c h f ∧ Task.Sound tasks' ⟨o, f, p, c⟩
      ∧ ∀ e ∈ h, e.Holds tasks' c
  others : Others actor tasks tasks'

namespace System

variable {M : Machine E} {sys : System P M} {actor : TaskId} {o : Origin P} {p : Bool} {c : Nat}

/-- The end of a task that may have been asked to stop: a value is lost then. -/
def endOf {α : Type} (asked : Bool) : Exit α → Exit α
  | .returned a => if asked then .cancelled else .returned a
  | x => x

lemma tasks_finish (running : sys.tasks[actor]? = some ⟨o, .running, p, c⟩) (x : Exit o.Out) :
    (sys.finish actor o x).tasks
      = announced sys.tasks actor ⟨o, .ended (endOf p x), false, c⟩ := by
  unfold finish
  rw [running]
  cases x <;> rfl

/-- Who has ended is told nothing. -/
lemma announced_own (inside : actor < sys.tasks.length) (x : Exit o.Out) :
    (announced sys.tasks actor ⟨o, .ended x, false, c⟩)[actor]?
      = some ⟨o, .ended x, false, c⟩ := by
  rw [announced, List.getElem?_map, List.getElem?_modify_eq, List.getElem?_eq_getElem inside]
  rfl

/-- A turn that ends a task. -/
lemma turned_finish (running : sys.tasks[actor]? = some ⟨o, .running, p, c⟩) (x : Exit o.Out) :
    Turned actor o (.done x) p c [] sys.tasks (sys.finish actor o x).tasks := by
  obtain ⟨inside, -⟩ := List.getElem?_eq_some_iff.mp running
  have comes : (p = true → 0 < c) → Comes (E := E) (.done x) c [] (.ended (endOf p x)) := by
    intro counted
    cases x with
    | failed e => exact .ended (.refl _)
    | cancelled => exact .ended (.refl _)
    | returned a =>
        cases p with
        | false => exact .ended (.refl _)
        | true => exact .lost (.refl _) (counted rfl)
  have sound : Task.Sound (announced sys.tasks actor ⟨o, .ended (endOf p x), false, c⟩)
      ⟨o, .ended (endOf p x), false, c⟩ := .calm trivial
  rw [tasks_finish running]
  exact ⟨fun counted => ⟨_, false, c, announced_own inside _, Nat.le_refl _, comes counted, sound,
    List.forall_mem_nil _⟩, others_announced running _⟩

/-! ### Suspensions -/

/-- All tasks when one of them has come to a suspension. -/
def parked (tasks : List (Task P)) (actor : TaskId) (o : Origin P) (f : Fiber E o.Out) :
    List (Task P) :=
  tasks.modify actor fun task => ⟨o, f, task.pending, task.cancels⟩

/-- A turn that comes to a suspension. -/
lemma turned_parked {tasks : List (Task P)} {r : Routine E o.Out}
    (running : tasks[actor]? = some ⟨o, .running, p, c⟩) {f : Fiber E o.Out}
    (unended : f.hasEnded = false) (comes : Comes r c [] f) (sound : f.Sound tasks c) :
    Turned actor o r p c [] tasks (parked tasks actor o f) := by
  have own : (parked tasks actor o f)[actor]? = some ⟨o, f, p, c⟩ := by
    rw [parked, List.getElem?_modify_eq, running]
    rfl
  refine ⟨fun counted => ?_, others_modify running rfl unended⟩
  have before : Task.Sound tasks ⟨o, f, p, c⟩ := ⟨sound, counted⟩
  exact ⟨f, p, c, own, Nat.le_refl _, comes,
    before.of_ends (exitOf_modify_unended running rfl unended), List.forall_mem_nil _⟩

omit [DecidableEq E.Job] in
/-- A request to stop has reached a task that takes its turn. -/
lemma running_calmed (running : sys.tasks[actor]? = some ⟨o, .running, p, c⟩) :
    (sys.update actor fun task => { task with pending := false }).tasks[actor]?
      = some ⟨o, .running, false, c⟩ := by
  rw [update, List.getElem?_modify_eq, running]
  rfl

/-- A turn that comes to a suspension when a request to stop has yet to reach the task: it is dealt
with here. -/
lemma turned_stopped {r : Routine E o.Out}
    (running : sys.tasks[actor]? = some ⟨o, .running, true, c⟩) {f : Fiber E o.Out}
    (unended : f.hasEnded = false) (comes : Comes r c [] f) (sound : 0 < c → f.Sound sys.tasks c) :
    Turned actor o r true c [] sys.tasks
      (parked (sys.update actor fun task => { task with pending := false }).tasks actor o f) := by
  have taken : Gently sys.tasks
      (sys.update actor fun task => { task with pending := false }).tasks :=
    gently_modify (fun _ _ => .flags (Nat.le_refl _)) fun _ _ h => .calm h.fiber
  have running' := running_calmed running
  refine ⟨fun counted => ?_, ?_⟩
  · have sound : Task.Sound sys.tasks ⟨o, f, false, c⟩ := .calm (sound (counted rfl))
    exact (turned_parked running' unended comes (sound.of_ends taken.ends).fiber).own
      fun pending => absurd pending Bool.false_ne_true
  · exact (taken.others actor).trans (others_modify running' rfl unended)

lemma unanswered_of_suspends [DecidableEq E.Gate] {s : Suspension E} (h : sys.suspends s = true) :
    Unanswered sys.tasks s := by
  cases s with
  | wait w => trivial
  | enter g => trivial
  | join j t => exact Option.isNone_iff_eq_none.mp h
  | watch j t => exact Option.isNone_iff_eq_none.mp h

/-- A turn that goes on after something was heard. -/
lemma turned_after {r r' : Routine E o.Out} {h h' : History E} {p' : Bool} {c' : Nat}
    {tasks tasks' tasks'' : List (Task P)} (before : r.Leads h r') (gentle : Gently tasks tasks')
    (more : c ≤ c') (counted' : (p = true → 0 < c) → p' = true → 0 < c')
    (holds : ∀ e ∈ h, e.Holds tasks' c') (rest : Turned actor o r' p' c' h' tasks' tasks'') :
    Turned actor o r p c (h ++ h') tasks tasks'' := by
  refine ⟨fun counted => ?_, (gentle.others actor).trans rest.others⟩
  obtain ⟨f, p, c'', own, more', comes, sound, later⟩ := rest.own (counted' counted)
  refine ⟨f, p, c'', own, Nat.le_trans more more', comes.after before, sound, ?_⟩
  rw [List.forall_mem_append]
  exact ⟨fun e he => (holds e he).of_ends more' rest.others.ends, later⟩

/-- What happens to a task after its turn. -/
lemma turned_before {r : Routine E o.Out} {h : History E} {tasks tasks' tasks'' : List (Task P)}
    (turned : Turned actor o r p c h tasks tasks') (gentle : Gently tasks' tasks'') :
    Turned actor o r p c h tasks tasks'' := by
  have others := gentle.others actor
  refine ⟨fun counted => ?_, turned.others.trans others⟩
  obtain ⟨f, p, c', own, more, comes, sound, holds⟩ := turned.own counted
  obtain ⟨t, found, nudged, sounder⟩ := gentle.each actor _ own
  have holding : ∀ {c''}, c' ≤ c'' → ∀ e ∈ h, e.Holds tasks'' c'' := fun more' e he =>
    (holds e he).of_ends more' others.ends
  cases nudged with
  | flags more' =>
      exact ⟨f, _, _, found, Nat.le_trans more more', comes.of_more more', sounder sound,
        holding more'⟩
  | woken more' =>
      cases comes with
      | waiting leads =>
          exact ⟨_, _, _, found, Nat.le_trans more more', .ready leads, sounder sound,
            holding more'⟩

/-- What is known of what becomes of a suspension. -/
def Prospect.Sound (tasks : List (Task P)) (cancels : Nat) (s : Suspension E) :
    Prospect s.Answer → Prop
  | .now x | .later x => Answered tasks cancels s x
  | .unknown => Unanswered tasks s

variable [DecidableEq E.Gate]

lemma sound_begin (sys : System P M) (actor : TaskId) (c : Nat) (s : Suspension E) :
    Prospect.Sound sys.tasks c s (sys.begin actor s).1 := by
  cases s with
  | wait w =>
      rw [begin]
      split <;> trivial
  | enter g =>
      simp only [begin]
      split <;> trivial
  | join j t =>
      rw [begin]
      split
      · rename_i x found
        exact found
      · rename_i found
        exact found
  | watch j t =>
      rw [begin]
      split
      · rename_i x found
        exact .inl found
      · rename_i found
        exact found

/-- Who is told of being asked to stop was asked. -/
lemma holds_reply (running : sys.tasks[actor]? = some ⟨o, .running, p, c⟩) (q : Request E)
    (tasks : List (Task P)) {c' : Nat} (more : c ≤ c') :
    (Event.asked q (sys.reply actor q).1).Holds tasks c' := by
  cases q with
  | cancelling =>
      intro asked
      simp only [reply, running, Option.map_some, Option.any_some] at asked
      exact Nat.lt_of_lt_of_le (of_decide_eq_true asked) more
  | act a => trivial
  | get => trivial
  | set s => trivial
  | leave g => trivial
  | start j => trivial
  | cancel t => trivial

/-! ### Whole turns -/

/-- The replies that a routine gets until it suspends or ends. -/
def heard (self : TaskId) (o : Origin P) (sys : System P M) : Routine E o.Out → History E
  | .done _ => []
  | .ask q k =>
    let (v, sys) := sys.reply self q
    .asked q v :: heard self o sys (k v)
  | .await s k =>
    if sys.isPending self && sys.suspends s then []
    else match sys.begin self s with
      | (.now x, sys) => .awaited s x :: heard self o sys (k x)
      | _ => []

/-- What comes of a suspension in the turn of `actor`: what it hears from there on, and all tasks at
the end of the turn. -/
inductive Awaits (actor : TaskId) (o : Origin P) (sys : System P M) : (s : Suspension E) →
    (Exit s.Answer → Routine E o.Out) → History E → List (Task P) → Prop
  /-- A request to stop has come before it, … -/
  | stopped {s : Suspension E} {k : Exit s.Answer → Routine E o.Out}
      (asked : sys.isPending actor = true) (stops : sys.suspends s = true)
      (alone : s.passesOn = false) :
      Awaits actor o sys s k [] (parked (sys.update actor fun task =>
        { task with pending := false }).tasks actor o (.ready s .cancelled k))
  /-- … and is passed on to who is joined. -/
  | passed {j : E.Job} {u : TaskId} {k : Exit (E.Out j) → Routine E o.Out} {waiting : System P M}
      (asked : sys.isPending actor = true) (stops : sys.suspends (.join j u) = true)
      (tasks : waiting.tasks = parked (sys.update actor fun task =>
        { task with pending := false }).tasks actor o (.waiting (.join j u) k)) (depth : Nat) :
      Awaits actor o sys (.join j u) k [] (waiting.cancelWithin u depth).2.tasks
  /-- The reply is there at once, … -/
  | now {s : Suspension E} {k : Exit s.Answer → Routine E o.Out} {x : Exit s.Answer}
      {sys' : System P M} (begun : sys.begin actor s = (.now x, sys'))
      (tasks : sys'.tasks = sys.tasks) :
      Awaits actor o sys s k (.awaited s x :: heard actor o sys' (k x))
        (perform actor o sys' (k x)).tasks
  /-- … or in a later turn, … -/
  | later {s : Suspension E} {k : Exit s.Answer → Routine E o.Out} {x : Exit s.Answer}
      {sys' : System P M} (begun : sys.begin actor s = (.later x, sys')) :
      Awaits actor o sys s k [] (parked sys.tasks actor o (.ready s x k))
  /-- … or it is not there yet. -/
  | unknown {s : Suspension E} {k : Exit s.Answer → Routine E o.Out} {sys' : System P M}
      (begun : sys.begin actor s = (.unknown, sys')) :
      Awaits actor o sys s k [] (parked sys.tasks actor o (.waiting s k))

lemma awaits_perform (actor : TaskId) (o : Origin P) (sys : System P M) (s : Suspension E)
    (k : Exit s.Answer → Routine E o.Out) :
    Awaits actor o sys s k (heard actor o sys (.await s k))
      (perform actor o sys (.await s k)).tasks := by
  rw [heard, perform]
  split
  · rename_i both
    obtain ⟨asked, stops⟩ := Bool.and_eq_true_iff.mp both
    cases s with
    | join j u => exact .passed asked stops rfl _
    | wait w => exact .stopped asked stops rfl
    | enter g => exact .stopped asked stops rfl
    | watch j u => exact .stopped asked stops rfl
  · have tasks := sys.tasks_begin actor s
    cases begun : sys.begin actor s with
    | mk prospect sys' =>
        rw [begun] at tasks
        have tasks : sys'.tasks = sys.tasks := tasks
        cases prospect with
        | now x => exact .now begun tasks
        | later x =>
            have ends := Awaits.later (k := k) begun
            rw [← tasks] at ends
            exact ends
        | unknown =>
            have ends := Awaits.unknown (k := k) begun
            rw [← tasks] at ends
            exact ends

omit [DecidableEq E.Gate] [DecidableEq E.Job] in
lemma isPending_running (running : sys.tasks[actor]? = some ⟨o, .running, p, c⟩) :
    sys.isPending actor = p := by
  rw [isPending, running]
  rfl

/-- **A turn leads a routine along what it heard.** -/
theorem turned_perform (r : Routine E o.Out) {sys : System P M} {p : Bool} {c : Nat}
    (running : sys.tasks[actor]? = some ⟨o, .running, p, c⟩) :
    Turned actor o r p c (heard actor o sys r) sys.tasks (perform actor o sys r).tasks := by
  induction r generalizing sys p c with
  | done x => exact turned_finish running x
  | ask q k ih =>
      have gentle := gently.reply sys actor q
      obtain ⟨task, found, nudged, sound⟩ := gentle.each actor _ running
      cases nudged with
      | flags more =>
          have counted' := fun counted => (sound ⟨trivial, counted⟩).counted
          have holds := holds_reply running q (sys.reply actor q).2.tasks more
          exact turned_after (.ask (.refl _)) gentle more counted'
            (List.forall_mem_singleton.mpr holds) (ih (sys.reply actor q).1 found)
  | await s k ih =>
      have awaits := awaits_perform actor o sys s k
      have sound := sound_begin sys actor c s
      generalize heard actor o sys (.await s k) = h at awaits ⊢
      generalize (perform actor o sys (.await s k)).tasks = after at awaits ⊢
      cases awaits with
      | stopped asked stops alone =>
          obtain rfl : p = true := (isPending_running running).symm.trans asked
          exact turned_stopped running rfl (.ready (.refl _)) (Answered.cancelled alone)
      | @passed j u k waiting asked stops tasks depth =>
          obtain rfl : p = true := (isPending_running running).symm.trans asked
          have waits := turned_stopped (f := .waiting (.join j u) k) running rfl
            (.waiting (.refl _)) fun _ => unanswered_of_suspends stops
          rw [← tasks] at waits
          exact turned_before waits (gently.cancelWithin waiting u depth)
      | @now _ _ x sys' begun tasks =>
          rw [begun] at sound
          have answered : Answered sys.tasks c s x := sound
          have holds : (Event.awaited s x).Holds sys'.tasks c := tasks ▸ answered.justified
          rw [← tasks] at running
          exact turned_after (.await (.refl _)) (tasks ▸ .refl _) (Nat.le_refl _) id
            (List.forall_mem_singleton.mpr holds) (ih x running)
      | later begun =>
          rw [begun] at sound
          exact turned_parked running rfl (.ready (.refl _)) sound
      | unknown begun =>
          rw [begun] at sound
          exact turned_parked running rfl (.waiting (.refl _)) sound

/-- A turn that comes to where the end of a task is waited for. -/
lemma perform_join {j : E.Job} {u : TaskId}
    (running : sys.tasks[actor]? = some ⟨o, .running, false, c⟩)
    (waits : exitOf sys.tasks u j = none) (k : Exit (E.Out j) → Routine E o.Out) :
    sys.perform actor o (.await (.join j u) k)
      = { sys with tasks := parked sys.tasks actor o (.waiting (.join j u) k) } := by
  have unasked : sys.isPending actor = false := by
    rw [isPending, running]
    rfl
  have unknown : sys.begin actor (.join j u) = (.unknown, sys) := by
    rw [begin, ← exitOf, waits]
  rw [perform.eq_def]
  dsimp only
  rw [unasked, unknown]
  rfl

end System

end Montage
