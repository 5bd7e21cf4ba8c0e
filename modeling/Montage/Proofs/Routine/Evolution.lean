import Montage.Proofs.Routine.Turns

/-!
# Evolutions

A schedule is any order of turns and of what can happen between them.  Over a schedule each task
has a history: what it heard in its turns.

* `System.heardIn`, `System.history` — the replies that a task gets in one turn, and over a
  schedule.
* `Evolves` — where a task may come to along a history.
* **`System.evolved_follow`** — whatever the schedule, every task comes to where its history leads.
-/

namespace Montage

variable {E : Interface} {P : Program E} {M : Machine E}

/-! ## Histories of tasks -/

namespace System

/-- A task begins its turn. -/
def begun (sys : System P M) (t : TaskId) (o : Origin P) (pending : Bool) (cancels : Nat) :
    System P M :=
  sys.update t fun _ => ⟨o, .running, pending, cancels⟩

variable [DecidableEq E.Gate]

/-- A place behind a gate that was granted to who is asked to stop is passed on. -/
def passedOn (sys : System P M) (s : Suspension E) (x : Exit s.Answer) : System P M :=
  match s, x with
  | .enter g, .returned _ => sys.leave g
  | _, _ => sys

variable [DecidableEq E.Job]

/-- The replies that a task gets in its turn. -/
def heardIn (sys : System P M) (t : TaskId) : History E :=
  match sys.tasks[t]? with
  | some ⟨o, .fresh, pending, cancels⟩ =>
    if pending then [] else (sys.begun t o false cancels).heard t o o.routine
  | some ⟨o, .ready s x k, pending, cancels⟩ =>
    let begun := sys.begun t o false cancels
    if pending then .awaited s .cancelled :: (begun.passedOn s x).heard t o (k .cancelled)
    else .awaited s x :: begun.heard t o (k x)
  | _ => []

/-- The replies that a task gets when something happens. -/
def hears (sys : System P M) (i : TaskId) : Choice P → History E
  | .turn t => if t = i then sys.heardIn t else []
  | _ => []

/-- The replies that a task gets over a schedule. -/
def history (sys : System P M) (i : TaskId) : List (Choice P) → History E
  | [] => []
  | choice :: rest => sys.hears i choice ++ (sys.apply choice).history i rest

/-- In its own turn a task hears what the turn brings … -/
lemma hears_own (sys : System P M) (i : TaskId) : sys.hears i (.turn i) = sys.heardIn i := by
  rw [hears, if_pos rfl]

/-- … and in any other step nothing. -/
lemma hears_of_ne {sys : System P M} {i : TaskId} {choice : Choice P} (other : choice ≠ .turn i) :
    sys.hears i choice = [] := by
  cases choice with
  | turn t =>
      rw [hears, if_neg]
      rintro rfl
      exact other rfl
  | _ => rfl

end System

/-- Whoever is let in with a place that is passed on changes as with one that is given up. -/
lemma BearsRequests.passedOn [DecidableEq E.Gate] {T : List (Task P) → List (Task P) → Prop}
    (bears : BearsRequests T) (sys : System P M) (s : Suspension E) (x : Exit s.Answer) :
    T sys.tasks (sys.passedOn s x).tasks := by
  unfold System.passedOn
  split
  · exact bears.leave sys _
  · exact bears.refl sys.tasks

/-! ## Where tasks come to -/

section Evolving

variable {α : Type} {r : Routine E α} {c c' : Nat} {f f' f'' : Fiber E α} {h h' : History E}

/-- What is left of a routine between two turns. -/
def Fiber.rest (r : Routine E α) : Fiber E α → Routine E α
  | .fresh | .running => r
  | .waiting s k | .ready s _ k => .await s k
  | .ended x => .done x

/-- Where a task may come to along a history of its routine.  Who is asked to stop before the first
step never takes it. -/
inductive Evolves (r : Routine E α) (cancels : Nat) : Fiber E α → History E → Fiber E α → Prop
  | still {f : Fiber E α} : Evolves r cancels f [] f
  | comes {f f' : Fiber E α} {h : History E} (comes : Comes (f.rest r) cancels h f') :
      Evolves r cancels f h f'
  | unbegun (asked : 0 < cancels) : Evolves r cancels .fresh [] (.ended .cancelled)

/-- Nothing follows an end. -/
lemma comes_ended {x : Exit α} (comes : Comes (.done x) c h f) :
    h = [] ∧ (f = .ended x ∨ f = .ended .cancelled ∧ 0 < c) := by
  cases comes with
  | waiting leads => cases (Routine.leads_done.mp leads).2
  | ready leads => cases (Routine.leads_done.mp leads).2
  | ended plays =>
      obtain ⟨rfl, rfl⟩ := Routine.plays_done.mp plays
      exact ⟨rfl, .inl rfl⟩
  | lost plays asked => exact ⟨(Routine.plays_done.mp plays).1, .inr ⟨rfl, asked⟩⟩

/-- Who has ended stays so. -/
lemma Evolves.hasEnded (evolves : Evolves r c f h f') (ended : f.hasEnded = true) :
    f'.hasEnded = true := by
  cases evolves with
  | still => exact ended
  | unbegun asked => rfl
  | comes comes =>
      obtain ⟨x, rfl⟩ := Fiber.eq_ended ended
      rcases (comes_ended comes).2 with rfl | ⟨rfl, -⟩
      · rfl
      · rfl

/-- One history after the other. -/
lemma Evolves.trans (first : Evolves r c f h f') (more : c ≤ c') (second : Evolves r c' f' h' f'') :
    Evolves r c' f (h ++ h') f'' := by
  cases first with
  | still => exact second
  | unbegun asked =>
      have asked' := Nat.lt_of_lt_of_le asked more
      cases second with
      | still => exact .unbegun asked'
      | comes comes =>
          obtain ⟨rfl, rfl | ⟨rfl, -⟩⟩ := comes_ended comes
          · exact .unbegun asked'
          · exact .unbegun asked'
  | comes comes =>
      cases second with
      | still =>
          rw [List.append_nil]
          exact .comes (comes.of_more more)
      | unbegun => cases comes
      | comes next =>
          cases comes with
          | waiting leads => exact .comes (next.after leads)
          | ready leads => exact .comes (next.after leads)
          | ended plays => exact .comes (next.after plays)
          | lost plays asked =>
              have lost : Comes (f.rest r) c' h (.ended .cancelled) :=
                .lost plays (Nat.lt_of_lt_of_le asked more)
              obtain ⟨rfl, rfl | ⟨rfl, -⟩⟩ := comes_ended next
              · rw [List.append_nil]
                exact .comes lost
              · rw [List.append_nil]
                exact .comes lost

/-- What happens to a task that does not take a turn is no history. -/
lemma Task.Nudged.evolves {o : Origin P} {f : Fiber E o.Out} {p : Bool} {c : Nat} {t : Task P}
    (nudged : Task.Nudged ⟨o, f, p, c⟩ t) :
    ∃ (f' : Fiber E o.Out) (p' : Bool) (c' : Nat), t = ⟨o, f', p', c'⟩ ∧ c ≤ c'
      ∧ Evolves o.routine c' f [] f' := by
  cases nudged with
  | flags more => exact ⟨_, _, _, rfl, more, .still⟩
  | woken more => exact ⟨_, _, _, rfl, more, .comes (.ready (.refl _))⟩

end Evolving

/-! ## Where systems come to -/

section Systems

variable [DecidableEq E.Job] {i : TaskId} {h h' : History E} {tasks tasks' tasks'' : List (Task P)}

/-- What becomes of one of many tasks along a history.  All that it was told is so. -/
structure Evolved (i : TaskId) (h : History E) (tasks tasks' : List (Task P)) : Prop where
  own : ∀ {o : Origin P} {f : Fiber E o.Out} {p : Bool} {c : Nat}, tasks[i]? = some ⟨o, f, p, c⟩ →
    Task.Sound tasks ⟨o, f, p, c⟩ →
    ∃ (f' : Fiber E o.Out) (p' : Bool) (c' : Nat), tasks'[i]? = some ⟨o, f', p', c'⟩ ∧ c ≤ c'
      ∧ Evolves o.routine c' f h f' ∧ Task.Sound tasks' ⟨o, f', p', c'⟩ ∧ ∀ e ∈ h, e.Holds tasks' c'
  ends : ∀ u j x, exitOf tasks u j = some x → exitOf tasks' u j = some x

/-- Without a step nothing has come of a task. -/
lemma Evolved.refl (i : TaskId) (tasks : List (Task P)) : Evolved i [] tasks tasks where
  own found sound := ⟨_, _, _, found, Nat.le_refl _, .still, sound, List.forall_mem_nil _⟩
  ends _ _ _ ended := ended

/-- What has come of a task in two steps, with all that it has heard in them. -/
lemma Evolved.trans (first : Evolved i h tasks tasks') (second : Evolved i h' tasks' tasks'') :
    Evolved i (h ++ h') tasks tasks'' where
  own found sound := by
    obtain ⟨f', p', c', found', more, evolves, sound', holds⟩ := first.own found sound
    obtain ⟨f'', p'', c'', found'', more', evolves', sound'', holds'⟩ := second.own found' sound'
    refine ⟨f'', p'', c'', found'', Nat.le_trans more more', evolves.trans more' evolves', sound'',
      ?_⟩
    rw [List.forall_mem_append]
    exact ⟨fun e he => (holds e he).of_ends more' second.ends, holds'⟩
  ends u j x ended := second.ends u j x (first.ends u j x ended)

/-- What another task does is no history. -/
lemma Others.evolved {actor : TaskId} (others : Others actor tasks tasks') (apart : i ≠ actor) :
    Evolved i [] tasks tasks' where
  own found sound := by
    obtain ⟨t, found', nudged, sounder⟩ := others.each i _ apart found
    obtain ⟨f', p', c', rfl, more, evolves⟩ := nudged.evolves
    exact ⟨f', p', c', found', more, evolves, sounder sound, List.forall_mem_nil _⟩
  ends := others.ends

/-- What happens between turns is no history. -/
lemma Gently.evolved (gentle : Gently tasks tasks') : Evolved i [] tasks tasks' where
  own found sound := by
    obtain ⟨t, found', nudged, sounder⟩ := gentle.each i _ found
    obtain ⟨f', p', c', rfl, more, evolves⟩ := nudged.evolves
    exact ⟨f', p', c', found', more, evolves, sounder sound, List.forall_mem_nil _⟩
  ends u j _ ended := (gentle.ends u j).trans ended

end Systems

/-! ### Ends -/

namespace System

/-- A task has ended; nothing changes that any more (`Evolved`). -/
def Ended (sys : System P M) (i : TaskId) (o : Origin P) (x : Exit o.Out) : Prop :=
  ∃ p c, sys.tasks[i]? = some ⟨o, .ended x, p, c⟩

/-- The end of a job is found under the number of its task. -/
lemma Ended.exitOf [DecidableEq E.Job] {sys : System P M} {u : TaskId} {j : E.Job}
    {x : Exit (E.Out j)} (ended : sys.Ended u (.job j) x) : exitOf sys.tasks u j = some x := by
  obtain ⟨p, c, found⟩ := ended
  rw [Montage.exitOf, found]
  exact (Task.exit?_job (P := P) (p := p) (c := c)).mpr rfl

end System

/-! ### One turn -/

/-- A turn leads the task along what it heard, and nudges the others at most. -/
structure Turn [DecidableEq E.Job] (t : TaskId) (h : History E) (tasks tasks' : List (Task P)) :
    Prop where
  own : Evolved t h tasks tasks'
  others : Others t tasks tasks'

namespace System

variable {sys : System P M} {i t : TaskId} {o : Origin P} {f : Fiber E o.Out} {p : Bool} {c : Nat}

/-- Who begins a turn is running. -/
lemma running_begun (found : sys.tasks[t]? = some ⟨o, f, p, c⟩) (p' : Bool) :
    (sys.begun t o p' c).tasks[t]? = some ⟨o, .running, p', c⟩ := by
  rw [begun, update, List.getElem?_modify_eq, found]
  rfl

variable [DecidableEq E.Job]

/-- Who begins a turn has not ended. -/
lemma others_begun (found : sys.tasks[t]? = some ⟨o, f, p, c⟩) (unended : f.hasEnded = false)
    (p' : Bool) : Others t sys.tasks (sys.begun t o p' c).tasks :=
  others_modify found unended rfl

/-- A turn from where a task was left. -/
lemma turn_begun (found : sys.tasks[t]? = some ⟨o, f, p, c⟩) (unended : f.hasEnded = false)
    {p' : Bool} (less : p' = true → p = true) {r : Routine E o.Out} {h h' : History E}
    (leads : (f.rest o.routine).Leads h r)
    (holds : Task.Sound sys.tasks ⟨o, f, p, c⟩ → ∀ e ∈ h, e.Holds sys.tasks c)
    {tasks' : List (Task P)} (turned : Turned t o r p' c h' (sys.begun t o p' c).tasks tasks') :
    Turn t (h ++ h') sys.tasks tasks' := by
  have others := (others_begun found unended p').trans turned.others
  refine ⟨⟨fun found' sound => ?_, others.ends⟩, others⟩
  cases found.symm.trans found'
  obtain ⟨f', p'', c', own, more, comes, sound', later⟩ :=
    turned.own fun pending => sound.counted (less pending)
  refine ⟨f', p'', c', own, more, .comes (comes.after leads), sound', ?_⟩
  rw [List.forall_mem_append]
  exact ⟨fun e he => (holds sound e he).of_ends more others.ends, later⟩

/-- A task that was asked to stop before its first step. -/
lemma turn_unbegun (found : sys.tasks[t]? = some ⟨o, .fresh, true, c⟩) :
    Turn t [] sys.tasks ((sys.begun t o true c).finish t o .cancelled).tasks := by
  have turned := turned_finish (running_begun found true) .cancelled
  have others := (others_begun found rfl true).trans turned.others
  refine ⟨⟨fun found' sound => ?_, others.ends⟩, others⟩
  cases found.symm.trans found'
  have asked : 0 < c := sound.counted rfl
  obtain ⟨f', p', c', own, more, comes, sound', -⟩ := turned.own fun _ => asked
  have ended : f' = .ended .cancelled := by
    obtain ⟨-, h | ⟨h, -⟩⟩ := comes_ended comes
    · exact h
    · exact h
  rw [ended] at own sound'
  exact ⟨_, p', c', own, more, .unbegun (Nat.lt_of_lt_of_le asked more), sound',
    List.forall_mem_nil _⟩

/-- A task that has nothing to do changes nothing in its turn. -/
lemma turn_none (sys : System P M) (t : TaskId) : Turn t [] sys.tasks sys.tasks :=
  ⟨.refl t _, (Gently.refl _).others t⟩

variable [DecidableEq E.Gate]

/-- Who has a reply but was asked to stop goes on with the request instead. -/
lemma resume_ready_asked {s : Suspension E} {x : Exit s.Answer}
    {k : Exit s.Answer → Routine E o.Out} (found : sys.tasks[t]? = some ⟨o, .ready s x k, true, c⟩) :
    sys.resume t = ((sys.begun t o false c).passedOn s x).perform t o (k .cancelled) := by
  simp only [resume, found]
  cases s with
  | enter g => cases x <;> rfl
  | wait w => rfl
  | join j u => rfl
  | watch j u => rfl

/-- Who was not asked to stop begins, … -/
lemma resume_fresh (found : sys.tasks[t]? = some ⟨o, .fresh, false, c⟩) :
    sys.resume t = (sys.begun t o false c).perform t o o.routine := by
  simp only [resume, found]
  rfl

/-- … and who was asked to stop does not begin. -/
lemma resume_fresh_asked (found : sys.tasks[t]? = some ⟨o, .fresh, true, c⟩) :
    sys.resume t = (sys.begun t o true c).finish t o .cancelled := by
  simp only [resume, found]
  rfl

/-- Who was not asked to stop goes on with the reply that it was waiting for. -/
lemma resume_ready {s : Suspension E} {x : Exit s.Answer}
    {k : Exit s.Answer → Routine E o.Out} (found : sys.tasks[t]? = some ⟨o, .ready s x k, false, c⟩) :
    sys.resume t = (sys.begun t o false c).perform t o (k x) := by
  simp only [resume, found]
  rfl

/-- Who takes its turn with a reply hears it. -/
lemma heardIn_ready {s : Suspension E} {x : Exit s.Answer}
    {k : Exit s.Answer → Routine E o.Out} (found : sys.tasks[t]? = some ⟨o, .ready s x k, p, c⟩) :
    ∃ e h, sys.heardIn t = e :: h := by
  cases p <;> simp [heardIn, found]

/-- Who waits takes no turns. -/
lemma resume_waiting {s : Suspension E} {k : Exit s.Answer → Routine E o.Out}
    (found : sys.tasks[t]? = some ⟨o, .waiting s k, p, c⟩) : sys.resume t = sys := by
  simp only [resume, found]

/-- Who has ended takes no turns. -/
lemma resume_hasEnded (ended : (sys.tasks[t]?).any Task.hasEnded = true) : sys.resume t = sys := by
  cases found : sys.tasks[t]? with
  | none => simp only [resume, found]
  | some task =>
      obtain ⟨o, f, p, c⟩ := task
      rw [found] at ended
      cases f with
      | ended x => simp only [resume, found]
      | fresh => cases ended
      | running => cases ended
      | waiting s k => cases ended
      | ready s x k => cases ended

/-- What happens in the turn of a task: what it hears, and the system at the end. -/
inductive Takes (sys : System P M) (t : TaskId) : History E → System P M → Prop
  /-- Who is not there, or waits, or has ended, takes no turns. -/
  | idle : Takes sys t [] sys
  /-- Who was asked to stop does not begin. -/
  | unbegun {o : Origin P} {c : Nat} (found : sys.tasks[t]? = some ⟨o, .fresh, true, c⟩) :
      Takes sys t [] ((sys.begun t o true c).finish t o .cancelled)
  | begins {o : Origin P} {c : Nat} (found : sys.tasks[t]? = some ⟨o, .fresh, false, c⟩)
      (running : (sys.begun t o false c).tasks[t]? = some ⟨o, .running, false, c⟩) :
      Takes sys t ((sys.begun t o false c).heard t o o.routine)
        ((sys.begun t o false c).perform t o o.routine)
  /-- Who has got a reply hears it and goes on … -/
  | goes {o : Origin P} {s : Suspension E} {x : Exit s.Answer} {k : Exit s.Answer → Routine E o.Out}
      {c : Nat} (found : sys.tasks[t]? = some ⟨o, .ready s x k, false, c⟩)
      (running : (sys.begun t o false c).tasks[t]? = some ⟨o, .running, false, c⟩) :
      Takes sys t (.awaited s x :: (sys.begun t o false c).heard t o (k x))
        ((sys.begun t o false c).perform t o (k x))
  /-- … unless it was asked to stop: it hears that, and a place that it got is passed on. -/
  | stopped {o : Origin P} {s : Suspension E} {x : Exit s.Answer}
      {k : Exit s.Answer → Routine E o.Out} {c : Nat}
      (found : sys.tasks[t]? = some ⟨o, .ready s x k, true, c⟩)
      (begun : (sys.begun t o false c).tasks[t]? = some ⟨o, .running, false, c⟩) {p' : Bool}
      {c' : Nat} (more : c ≤ c')
      (running : ((sys.begun t o false c).passedOn s x).tasks[t]? = some ⟨o, .running, p', c'⟩) :
      Takes sys t
        (.awaited s .cancelled :: ((sys.begun t o false c).passedOn s x).heard t o (k .cancelled))
        (((sys.begun t o false c).passedOn s x).perform t o (k .cancelled))

/-- **A turn, case by case.** -/
theorem takes_resume (sys : System P M) (t : TaskId) :
    sys.Takes t (sys.heardIn t) (sys.resume t) := by
  cases found : sys.tasks[t]? with
  | none => simpa only [heardIn, resume, found] using .idle
  | some task =>
      obtain ⟨o, f, p, c⟩ := task
      have running := running_begun found false
      cases f with
      | running => simpa only [heardIn, resume, found] using .idle
      | waiting s k => simpa only [heardIn, resume, found] using .idle
      | ended x => simpa only [heardIn, resume, found] using .idle
      | fresh =>
          cases p with
          | true => simpa only [heardIn, resume, found] using .unbegun found
          | false => simpa only [heardIn, resume, found] using .begins found running
      | ready s x k =>
          cases p with
          | false => simpa only [heardIn, resume, found] using .goes found running
          | true =>
              rw [resume_ready_asked found]
              simp only [heardIn, found]
              obtain ⟨p', c', running', more⟩ :=
                (gently.passedOn (sys.begun t o false c) s x).running running
              exact .stopped found running more running'

/-- **A turn of a task leads it along what it heard.** -/
lemma turn_resume (sys : System P M) (t : TaskId) :
    Turn t (sys.heardIn t) sys.tasks (sys.resume t).tasks := by
  have takes := sys.takes_resume t
  generalize sys.heardIn t = h at takes ⊢
  generalize sys.resume t = next at takes ⊢
  cases takes with
  | idle => exact turn_none sys t
  | unbegun found => exact turn_unbegun found
  | begins found running =>
      exact turn_begun found rfl id (.refl _) (fun _ => List.forall_mem_nil _)
        (turned_perform _ running)
  | goes found running =>
      refine turn_begun found rfl id (.await (.refl _)) (fun sound => ?_) (turned_perform _ running)
      rw [List.forall_mem_singleton]
      exact Answered.justified sound.fiber
  | @stopped o s x k c found begun p' c' more running =>
      have gentle := gently.passedOn (sys.begun t o false c) s x
      have counted : (false = true → 0 < c) → p' = true → 0 < c' := fun counted => by
        obtain ⟨task, found', -, sounder⟩ := gentle.each t _ begun
        cases running.symm.trans found'
        exact (sounder ⟨trivial, counted⟩).counted
      have turned := turned_after (.refl _) gentle more counted (List.forall_mem_nil _)
        (turned_perform (k .cancelled) running)
      refine turn_begun found rfl (fun _ => rfl) (.await (.refl _)) (fun sound => ?_) turned
      rw [List.forall_mem_singleton]
      exact .cancelled (sound.counted rfl)

/-! ### Schedules -/

/-- The last choice of a schedule is followed last. -/
lemma follow_snoc (sys : System P M) (first : List (Choice P)) (choice : Choice P) :
    sys.follow (first ++ [choice]) = (sys.follow first).apply choice := List.foldl_append

/-- A schedule whose last choice is a turn. -/
lemma follow_turn (sys : System P M) (schedule : List (Choice P)) (t : TaskId) :
    sys.follow (schedule ++ [.turn t]) = (sys.follow schedule).resume t := sys.follow_snoc _ _

/-- What is heard along two schedules is heard along each in turn. -/
lemma history_append (sys : System P M) (i : TaskId) (first rest : List (Choice P)) :
    sys.history i (first ++ rest) = sys.history i first ++ (sys.follow first).history i rest := by
  induction first generalizing sys with
  | nil => rfl
  | cons choice first ih => rw [List.cons_append, history, ih, ← List.append_assoc]; rfl

/-- What is heard last is heard in the last step. -/
lemma history_snoc (sys : System P M) (i : TaskId) (first : List (Choice P)) (choice : Choice P) :
    sys.history i (first ++ [choice])
      = sys.history i first ++ (sys.follow first).hears i choice :=
  (sys.history_append i first [choice]).trans (congrArg _ (List.append_nil _))

/-- Who does not take a turn is nudged at most. -/
lemma nudged_apply (sys : System P M) {choice : Choice P} (apart : choice ≠ .turn i) {task : Task P}
    (found : sys.tasks[i]? = some task) :
    ∃ task', (sys.apply choice).tasks[i]? = some task' ∧ task.Nudged task' := by
  have nudges : ∀ {tasks'}, Gently sys.tasks tasks' →
      ∃ task', tasks'[i]? = some task' ∧ task.Nudged task' := by
    intro tasks' gentle
    obtain ⟨task', found', nudged, -⟩ := gentle.each i task found
    exact ⟨task', found', nudged⟩
  cases choice with
  | turn t =>
      have other : i ≠ t := fun same => apart (same ▸ rfl)
      obtain ⟨task', found', nudged, -⟩ := (sys.turn_resume t).others.each i task other found
      exact ⟨task', found', nudged⟩
  | call c => exact nudges (gently.spawn sys.tasks (.call c))
  | cancel t => exact nudges (gently.cancelWithin sys t _)
  | release t => exact nudges (sys.gently_release t)

/-- Whatever happens next leads every task along what it hears. -/
lemma evolved_apply (sys : System P M) (i : TaskId) (choice : Choice P) :
    Evolved i (sys.hears i choice) sys.tasks (sys.apply choice).tasks := by
  cases choice with
  | turn t =>
      have turn := sys.turn_resume t
      rw [hears]
      split
      · rename_i same
        rw [← same]
        exact turn.own
      · rename_i other
        exact turn.others.evolved fun same => other same.symm
  | call c => exact (gently.spawn sys.tasks (.call c)).evolved
  | cancel t => exact (gently.cancelWithin sys t _).evolved
  | release t => exact (sys.gently_release t).evolved

/-- **Whatever the schedule, every task comes to where its history leads.** -/
theorem evolved_follow (sys : System P M) (i : TaskId) (schedule : List (Choice P)) :
    Evolved i (sys.history i schedule) sys.tasks (sys.follow schedule).tasks := by
  induction schedule generalizing sys with
  | nil => exact .refl i _
  | cons choice rest ih => exact (sys.evolved_apply i choice).trans (ih (sys.apply choice))

end System

end Montage
