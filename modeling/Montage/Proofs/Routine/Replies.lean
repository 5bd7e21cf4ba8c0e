import Montage.Proofs.Routine.Lives

/-!
# What comes of a wait

Who waits for an effect gets its reply, and who waits at a gate is let in.  Only a request to stop
can come instead, and the task remembers that it was asked.

* `Granted` — a reply that a task may get to such a wait; `Event.Granted` — one that it has got.
* `Task.Granted` — a task that has got no other; `granted_apply` — so it is whatever happens next.
* **`System.granted_history`** — who was never asked to stop has got all its replies.
-/

namespace Montage

variable {E : Interface} {P : Program E}

/-! ## Single tasks -/

/-- A reply to a wait, or the place behind a gate; or, for who was asked to stop, that request. -/
def Granted (cancels : Nat) : (s : Suspension E) → Exit s.Answer → Prop
  | .wait _, x => (∃ v, x = .returned v) ∨ x = .cancelled ∧ 0 < cancels
  | .enter _, x => x = .returned () ∨ x = .cancelled ∧ 0 < cancels
  | _, _ => True

/-- An answer that a task may hear, given how often it was asked to stop; replies to questions are
never withheld. -/
def Event.Granted (cancels : Nat) : Event E → Prop
  | .asked _ _ => True
  | .awaited s x => Montage.Granted cancels s x

/-- The answer that a task has ready is one that it may hear. -/
def Fiber.Granted {α : Type} (cancels : Nat) : Fiber E α → Prop
  | .ready s x _ => Montage.Granted cancels s x
  | _ => True

/-- A task that got no other replies, and remembers that it was asked to stop. -/
structure Task.Granted (t : Task P) : Prop where
  fiber : t.fiber.Granted t.cancels
  counted : t.pending = true → 0 < t.cancels

variable {c c' : Nat}

/-- A reply that a task may get is one it may get after more requests to stop. -/
lemma Granted.of_more {s : Suspension E} {x : Exit s.Answer} (granted : Granted c s x)
    (more : c ≤ c') : Granted c' s x := by
  cases s with
  | wait w => exact granted.imp_right fun h => ⟨h.1, Nat.lt_of_lt_of_le h.2 more⟩
  | enter g => exact granted.imp_right fun h => ⟨h.1, Nat.lt_of_lt_of_le h.2 more⟩
  | join j u => trivial
  | watch j u => trivial

/-- So it is with an answer that it may hear … -/
lemma Event.Granted.of_more {e : Event E} (granted : e.Granted c) (more : c ≤ c') :
    e.Granted c' := by
  cases e with
  | asked q v => trivial
  | awaited s x => exact Montage.Granted.of_more granted more

/-- … and with the answer that it has ready. -/
lemma Fiber.Granted.of_more {α : Type} {f : Fiber E α} (granted : f.Granted c) (more : c ≤ c') :
    f.Granted c' := by
  cases f with
  | ready s x k => exact Montage.Granted.of_more granted more
  | _ => trivial

/-- A request to stop is a reply to whoever was asked. -/
lemma granted_cancelled (s : Suspension E) (asked : 0 < c) : Granted c s .cancelled := by
  cases s with
  | wait w => exact .inr ⟨rfl, asked⟩
  | enter g => exact .inr ⟨rfl, asked⟩
  | join j u => trivial
  | watch j u => trivial

/-- A new task has no answer ready. -/
lemma granted_fresh (o : Origin P) : Task.Granted (P := P) { origin := o } :=
  ⟨trivial, fun pending => absurd pending Bool.false_ne_true⟩

/-- A task that gets a reply that it may get has got no other. -/
lemma Task.Granted.answer {t : Task P} (granted : t.Granted)
    {reply : (s : Suspension E) → Option (Exit s.Answer)}
    (replies : ∀ s x, reply s = some x → Montage.Granted t.cancels s x) :
    (t.answer reply).Granted := by
  obtain ⟨o, f, p, c⟩ := t
  unfold Task.answer
  cases f with
  | waiting s k =>
      cases told : reply s with
      | none =>
          simp only [told]
          exact granted
      | some x =>
          simp only [told]
          exact ⟨replies s x told, granted.counted⟩
  | _ => exact granted

/-! ## All tasks -/

/-- All tasks are so. -/
def AllGranted (tasks : List (Task P)) : Prop :=
  ∀ (i : TaskId) (t : Task P), tasks[i]? = some t → t.Granted

variable {tasks : List (Task P)}

/-- A change of one task after which it has got no other replies leaves all tasks so. -/
lemma AllGranted.modify {u : TaskId} {f : Task P → Task P} (granted : AllGranted tasks)
    (keeps : ∀ t, tasks[u]? = some t → t.Granted → (f t).Granted) :
    AllGranted (tasks.modify u f) := by
  intro i t found
  rw [List.getElem?_modify] at found
  obtain ⟨old, present, rfl⟩ := Option.map_eq_some_iff.mp found
  by_cases here : u = i
  · subst here
    rw [if_pos rfl]
    exact keeps old present (granted u old present)
  · rw [if_neg here]
    exact granted i old present

/-- So does a reply that a task may get … -/
lemma AllGranted.answer {reply : (s : Suspension E) → Option (Exit s.Answer)} {u : TaskId}
    (granted : AllGranted tasks)
    (replies : ∀ t, tasks[u]? = some t → ∀ s x, reply s = some x → Granted t.cancels s x) :
    AllGranted (tasks.modify u fun t => t.answer reply) :=
  granted.modify fun t found own => own.answer (replies t found)

/-- … and so does a request to stop. -/
lemma AllGranted.counted (granted : AllGranted tasks) (u : TaskId) :
    AllGranted (tasks.modify u Task.counted) :=
  granted.modify fun _ _ own => ⟨own.fiber.of_more (Nat.le_succ _), fun _ => Nat.succ_pos _⟩

/-- **Nothing that one task does to the others gives them another reply.** -/
lemma granted [DecidableEq E.Gate] : BearsRequests fun tasks tasks' : List (Task P) =>
    AllGranted tasks → AllGranted tasks' where
  refl _ := id
  trans first rest := rest ∘ first
  pass _ all := all.counted _
  interrupt _ _ all := (all.counted _).answer fun t found s x told => by
    cases told
    exact granted_cancelled s (cancels_counted found)
  mark _ _ all := (all.counted _).modify fun t found own =>
    ⟨own.fiber, fun _ => (cancels_counted found : 0 < t.cancels)⟩
  grant tasks u g all := all.answer fun t _ s x told => by
    cases s with
    | enter h =>
        by_cases here : h = g
        · exact .inl (by simpa [System.admitted, here] using told.symm)
        · simp [System.admitted, here] at told
    | _ => cases told
  spawn tasks o all i t found := by
    rcases List.mem_append.mp (List.mem_of_getElem? found) with old | new
    · obtain ⟨j, present⟩ := List.mem_iff_getElem?.mp old
      exact all j t present
    · rw [List.mem_singleton.mp new]
      exact granted_fresh o

namespace System

variable {M : Machine E} {sys : System P M}

/-- The end of a wait brings a task no other reply. -/
lemma granted_release (all : AllGranted sys.tasks) (u : TaskId) :
    AllGranted (sys.release u).tasks := by
  unfold release
  split
  · rename_i o w k p c found
    refine all.modify fun t found' own => ?_
    cases found.symm.trans found'
    exact ⟨.inl ⟨_, rfl⟩, own.counted⟩
  · exact all

variable [DecidableEq E.Gate]

/-! ## Turns -/

variable [DecidableEq E.Job] {actor : TaskId} {o : Origin P} {p : Bool}

omit [DecidableEq E.Gate] in
/-- The end of a task brings none to the others. -/
lemma granted_finish (all : AllGranted sys.tasks)
    (running : sys.tasks[actor]? = some ⟨o, .running, p, c⟩) (x : Exit o.Out) :
    AllGranted (sys.finish actor o x).tasks := by
  rw [tasks_finish running, announced]
  have ends : AllGranted (sys.tasks.modify actor fun _ => ⟨o, .ended (endOf p x), false, c⟩) :=
    all.modify fun _ _ _ => ⟨trivial, fun pending => absurd pending Bool.false_ne_true⟩
  intro i t found
  rw [List.getElem?_map] at found
  obtain ⟨old, present, rfl⟩ := Option.map_eq_some_iff.mp found
  refine (ends i old present).answer fun s x told => ?_
  cases s with
  | wait w => cases told
  | enter g => cases told
  | join j u => trivial
  | watch j u => trivial

omit [DecidableEq E.Gate] [DecidableEq E.Job] in
/-- A turn that comes to a suspension. -/
lemma granted_parked {tasks : List (Task P)} (all : AllGranted tasks)
    (running : tasks[actor]? = some ⟨o, .running, p, c⟩) {f : Fiber E o.Out} (own : f.Granted c) :
    AllGranted (parked tasks actor o f) := by
  refine all.modify fun t found before => ?_
  cases running.symm.trans found
  exact ⟨own, before.counted⟩

/-- What may become of a suspension at once. -/
def Prospect.Granted (s : Suspension E) : Prospect s.Answer → Prop
  | .now x | .later x => Montage.Granted 0 s x
  | .unknown => True

/-- A wait that ends at once ends with a reply that the task may get. -/
lemma granted_begin (sys : System P M) (actor : TaskId) (s : Suspension E) :
    Prospect.Granted s (sys.begin actor s).1 := by
  cases s with
  | wait w =>
      rw [begin]
      split
      · exact .inl ⟨_, rfl⟩
      · trivial
  | enter g =>
      simp only [begin]
      split
      · exact .inl rfl
      · trivial
  | join j t =>
      rw [begin]
      split <;> trivial
  | watch j t =>
      rw [begin]
      split <;> trivial

/-- **In a turn no wait gets another reply.** -/
theorem granted_perform (r : Routine E o.Out) {sys : System P M} {p : Bool} {c : Nat}
    (all : AllGranted sys.tasks) (running : sys.tasks[actor]? = some ⟨o, .running, p, c⟩) :
    AllGranted (perform actor o sys r).tasks ∧ ∀ e ∈ heard actor o sys r, e.Granted 0 := by
  induction r generalizing sys p c with
  | done x => exact ⟨granted_finish all running x, List.forall_mem_nil _⟩
  | ask q k ih =>
      obtain ⟨p', c', running', -⟩ := (gently.reply sys actor q).running running
      obtain ⟨later, events⟩ := ih _ (granted.reply sys actor q all) running'
      exact ⟨later, List.forall_mem_cons.mpr ⟨trivial, events⟩⟩
  | await s k ih =>
      have taken : AllGranted (sys.update actor fun task => { task with pending := false }).tasks :=
        all.modify fun _ _ own => ⟨own.fiber, fun pending => absurd pending Bool.false_ne_true⟩
      have stops : ∀ {f : Fiber E o.Out}, f.Granted c → AllGranted (parked
          (sys.update actor fun task => { task with pending := false }).tasks actor o f) :=
        granted_parked taken (running_calmed running)
      have replies := sys.granted_begin actor s
      have awaits := awaits_perform actor o sys s k
      generalize heard actor o sys (.await s k) = h at awaits ⊢
      generalize (perform actor o sys (.await s k)).tasks = after at awaits ⊢
      cases awaits with
      | stopped pending =>
          have pending : p = true := (isPending_running running).symm.trans pending
          have own : Fiber.Granted c (.ready s .cancelled k) :=
            granted_cancelled s ((all actor _ running).counted pending)
          exact ⟨stops own, List.forall_mem_nil _⟩
      | @passed j u k waiting _ _ tasks depth =>
          have waits : AllGranted waiting.tasks :=
            tasks ▸ stops (f := .waiting (.join j u) k) trivial
          exact ⟨granted.cancelWithin waiting u depth waits, List.forall_mem_nil _⟩
      | @now _ _ x sys' begun tasks =>
          rw [begun] at replies
          rw [← tasks] at all running
          obtain ⟨later, events⟩ := ih x all running
          exact ⟨later, List.forall_mem_cons.mpr ⟨replies, events⟩⟩
      | @later _ _ x sys' begun =>
          rw [begun] at replies
          have own : Fiber.Granted c (.ready s x k) := Granted.of_more replies (Nat.zero_le c)
          exact ⟨granted_parked all running own, List.forall_mem_nil _⟩
      | unknown =>
          have own : Fiber.Granted c (.waiting s k) := trivial
          exact ⟨granted_parked all running own, List.forall_mem_nil _⟩

/-- **In a turn, and before it, no wait gets another reply.** -/
lemma granted_resume (all : AllGranted sys.tasks) (t : TaskId) :
    AllGranted (sys.resume t).tasks ∧ ∀ task, sys.tasks[t]? = some task →
      ∀ e ∈ sys.heardIn t, e.Granted task.cancels := by
  have begins : ∀ (o : Origin P) (p : Bool) (c : Nat), (p = true → 0 < c) →
      AllGranted (sys.begun t o p c).tasks := fun o p c counted =>
    all.modify fun _ _ _ => ⟨trivial, counted⟩
  have calm := fun o c => begins o false c fun pending => absurd pending Bool.false_ne_true
  have more : ∀ {h : History E} {c : Nat}, (∀ e ∈ h, e.Granted 0) → ∀ e ∈ h, e.Granted c :=
    fun events e heard => (events e heard).of_more (Nat.zero_le _)
  have takes := sys.takes_resume t
  generalize sys.heardIn t = h at takes ⊢
  generalize sys.resume t = next at takes ⊢
  cases takes with
  | idle => exact ⟨all, fun _ _ => List.forall_mem_nil _⟩
  | unbegun found =>
      have own := all t _ found
      exact ⟨granted_finish (begins _ true _ own.counted) (running_begun found true) .cancelled,
        fun _ _ => List.forall_mem_nil _⟩
  | begins found running =>
      obtain ⟨later, events⟩ := granted_perform _ (calm _ _) running
      exact ⟨later, fun _ _ => more events⟩
  | @goes o s x k c found running =>
      obtain ⟨later, events⟩ := granted_perform (k x) (calm _ _) running
      refine ⟨later, fun task found' => List.forall_mem_cons.mpr ⟨?_, more events⟩⟩
      cases found.symm.trans found'
      exact (all t _ found).fiber
  | @stopped o s x k c found _ p' c' _ running =>
      obtain ⟨later, events⟩ :=
        granted_perform (k .cancelled) (granted.passedOn _ s x (calm _ _)) running
      refine ⟨later, fun task found' => List.forall_mem_cons.mpr ⟨?_, more events⟩⟩
      cases found.symm.trans found'
      exact granted_cancelled s ((all t _ found).counted rfl)

/-! ## Schedules -/

/-- **No step brings a task a reply that it may not get** … -/
lemma granted_apply (all : AllGranted sys.tasks) (choice : Choice P) :
    AllGranted (sys.apply choice).tasks := by
  cases choice with
  | turn t => exact (granted_resume all t).1
  | call c => exact granted.spawn sys.tasks (.call c) all
  | cancel t => exact granted.cancelWithin sys t _ all
  | release t => exact granted_release all t

/-- … and no schedule does. -/
lemma granted_follow (all : AllGranted sys.tasks) (schedule : List (Choice P)) :
    AllGranted (sys.follow schedule).tasks := by
  induction schedule generalizing sys with
  | nil => exact all
  | cons choice rest ih => exact ih (granted_apply all choice)

/-- **A task has got its replies, unless it was asked to stop.** -/
theorem granted_history (nobody : sys.tasks = []) {schedule : List (Choice P)} {i : TaskId}
    {task : Task P} (found : (sys.follow schedule).tasks[i]? = some task) :
    ∀ e ∈ sys.history i schedule, e.Granted task.cancels := by
  have sound := sound_nobody nobody
  have none : AllGranted sys.tasks := fun j t present => by
    rw [nobody] at present
    cases present
  induction schedule using List.reverseRecOn generalizing task with
  | nil => exact List.forall_mem_nil _
  | append_singleton first choice ih =>
      rw [follow_snoc] at found
      rw [history_snoc]
      cases present : (sys.follow first).tasks[i]? with
      | none =>
          rw [history_of_absent sound first present, hears_of_absent present]
          exact List.forall_mem_nil _
      | some old =>
          obtain ⟨o, f, p, c⟩ := old
          obtain ⟨f', p', c', found', more, -⟩ := ((sys.follow first).evolved_apply i choice).own
            present (sound_follow sound first i _ present)
          cases found.symm.trans found'
          refine List.forall_mem_append.mpr ⟨fun e heard => (ih present e heard).of_more more, ?_⟩
          intro e heard
          by_cases own : choice = .turn i
          · subst own
            rw [hears_own] at heard
            have told := (granted_resume (granted_follow none first) i).2 _ present e heard
            exact told.of_more more
          · rw [hears_of_ne own] at heard
            cases heard

end System

end Montage
