import Montage.Proofs.Routine.Contracts
import Montage.Proofs.Routine.Evolution

/-!
# What stays so

Invariants of whole systems, whatever the schedule.  They follow the one shape that a turn has: a
task begins, hears what it was waiting for, and its routine goes on.

* **`resume_induction`** — the shape of a turn.
* `threads_resume` — the shared record after a turn is what the history of the turn makes of it.
* `started_resume`, `fresh_apply` — new tasks have not taken a step.
* `System.Sound`, `System.Keeps` — what holds of every task; `sound_apply`, `keeps_apply` — it goes
  on holding.
-/

namespace Montage

variable {E : Interface} {P : Program E} {M : Machine E} {σ : Type}

namespace System

/-! ## What leaves the record alone -/

/-- Neither the record nor the number of tasks has changed. -/
structure Steady (sys sys' : System P M) : Prop where
  store : sys'.store = sys.store
  length : sys'.tasks.length = sys.tasks.length

lemma Steady.refl (sys : System P M) : sys.Steady sys := ⟨rfl, rfl⟩

lemma Steady.trans {sys sys' sys'' : System P M} (first : sys.Steady sys')
    (rest : sys'.Steady sys'') : sys.Steady sys'' :=
  ⟨rest.store.trans first.store, rest.length.trans first.length⟩

/-- There is no task that was not there before. -/
lemma Steady.absent {sys sys' : System P M} (steady : sys.Steady sys') {i : TaskId}
    (absent : sys.tasks[i]? = none) : sys'.tasks[i]? = none := by
  rw [List.getElem?_eq_none_iff] at absent ⊢
  rwa [steady.length]

lemma Steady.ne_some {sys sys' : System P M} (steady : sys.Steady sys') {i : TaskId}
    (absent : sys.tasks[i]? = none) (task : Task P) : sys'.tasks[i]? ≠ some task := by
  rw [steady.absent absent]
  exact (Option.some_ne_none task).symm

lemma steady_update (sys : System P M) (t : TaskId) (f : Task P → Task P) :
    sys.Steady (sys.update t f) :=
  ⟨rfl, List.length_modify _ _ _⟩

lemma steady_release (sys : System P M) (t : TaskId) : sys.Steady (sys.release t) := by
  unfold release
  split
  · exact ⟨rfl, List.length_modify _ _ _⟩
  · exact .refl _

variable [DecidableEq E.Gate]

lemma steady_leave (sys : System P M) (g : E.Gate) : sys.Steady (sys.leave g) := by
  unfold leave
  dsimp only
  split
  · exact ⟨rfl, rfl⟩
  · exact ⟨rfl, List.length_modify _ _ _⟩

/-- **A request to stop leaves the record and the number of tasks alone.** -/
lemma steady : BearsStops (Steady (P := P) (M := M)) where
  refl := .refl
  trans := .trans
  pass _ := steady_update _ _ _
  interrupt {_ _ _ s _ _ _} _ _ := (steady_update _ _ _).trans <| by
    cases s <;> exact ⟨rfl, List.length_modify _ _ _⟩
  mark _ _ := (steady_update _ _ _).trans (steady_update _ _ _)

lemma steady_passedOn (sys : System P M) (s : Suspension E) (x : Exit s.Answer) :
    sys.Steady (sys.passedOn s x) := by
  unfold passedOn
  split
  · exact sys.steady_leave _
  · exact .refl _

/-- Only a question that starts a task adds to the tasks. -/
lemma steady_reply (sys : System P M) (self : TaskId) (q : Request E) :
    (sys.reply self q).2.tasks.length = sys.tasks.length ∨ ∃ j, q = .start j := by
  cases q with
  | act a => exact .inl rfl
  | get => exact .inl rfl
  | set s => exact .inl rfl
  | leave g => exact .inl (sys.steady_leave g).length
  | start j => exact .inr ⟨j, rfl⟩
  | cancel t => exact .inl (steady.cancelWithin sys t _).length
  | cancelling => exact .inl rfl

/-- What is asked about the record is answered from the record. -/
lemma tells_reply (view : E.Store → σ) (sys : System P M) (self : TaskId) (q : Request E) :
    q.Tells view (view sys.store) (sys.reply self q).1
      ∧ view (sys.reply self q).2.store = q.leaves view (view sys.store) := by
  cases q with
  | act a => exact ⟨trivial, rfl⟩
  | get => exact ⟨rfl, rfl⟩
  | set s => exact ⟨trivial, rfl⟩
  | leave g => exact ⟨trivial, congrArg view (sys.steady_leave g).store⟩
  | start j => exact ⟨trivial, rfl⟩
  | cancel t => exact ⟨trivial, congrArg view (steady.cancelWithin sys t _).store⟩
  | cancelling => exact ⟨trivial, rfl⟩

end System

/-! ## The shape of a turn -/

namespace System

variable [DecidableEq E.Job]

lemma steady_finish (sys : System P M) (t : TaskId) (o : Origin P) (x : Exit o.Out) :
    sys.Steady (sys.finish t o x) := by
  refine ⟨rfl, ?_⟩
  simp only [finish, announce, update, List.length_map, List.length_modify]

variable [DecidableEq E.Gate]

lemma steady_begin (sys : System P M) (self : TaskId) (s : Suspension E) :
    sys.Steady (sys.begin self s).2 := by
  refine ⟨?_, congrArg List.length (sys.tasks_begin self s)⟩
  unfold begin
  split
  · split <;> rfl
  · dsimp only
    split <;> rfl
  · split <;> rfl
  · split <;> rfl

/-- **The shape of a turn.**  Nothing happens; or a task that was asked to stop ends before its
first step; or a task begins, hears what it was waiting for, and its routine goes on. -/
lemma resume_induction {motive : History E → System P M → Prop} (sys : System P M) (t : TaskId)
    (idle : motive [] sys)
    (unbegun : ∀ o c, motive [] ((sys.begun t o true c).finish t o .cancelled))
    (performs : ∀ (o : Origin P) (p : Bool) (c : Nat) (start : System P M) (r : Routine E o.Out)
      (told : History E), sys.Steady start → start.tasks[t]? = some ⟨o, .running, p, c⟩ →
      (∀ e ∈ told, ∃ s x, e = .awaited s x) →
      motive (told ++ start.heard t o r) (start.perform t o r)) :
    motive (sys.heardIn t) (sys.resume t) := by
  have told : ∀ (s : Suspension E) (x : Exit s.Answer), ∀ e ∈ [Event.awaited s x],
      ∃ s x, e = .awaited s x := fun s x => List.forall_mem_singleton.mpr ⟨s, x, rfl⟩
  have takes := sys.takes_resume t
  generalize sys.heardIn t = h at takes ⊢
  generalize sys.resume t = next at takes ⊢
  cases takes with
  | idle => exact idle
  | unbegun found => exact unbegun _ _
  | begins found running =>
      exact performs _ _ _ _ _ [] (sys.steady_update t _) running (List.forall_mem_nil _)
  | @goes o s x k c found running =>
      exact performs o _ _ _ _ [_] (sys.steady_update t _) running (told s x)
  | @stopped o s x k c found begun p' c' more running =>
      exact performs o _ _ _ _ [_] ((sys.steady_update t _).trans (steady_passedOn _ s x)) running
        (told s .cancelled)

/-! ## The record over a turn -/

/-- The record after a performance is what its history makes of it. -/
lemma threads_perform (view : E.Store → σ) (self : TaskId) (o : Origin P) (r : Routine E o.Out)
    (sys : System P M) :
    Threads view (view sys.store) (heard self o sys r) (view (perform self o sys r).store) := by
  induction r generalizing sys with
  | done x => exact congrArg view (sys.steady_finish self o x).store
  | ask q k ih =>
      obtain ⟨tells, leaves⟩ := tells_reply view sys self q
      refine ⟨tells, ?_⟩
      rw [← leaves]
      exact ih _ _
  | await s k ih =>
      rw [heard, perform]
      split
      · cases s with
        | join j u => exact congrArg view (steady.cancelWithin _ u _).store
        | wait w => rfl
        | enter g => rfl
        | watch j u => rfl
      · have same := congrArg view (sys.steady_begin self s).store
        cases begun : sys.begin self s with
        | mk prospect sys' =>
            rw [begun] at same
            cases prospect with
            | now x =>
                have later := ih x sys'
                rw [same] at later
                exact later
            | later x => exact same
            | unknown => exact same

/-- **The record after a turn is what the history of the turn makes of it.** -/
theorem threads_resume (view : E.Store → σ) (sys : System P M) (t : TaskId) :
    Threads view (view sys.store) (sys.heardIn t) (view (sys.resume t).store) := by
  refine sys.resume_induction
    (motive := fun h next => Threads view (view sys.store) h (view next.store)) t rfl
    (fun o c => ?_) fun o p c start r told steady _ awaited => ?_
  · exact congrArg view ((sys.steady_update t _).trans (steady_finish _ t o .cancelled)).store
  · rw [← steady.store]
    exact threads_told awaited (threads_perform view t o r start)

/-! ## New tasks -/

/-- A task that was started over a history and has not taken a step. -/
def Started (h : History E) (tasks : List (Task P)) (i : TaskId) (task : Task P) : Prop :=
  ∃ j p n, task = ⟨.job j, .fresh, p, n⟩ ∧ Task.Sound tasks task ∧ .asked (.start j) i ∈ h

/-- Whoever is there after a performance and was not there before was started meanwhile. -/
lemma started_perform {actor : TaskId} {o : Origin P} (r : Routine E o.Out) {sys : System P M}
    {p : Bool} {c : Nat} (running : sys.tasks[actor]? = some ⟨o, .running, p, c⟩) {i : TaskId}
    (absent : sys.tasks[i]? = none) {task : Task P}
    (found : (perform actor o sys r).tasks[i]? = some task) :
    Started (heard actor o sys r) (perform actor o sys r).tasks i task := by
  induction r generalizing sys p c with
  | done x => exact absurd found ((sys.steady_finish actor o x).ne_some absent task)
  | ask q k ih =>
      obtain ⟨p', c', running', -⟩ := (gently.reply sys actor q).running running
      cases present : (sys.reply actor q).2.tasks[i]? with
      | none =>
          obtain ⟨j, p, n, same, sound, among⟩ := ih _ running' present found
          exact ⟨j, p, n, same, sound, List.mem_cons_of_mem _ among⟩
      | some new =>
          have last : i = sys.tasks.length ∧ ∃ j, q = .start j := by
            have inside := (List.getElem?_eq_some_iff.mp present).1
            have outside := List.getElem?_eq_none_iff.mp absent
            rcases steady_reply sys actor q with same | starts
            · omega
            · obtain ⟨j, rfl⟩ := starts
              have length : (sys.reply actor (.start j)).2.tasks.length = sys.tasks.length + 1 :=
                List.length_append
              exact ⟨Nat.le_antisymm (by omega) outside, j, rfl⟩
          obtain ⟨rfl, j, rfl⟩ := last
          have fresh : (sys.reply actor (.start j)).2.tasks[sys.tasks.length]?
              = some { origin := .job j } := List.getElem?_concat_length
          have apart : sys.tasks.length ≠ actor :=
            (Nat.ne_of_lt (List.getElem?_eq_some_iff.mp running).1).symm
          obtain ⟨task', found', nudged, sound⟩ :=
            (turned_perform (k _) running').others.each _ _ apart fresh
          cases found.symm.trans found'
          cases nudged with
          | flags more => exact ⟨j, _, _, rfl, sound (.calm trivial), List.mem_cons_self⟩
  | await s k ih =>
      have awaits := awaits_perform actor o sys s k
      generalize heard actor o sys (.await s k) = h at awaits ⊢
      generalize (perform actor o sys (.await s k)).tasks = after at awaits found ⊢
      -- who comes to a suspension has started nobody on the way
      have same : ∀ {tasks : List (Task P)}, tasks.length = sys.tasks.length →
          tasks[i]? ≠ some task := by
        intro tasks length found
        have inside := (List.getElem?_eq_some_iff.mp found).1
        exact absurd (length ▸ inside) (Nat.not_lt.mpr (List.getElem?_eq_none_iff.mp absent))
      have parks : ∀ (tasks : List (Task P)) (f : Fiber E o.Out),
          (parked tasks actor o f).length = tasks.length := fun _ _ => List.length_modify _ _ _
      have taken := (sys.steady_update actor fun task => { task with pending := false }).length
      cases awaits with
      | stopped => exact absurd found (same ((parks _ _).trans taken))
      | @passed j u k waiting _ _ tasks depth =>
          have waits := (congrArg List.length tasks).trans ((parks _ _).trans taken)
          exact absurd found (same ((steady.cancelWithin waiting u depth).length.trans waits))
      | @now _ _ x sys' begun tasks =>
          rw [← tasks] at running absent
          obtain ⟨j, p, n, rfl, sound, among⟩ := ih x running absent found
          exact ⟨j, p, n, rfl, sound, List.mem_cons_of_mem _ among⟩
      | later => exact absurd found (same (parks _ _))
      | unknown => exact absurd found (same (parks _ _))

/-- Whoever is there after a turn and was not there before was started in it. -/
lemma started_resume (sys : System P M) (t : TaskId) {i : TaskId} (absent : sys.tasks[i]? = none)
    {task : Task P} (found : (sys.resume t).tasks[i]? = some task) :
    Started (sys.heardIn t) (sys.resume t).tasks i task := by
  revert found
  refine sys.resume_induction
    (motive := fun h next => next.tasks[i]? = some task → Started h next.tasks i task) t
    (fun found => ?_) (fun o c found => ?_) fun o p c start r told steady running _ found => ?_
  · cases absent.symm.trans found
  · have steady := (sys.steady_update t fun _ => ⟨o, .running, true, c⟩).trans
      (steady_finish _ t o .cancelled)
    exact absurd found (steady.ne_some absent task)
  · obtain ⟨j, p, n, same, sound, among⟩ := started_perform r running (steady.absent absent) found
    exact ⟨j, p, n, same, sound, List.mem_append_right _ among⟩

/-- A new task has not taken a step; and unless it comes from outside, it was started in a turn. -/
lemma fresh_apply (sys : System P M) (choice : Choice P) {i : TaskId}
    (absent : sys.tasks[i]? = none) {task : Task P}
    (found : (sys.apply choice).tasks[i]? = some task) :
    ∃ o p n, task = ⟨o, .fresh, p, n⟩ ∧ Task.Sound (sys.apply choice).tasks task
      ∧ ∀ j, o = .job j → ∃ t, choice = .turn t ∧ .asked (.start j) i ∈ sys.heardIn t := by
  cases choice with
  | turn t =>
      obtain ⟨j, p, n, rfl, sound, among⟩ := sys.started_resume t absent found
      refine ⟨_, p, n, rfl, sound, fun j' same => ?_⟩
      cases same
      exact ⟨t, rfl, among⟩
  | call c =>
      change (sys.tasks ++ [{ origin := .call c }])[i]? = some task at found
      rw [List.getElem?_append_right (List.getElem?_eq_none_iff.mp absent)] at found
      rw [List.mem_singleton.mp (List.mem_of_getElem? found)]
      exact ⟨_, _, _, rfl, .calm trivial, fun j same => by cases same⟩
  | cancel t => exact absurd found ((steady.cancelWithin sys t _).ne_some absent task)
  | release t => exact absurd found ((sys.steady_release t).ne_some absent task)

/-! ## What holds of all tasks -/

/-- Every task is sound (`Task.Sound`).  This is kept by every step, so it need never be shown again
of a system that a schedule leads to. -/
def Sound (sys : System P M) : Prop :=
  ∀ (i : TaskId) (task : Task P), sys.tasks[i]? = some task → task.Sound sys.tasks

lemma sound_apply {sys : System P M} (sound : sys.Sound) (choice : Choice P) :
    (sys.apply choice).Sound := by
  intro i task found
  cases present : sys.tasks[i]? with
  | none =>
      obtain ⟨-, -, -, -, sound', -⟩ := fresh_apply sys choice present found
      exact sound'
  | some old =>
      obtain ⟨o, f, p, c⟩ := old
      obtain ⟨f', p', c', found', -, -, sound', -⟩ :=
        (evolved_apply sys i choice).own present (sound i _ present)
      cases found.symm.trans found'
      exact sound'

/-- Who has ended stays so. -/
lemma Ended.follow {sys : System P M} {i : TaskId} {o : Origin P} {x : Exit o.Out}
    (ended : sys.Ended i o x) (sound : sys.Sound) (schedule : List (Choice P)) :
    ∃ y, (sys.follow schedule).Ended i o y := by
  obtain ⟨p, c, found⟩ := ended
  obtain ⟨f, p', c', found', -, evolves, -⟩ :=
    (evolved_follow sys i schedule).own found (sound i _ found)
  obtain ⟨y, rfl⟩ := Fiber.eq_ended (evolves.hasEnded rfl)
  exact ⟨y, p', c', found'⟩

/-- What a task hears when something happens makes sense of the record. -/
lemma threads_hears (view : E.Store → σ) (sys : System P M) (i : TaskId) (choice : Choice P) :
    ∃ b, Threads view (view sys.store) (sys.hears i choice) b := by
  cases choice with
  | turn t =>
      rw [hears]
      split
      · exact ⟨_, threads_resume view sys t⟩
      · exact ⟨_, rfl⟩
  | call c => exact ⟨_, rfl⟩
  | cancel t => exact ⟨_, rfl⟩
  | release t => exact ⟨_, rfl⟩

end System

/-! ### Contracts that rely on nothing -/

section Keeping

variable {K : Contract E σ} (free : ∀ a b, K.rely a b) {a b : σ}

include free in
/-- Who relies on nothing does not mind what happens while it is suspended. -/
lemma Routine.Abides.keeps {α : Type} {s : Suspension E} {k : Exit s.Answer → Routine E α}
    (abides : (Routine.await s k).Abides K (fun _ _ => True) a) : (Routine.await s k).Keeps K := by
  intro b
  cases abides with
  | await rest => exact .await fun b _ x => rest b (free _ b) x

include free in
/-- A task that keeps to a contract does so in its turns, and goes on keeping to it. -/
lemma Evolves.keeps {α : Type} {r : Routine E α} {c : Nat} {f f' : Fiber E α} {h : History E}
    (evolves : Evolves r c f h f') (keeps : (f.rest r).Keeps K) (threads : Threads K.view a h b) :
    Relation.ReflTransGen K.guarantee a b ∧ (∀ j i, Event.asked (.start j) i ∈ h → K.starts j)
      ∧ (f'.rest r).Keeps K := by
  have none : ∀ j i, Event.asked (.start j) i ∈ ([] : History E) → K.starts j :=
    fun j i among => absurd among List.not_mem_nil
  have led : ∀ {r'}, (f.rest r).Leads h r' → Relation.ReflTransGen K.guarantee a b
      ∧ (∀ j i, Event.asked (.start j) i ∈ h → K.starts j)
      ∧ r'.Abides K (fun _ _ => True) b :=
    fun leads => (keeps a).leads (fun a => free a a) leads threads
  cases evolves with
  | still =>
      cases threads
      exact ⟨.refl, none, keeps⟩
  | unbegun asked =>
      cases threads
      exact ⟨.refl, none, Routine.keeps_done _⟩
  | comes comes =>
      cases comes with
      | waiting leads =>
          obtain ⟨steps, starts, abides⟩ := led leads
          exact ⟨steps, starts, abides.keeps free⟩
      | ready leads =>
          obtain ⟨steps, starts, abides⟩ := led leads
          exact ⟨steps, starts, abides.keeps free⟩
      | ended plays =>
          obtain ⟨steps, starts, -⟩ := led plays
          exact ⟨steps, starts, Routine.keeps_done _⟩
      | lost plays asked =>
          obtain ⟨steps, starts, -⟩ := led plays
          exact ⟨steps, starts, Routine.keeps_done _⟩

namespace System

variable [DecidableEq E.Gate] [DecidableEq E.Job] {sys : System P M} {bound : Origin P → Prop}

/-- Every task that is bound keeps to a contract in all that it has still to do. -/
def Keeps (sys : System P M) (K : Contract E σ) (bound : Origin P → Prop) : Prop :=
  ∀ (i : TaskId) (task : Task P), sys.tasks[i]? = some task → bound task.origin →
    (task.fiber.rest task.origin.routine).Keeps K

include free in
/-- **Tasks that are bound by a contract keep to it**, if their routines do. -/
theorem keeps_apply (routines : ∀ o, bound o → o.routine.Keeps K) (sound : sys.Sound)
    (keeps : sys.Keeps K bound) (choice : Choice P) : (sys.apply choice).Keeps K bound := by
  intro i task found bounds
  cases present : sys.tasks[i]? with
  | none =>
      obtain ⟨o, p, n, rfl, -⟩ := fresh_apply sys choice present found
      exact routines o bounds
  | some old =>
      obtain ⟨o, f, p, c⟩ := old
      obtain ⟨f', p', c', found', -, evolves, -⟩ :=
        (evolved_apply sys i choice).own present (sound i _ present)
      cases found.symm.trans found'
      obtain ⟨b, threads⟩ := threads_hears K.view sys i choice
      exact (evolves.keeps free (keeps i _ present bounds) threads).2.2

include free in
/-- What a task that is bound does in its turn. -/
lemma keeps_resume (sound : sys.Sound) (keeps : sys.Keeps K bound) {t : TaskId} {task : Task P}
    (found : sys.tasks[t]? = some task) (bounds : bound task.origin) :
    Relation.ReflTransGen K.guarantee (K.view sys.store) (K.view (sys.resume t).store)
      ∧ ∀ j i, Event.asked (.start j) i ∈ sys.heardIn t → K.starts j := by
  obtain ⟨o, f, p, c⟩ := task
  obtain ⟨f', p', c', -, -, evolves, -⟩ := (sys.turn_resume t).own.own found (sound t _ found)
  obtain ⟨steps, starts, -⟩ :=
    evolves.keeps free (keeps t _ found bounds) (threads_resume K.view sys t)
  exact ⟨steps, starts⟩

end System

end Keeping

end Montage
