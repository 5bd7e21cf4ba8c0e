import Montage.Proofs.Export.Keeping
import Montage.Proofs.Routine.Invariants

/-!
# One export at a time

A desk that was just opened works on no export, and from then on on one at most: the active run is
the only run that has not ended, and one request waits for it.

* `Task.isBusy` — a task has a part in an export that is going on.
* `Idle`, `Taken` — a desk without an export, and a desk with one.
* **`Orderly.follow`** — whatever the schedule, a desk is idle or taken.
* `Taken.follow` — an export lasts until its request ends; till then nobody but its run touches the
  state.
* **`export_course`** — an export from the turn that starts it to the one in which its request ends:
  the run, what the caller is told, and the state.
-/

namespace Montage

variable {H : Interface} {s : Services H} {base : Program H} {M : Machine (Office H)}

/-! ## Parts in an export -/

/-- A task has a part in an export that is going on: a run that has not ended, or a request on its
way. -/
def Task.isBusy : Task (deskProgram s base) → Bool
  | ⟨.job (.inl _), f, _, _⟩ => !f.hasEnded
  | ⟨.call (.inl (.request _)), .waiting .., _, _⟩ => true
  | ⟨.call (.inl (.request _)), .ready .., _, _⟩ => true
  | _ => false

/-- Whether a task is a request for an export. -/
def Origin.isRequest : Origin (deskProgram s base) → Bool
  | .call (.inl (.request _)) => true
  | _ => false

/-- Whether a task is the run of an export. -/
def Origin.isRun : Origin (deskProgram s base) → Bool
  | .job (.inl _) => true
  | _ => false

lemma Origin.eq_requesting {o : Origin (deskProgram s base)} (h : o.isRequest = true) :
    ∃ input, o = requesting s base input := by
  cases o with
  | job j => cases h
  | call c =>
      cases c with
      | inr c => cases h
      | inl c =>
          cases c with
          | request input => exact ⟨input, rfl⟩
          | preload => cases h
          | cancel => cases h

lemma Origin.eq_running {o : Origin (deskProgram s base)} (h : o.isRun = true) :
    ∃ t, o = running s base t := by
  cases o with
  | call c => cases h
  | job j =>
      cases j with
      | inl t => exact ⟨t, rfl⟩
      | inr j => cases h

lemma Task.Nudged.isBusy_eq {t t' : Task (deskProgram s base)} (h : t.Nudged t') :
    t'.isBusy = t.isBusy := by
  cases h with
  | @flags o f =>
      cases o with
      | job j => cases j <;> rfl
      | call c =>
          cases c with
          | inr c => rfl
          | inl c => cases c <;> cases f <;> rfl
  | @woken o s x k =>
      cases o with
      | job j => cases j <;> rfl
      | call c =>
          cases c with
          | inr c => rfl
          | inl c => cases c <;> rfl

/-- Only a run can be busy before its first step. -/
lemma Task.isBusy_fresh {o : Origin (deskProgram s base)} {p : Bool} {n : Nat}
    (other : o.isRun = false) : Task.isBusy ⟨o, .fresh, p, n⟩ = false := by
  cases o with
  | job j =>
      cases j with
      | inl t => cases other
      | inr j => rfl
  | call c =>
      cases c with
      | inr c => rfl
      | inl c => cases c <;> rfl

/-- Nobody is busy who has ended. -/
lemma Task.isBusy_ended {o : Origin (deskProgram s base)} {x : Exit o.Out} {p : Bool} {n : Nat} :
    Task.isBusy ⟨o, .ended x, p, n⟩ = false := by
  cases o with
  | job j => cases j <;> rfl
  | call c =>
      cases c with
      | inr c => rfl
      | inl c => cases c <;> rfl

/-- Besides requests, whoever is busy is a run that has not ended. -/
lemma Task.isBusy_eq {o : Origin (deskProgram s base)} {f : Fiber (Office H) o.Out} {p : Bool}
    {n : Nat} (other : o.isRequest = false) :
    Task.isBusy ⟨o, f, p, n⟩ = (o.isRun && !f.hasEnded) := by
  cases o with
  | job j => cases j <;> rfl
  | call c =>
      cases c with
      | inr c => rfl
      | inl c =>
          cases c with
          | request input => cases other
          | preload => rfl
          | cancel => rfl

/-! ## Idle and taken desks -/

section States

variable [DecidableEq H.Job]

/-- A request waits for its run, or has been told how it ended. -/
inductive Attends (tasks : List (Task (deskProgram s base))) (c : TaskId) (input : ExportInput)
    (r : TaskId) (t : Timeline) : Prop
  | waiting {p : Bool} {n : Nat} (found : tasks[c]? = some
      ⟨requesting s base input, .waiting (.join (.inl t) r) Request.onExit, p, n⟩)
  | told {x : Exit Video} {p : Bool} {n : Nat} (found : tasks[c]? = some
      ⟨requesting s base input, .ready (.join (.inl t) r) x Request.onExit, p, n⟩)
      (ended : exitOf tasks r (.inl t) = some x)

namespace System

/-- A desk that works on no export: no run is active, and no task is busy with one. -/
structure Idle (sys : System (deskProgram s base) M) : Prop where
  active : sys.store.2.active = none
  calm : ∀ (i : TaskId) (task : Task (deskProgram s base)), sys.tasks[i]? = some task →
    task.isBusy = false

/-- A desk that works on one export: the request `c` waits for the run `r` of the timeline `t`, and
nobody else is busy. -/
structure Taken (sys : System (deskProgram s base) M) (c : TaskId) (input : ExportInput)
    (r : TaskId) (t : Timeline) : Prop where
  active : sys.store.2.active = some r
  attends : Attends sys.tasks c input r t
  run : ∃ f p n, sys.tasks[r]? = some ⟨running s base t, f, p, n⟩
  calm : ∀ (i : TaskId) (task : Task (deskProgram s base)), sys.tasks[i]? = some task →
    task.isBusy = true → i = c ∨ i = r

/-- The request and its run are two tasks. -/
lemma Taken.ne {sys : System (deskProgram s base) M} {c r : TaskId} {input : ExportInput}
    {t : Timeline} (taken : sys.Taken c input r t) : c ≠ r := by
  rintro rfl
  obtain ⟨f, p, n, run⟩ := taken.run
  cases taken.attends with
  | waiting found => cases found.symm.trans run
  | told found => cases found.symm.trans run

/-- What holds of a desk between two turns: its tasks are sound, runs and calls keep to what is
theirs, and the desk is `Idle` or `Taken`.  Every step keeps it (`Orderly.apply`). -/
structure Orderly (sys : System (deskProgram s base) M) : Prop where
  sound : sys.Sound
  runs : sys.Keeps Desk.forRuns fun o => o.isRequest = false
  others : sys.Keeps Desk.forOthers fun o => o.isRun = false
  order : sys.Idle ∨ ∃ c input r t, sys.Taken c input r t

/-- A desk without an active run is idle. -/
lemma Orderly.idle {sys : System (deskProgram s base) M} (orderly : sys.Orderly)
    (free : sys.store.2.active = none) : sys.Idle := by
  rcases orderly.order with idle | ⟨c, input, r, t, taken⟩
  · exact idle
  · cases free.symm.trans taken.active

/-- A desk that was just opened. -/
def opened (world : M.State) (store : H.Store) : System (deskProgram s base) M where
  world
  store := (store, {})

lemma orderly_opened (world : M.State) (store : H.Store) :
    (opened world store : System (deskProgram s base) M).Orderly where
  sound i task found := by cases found
  runs i task found := by cases found
  others i task found := by cases found
  order := .inl ⟨rfl, fun i task found => by cases found⟩

end System

end States

/-! ### Contracts -/

lemma keeps_of_not_request {o : Origin (deskProgram s base)} (other : o.isRequest = false) :
    o.routine.Keeps Desk.forRuns := by
  cases o with
  | job j =>
      cases j with
      | inl t => exact keeps_run s t
      | inr j => exact keeps_atBase (base.job j)
  | call c =>
      cases c with
      | inr c => exact keeps_atBase (base.call c)
      | inl c =>
          cases c with
          | request input => cases other
          | preload => exact keeps_preload s fun _ _ => rfl
          | cancel => exact keeps_cancel

lemma keeps_of_not_run {o : Origin (deskProgram s base)} (other : o.isRun = false) :
    o.routine.Keeps Desk.forOthers := by
  cases o with
  | job j =>
      cases j with
      | inl t => cases other
      | inr j => exact keeps_atBase (base.job j)
  | call c =>
      cases c with
      | inr c => exact keeps_atBase (base.call c)
      | inl c => exact keeps_routine s c

/-! ## Choices that take nobody up -/

namespace System

variable {sys : System (deskProgram s base) M}

/-- A change that leaves the active run as it is and makes nobody busy. -/
structure Calmly (sys sys' : System (deskProgram s base) M) : Prop where
  active : sys'.store.2.active = sys.store.2.active
  busy : ∀ (i : TaskId) (task' : Task (deskProgram s base)), sys'.tasks[i]? = some task' →
    task'.isBusy = true → ∃ task, sys.tasks[i]? = some task ∧ task.isBusy = true

lemma Calmly.refl (sys : System (deskProgram s base) M) : sys.Calmly sys :=
  ⟨rfl, fun _ task' found busy => ⟨task', found, busy⟩⟩

lemma Idle.calmly {sys' : System (deskProgram s base) M} (idle : sys.Idle)
    (calm : sys.Calmly sys') : sys'.Idle := by
  refine ⟨calm.active.trans idle.active, fun i task' found => ?_⟩
  cases busy : task'.isBusy with
  | false => rfl
  | true =>
      obtain ⟨task, found', busy'⟩ := calm.busy i task' found busy
      exact busy'.symm.trans (idle.calm i task found')

variable [DecidableEq H.Gate] [DecidableEq H.Job] {c r : TaskId} {input : ExportInput}
  {t : Timeline}

/-- Who takes no turn does not become busy. -/
lemma calmly_of_own {choice : Choice (deskProgram s base)}
    (active : (sys.apply choice).store.2.active = sys.store.2.active)
    (own : ∀ i task', choice = .turn i → (sys.apply choice).tasks[i]? = some task' →
      task'.isBusy = true → ∃ task, sys.tasks[i]? = some task ∧ task.isBusy = true)
    (fresh : ∀ (i : TaskId) (task' : Task (deskProgram s base)), sys.tasks[i]? = none →
      (sys.apply choice).tasks[i]? = some task' → task'.isBusy = false) :
    sys.Calmly (sys.apply choice) := by
  refine ⟨active, fun i task' found busy => ?_⟩
  by_cases here : choice = .turn i
  · exact own i task' here found busy
  · cases present : sys.tasks[i]? with
    | none => exact absurd ((fresh i task' present found).symm.trans busy) Bool.false_ne_true
    | some task =>
        obtain ⟨task'', found'', nudged⟩ := nudged_apply sys here present
        cases found.symm.trans found''
        exact ⟨task, rfl, nudged.isBusy_eq.symm.trans busy⟩

/-- Who keeps a part of the desk leaves it as it is. -/
lemma eq_of_keeps {σ : Type} {g : Desk → σ} {runs : Prop}
    {bound : Origin (deskProgram s base) → Prop} (sound : sys.Sound)
    (keeps : sys.Keeps (Desk.keeping g runs) bound) {i : TaskId}
    {task : Task (deskProgram s base)} (found : sys.tasks[i]? = some task)
    (bounds : bound task.origin) : g (sys.resume i).store.2 = g sys.store.2 := by
  have steps : Relation.ReflTransGen Eq (g sys.store.2) (g (sys.resume i).store.2) :=
    (keeps_resume (fun _ _ => trivial) sound keeps found bounds).1
  rw [Relation.reflTransGen_eq_self] at steps
  exact steps.symm

/-- A request that ends in its first turn. -/
lemma calmly_ends {o : Origin (deskProgram s base)} {f : Fiber (Office H) o.Out} {p p' : Bool}
    {n : Nat} (found : sys.tasks[c]? = some ⟨o, f, p, n⟩) {x : Exit o.Out}
    (ends : sys.resume c = (sys.begun c o p' n).finish c o x) : sys.Calmly (sys.resume c) := by
  have steady := (sys.steady_update c fun _ => ⟨o, .running, p', n⟩).trans
    (steady_finish _ c o x)
  change sys.Calmly (sys.apply (.turn c))
  refine calmly_of_own ?_ (fun i task' here found' busy => ?_) fun i task' absent found' => ?_
  · rw [apply, ends]
    exact congrArg (fun store => store.2.active) steady.store
  · cases here
    have begins := running_begun found p'
    rw [apply, ends, tasks_finish begins,
      announced_own (List.getElem?_eq_some_iff.mp begins).1] at found'
    cases found'
    exact absurd (Task.isBusy_ended.symm.trans busy) Bool.false_ne_true
  · rw [apply, ends] at found'
    exact absurd found' (steady.ne_some absent task')

/-- The turn of a request that is not on its way: it is taken up, or nothing comes of it. -/
lemma turn_request {f : Fiber (Office H) Video} {p : Bool} {n : Nat}
    (found : sys.tasks[c]? = some ⟨requesting s base input, f, p, n⟩)
    (calm : Task.isBusy ⟨requesting s base input, f, p, n⟩ = false) :
    sys.Calmly (sys.resume c) ∨
      ∃ t, f = .fresh ∧ p = false ∧ Request.admitted s input sys.store.2 = .ok t := by
  have same : sys.resume c = sys → sys.Calmly (sys.resume c) := fun same => by
    rw [same]
    exact .refl sys
  cases f with
  | running => exact .inl (same (by simp only [resume, found]))
  | ended x => exact .inl (same (by simp only [resume, found]))
  | waiting s k => cases calm
  | ready s x k => cases calm
  | fresh =>
      cases p with
      | true =>
          exact .inl (calmly_ends found (resume_fresh_asked found))
      | false =>
          cases admitted : Request.admitted s input sys.store.2 with
          | ok t => exact .inr ⟨t, rfl, rfl, rfl⟩
          | error e => exact .inl (calmly_ends found (resume_refused found admitted))

/-- What happens between the turns of requests takes nobody up. -/
lemma calmly_apply (sound : sys.Sound)
    (keeps : sys.Keeps Desk.forRuns fun o => o.isRequest = false)
    {choice : Choice (deskProgram s base)} (other : ∀ i task, choice = .turn i →
      sys.tasks[i]? = some task → task.origin.isRequest = false) :
    sys.Calmly (sys.apply choice) := by
  have calm : ∀ (u : TaskId) (task' : Task (deskProgram s base)), sys.tasks[u]? = none →
      (sys.apply choice).tasks[u]? = some task' → task'.isBusy = false := by
    intro u task' absent found
    obtain ⟨o, p, n, rfl, -, started⟩ := fresh_apply sys choice absent found
    refine Task.isBusy_fresh ?_
    cases o with
    | call c => rfl
    | job j =>
        cases j with
        | inr j => rfl
        | inl t =>
            obtain ⟨i, rfl, among⟩ := started _ rfl
            cases present : sys.tasks[i]? with
            | none =>
                rw [heardIn, present] at among
                exact absurd among List.not_mem_nil
            | some task =>
                have starts := (keeps_resume (fun _ _ => trivial) sound keeps present
                  (other i task rfl present)).2
                exact absurd among fun among => starts _ _ among
  refine calmly_of_own ?_ (fun i task' here found busy => ?_) calm
  · cases choice with
    | call c => rfl
    | cancel t => exact congrArg (fun store => store.2.active) (steady.cancelWithin sys t _).store
    | release t => exact congrArg (fun store => store.2.active) (sys.steady_release t).store
    | turn i =>
        cases present : sys.tasks[i]? with
        | none => simp only [apply, resume, present]
        | some task => exact eq_of_keeps sound keeps present (other i task rfl present)
  · subst here
    cases present : sys.tasks[i]? with
    | none => exact absurd ((calm i task' present found).symm.trans busy) Bool.false_ne_true
    | some task =>
        obtain ⟨o, f, p, n⟩ := task
        obtain ⟨f', p', n', found', -, evolves, -⟩ :=
          (sys.turn_resume i).own.own present (sound i _ present)
        cases found.symm.trans found'
        have apart : o.isRequest = false := other i _ rfl present
        rw [Task.isBusy_eq apart] at busy
        obtain ⟨run, unended⟩ := Bool.and_eq_true_iff.mp busy
        refine ⟨_, rfl, ?_⟩
        rw [Task.isBusy_eq apart, run]
        cases before : f.hasEnded with
        | false => rfl
        | true =>
            rw [evolves.hasEnded before] at unended
            cases unended

/-- Whatever happens takes nobody up, unless a request takes its turn that is on its way or is
accepted. -/
lemma apply_cases (sound : sys.Sound)
    (keeps : sys.Keeps Desk.forRuns fun o => o.isRequest = false)
    (choice : Choice (deskProgram s base)) : sys.Calmly (sys.apply choice) ∨
      ∃ i input f p n, choice = .turn i ∧ sys.tasks[i]? = some ⟨requesting s base input, f, p, n⟩
        ∧ (Task.isBusy ⟨requesting s base input, f, p, n⟩ = true
          ∨ ∃ t, f = .fresh ∧ p = false ∧ Request.admitted s input sys.store.2 = .ok t) := by
  by_cases request : ∃ i input f p n, choice = .turn i
      ∧ sys.tasks[i]? = some ⟨requesting s base input, f, p, n⟩
  · obtain ⟨i, input, f, p, n, rfl, found⟩ := request
    cases busy : Task.isBusy ⟨requesting s base input, f, p, n⟩ with
    | true => exact .inr ⟨i, input, f, p, n, rfl, found, .inl busy⟩
    | false =>
        refine (turn_request found busy).imp_right fun accepted => ?_
        exact ⟨i, input, f, p, n, rfl, found, .inr accepted⟩
  · refine .inl (calmly_apply sound keeps fun i task turn found => ?_)
    cases other : task.origin.isRequest with
    | false => rfl
    | true =>
        obtain ⟨o, f, p, n⟩ := task
        obtain ⟨input, rfl⟩ := Origin.eq_requesting other
        exact absurd ⟨i, input, f, p, n, turn, found⟩ request

/-! ## Idle desks -/

/-- A request that is accepted takes an idle desk. -/
lemma taken_accepted (idle : sys.Idle) {n : Nat}
    (found : sys.tasks[c]? = some ⟨requesting s base input, .fresh, false, n⟩)
    (ok : Request.admitted s input sys.store.2 = .ok t) :
    (sys.resume c).Taken c input sys.tasks.length t := by
  obtain ⟨waits, run, length, store⟩ := resume_accepted found ok
  refine ⟨by rw [store], .waiting waits, ⟨_, _, _, run⟩, fun i task' found' busy => ?_⟩
  by_contra apart
  rw [not_or] at apart
  have inside : i < sys.tasks.length := by
    have below := (List.getElem?_eq_some_iff.mp found').1
    rw [length] at below
    exact Nat.lt_of_le_of_ne (Nat.le_of_lt_succ below) apart.2
  obtain ⟨task'', found'', nudged, -⟩ :=
    (sys.turn_resume c).others.each i _ apart.1 (List.getElem?_eq_getElem inside)
  cases found'.symm.trans found''
  have calm := idle.calm i _ (List.getElem?_eq_getElem inside)
  exact absurd (calm.symm.trans (nudged.isBusy_eq.symm.trans busy)) Bool.false_ne_true

/-- An idle desk stays idle, or is taken by a request. -/
lemma Idle.apply (idle : sys.Idle) (sound : sys.Sound)
    (keeps : sys.Keeps Desk.forRuns fun o => o.isRequest = false)
    (choice : Choice (deskProgram s base)) :
    (sys.apply choice).Idle ∨ ∃ c input r t, (sys.apply choice).Taken c input r t := by
  rcases apply_cases sound keeps choice with
    calm | ⟨i, input, f, p, n, rfl, found, busy | ⟨t, rfl, rfl, ok⟩⟩
  · exact .inl (idle.calmly calm)
  · cases busy.symm.trans (idle.calm i _ found)
  · exact .inr ⟨_, _, _, _, taken_accepted idle found ok⟩

/-! ## Taken desks -/

/-- A request that was told how its run ended ends in its next turn, and frees the desk. -/
lemma freed_told (sound : sys.Sound) {x : Exit Video} {p : Bool} {n : Nat}
    (told : sys.tasks[c]? = some
      ⟨requesting s base input, .ready (.join (.inl t) r) x Request.onExit, p, n⟩) :
    (sys.resume c).store.2.active = none ∧ (∃ y, (sys.resume c).Ended c (requesting s base input) y)
      ∧ ∀ j i, .asked (.start j) i ∉ sys.heardIn c := by
  obtain ⟨f, p', n', found, -, evolves, -⟩ := (sys.turn_resume c).own.own told (sound c _ told)
  obtain ⟨e, h, heard⟩ := heardIn_ready told
  have threads := threads_resume (Desk.freeing (H := H)).view sys c
  rw [heard] at evolves threads ⊢
  -- all that is left is to free the desk
  have left : (Routine.await (.join (.inl t) r) Request.onExit : OfficeRoutine H Video).Abides
      Desk.freeing (fun b _ => b = none) sys.store.2.active :=
    .await fun b _ x => frees_onExit x b
  have ended : ∀ {y}, (Routine.await (.join (.inl t) r) Request.onExit : OfficeRoutine H Video).Plays
      (e :: h) y → (sys.resume c).store.2.active = none
        ∧ ∀ j i, Event.asked (.start j) i ∉ e :: h := fun plays => by
    obtain ⟨-, starts, -⟩ := left.leads (fun _ => trivial) plays threads
    exact ⟨left.post_of_plays (fun _ => trivial) plays threads, starts⟩
  cases evolves with
  | comes comes =>
      cases comes with
      | waiting leads =>
          cases leads with
          | await rest => exact absurd rest (Request.prompt_onExit _).never_waits
      | ready leads =>
          cases leads with
          | await rest => exact absurd rest (Request.prompt_onExit _).never_waits
      | ended plays => exact ⟨(ended plays).1, ⟨_, p', n', found⟩, (ended plays).2⟩
      | lost plays asked => exact ⟨(ended plays).1, ⟨_, p', n', found⟩, (ended plays).2⟩

/-- When the request has been told, its run has ended. -/
lemma Taken.idle (taken : sys.Taken c input r t) (sound : sys.Sound) {x : Exit Video} {p : Bool}
    {n : Nat} (told : sys.tasks[c]? = some
      ⟨requesting s base input, .ready (.join (.inl t) r) x Request.onExit, p, n⟩)
    (ended : exitOf sys.tasks r (.inl t) = some x) : (sys.resume c).Idle := by
  obtain ⟨active, ⟨y, p', n', own⟩, none⟩ := freed_told sound told
  refine ⟨active, fun i task' found => ?_⟩
  cases busy : task'.isBusy with
  | false => rfl
  | true =>
      by_cases here : i = c
      · subst here
        cases found.symm.trans own
        exact busy.symm.trans Task.isBusy_ended
      · cases present : sys.tasks[i]? with
        | none =>
            obtain ⟨j, -, -, -, -, among⟩ := sys.started_resume c present found
            exact absurd among (none j i)
        | some task =>
            obtain ⟨task'', found'', nudged, -⟩ := (sys.turn_resume c).others.each i _ here present
            cases found.symm.trans found''
            have before : task.isBusy = true := nudged.isBusy_eq.symm.trans busy
            obtain rfl : i = r := (taken.calm i task present before).resolve_left here
            obtain ⟨f, p, n, run⟩ := taken.run
            cases present.symm.trans run
            rw [exitOf, run] at ended
            rw [Task.exit?_job.mp ended] at before
            cases before

/-- Until its next turn a request waits for its run, or has been told how it ended. -/
lemma attends_apply (attends : Attends sys.tasks c input r t) (sound : sys.Sound)
    {choice : Choice (deskProgram s base)} (apart : choice ≠ .turn c) :
    Attends (sys.apply choice).tasks c input r t := by
  cases attends with
  | waiting found =>
      obtain ⟨task, found', nudged⟩ := nudged_apply sys apart found
      cases nudged with
      | flags more => exact .waiting found'
      | woken more => exact .told found' (sound_apply sound choice c _ found').fiber
  | told found ended =>
      obtain ⟨task, found', nudged⟩ := nudged_apply sys apart found
      cases nudged with
      | flags more => exact .told found' ((sys.evolved_apply r choice).ends _ _ _ ended)

/-- **A desk is taken until the request ends that took it**, and then it is idle. -/
theorem Taken.apply (taken : sys.Taken c input r t) (sound : sys.Sound)
    (keeps : sys.Keeps Desk.forRuns fun o => o.isRequest = false)
    (choice : Choice (deskProgram s base)) :
    (sys.apply choice).Taken c input r t ∨ (sys.apply choice).Idle ∧
      ∃ y, (sys.apply choice).Ended c (requesting s base input) y := by
  by_cases here : choice = .turn c
  · subst here
    cases taken.attends with
    | waiting found =>
        rw [System.apply, resume_waiting found]
        exact .inl taken
    | told found ended => exact .inr ⟨taken.idle sound found ended, (freed_told sound found).2.1⟩
  · refine .inl ?_
    obtain ⟨f, p, n, run⟩ := taken.run
    obtain ⟨f', p', n', run', -⟩ := (sys.evolved_apply r choice).own run (sound r _ run)
    have attends := attends_apply taken.attends sound here
    rcases apply_cases sound keeps choice with
      calm | ⟨i, input', f, p, n, rfl, found, busy | ⟨t', -, -, ok⟩⟩
    · refine ⟨calm.active.trans taken.active, attends, ⟨f', p', n', run'⟩,
        fun i task' found busy => ?_⟩
      obtain ⟨task, found', busy'⟩ := calm.busy i task' found busy
      exact taken.calm i task found' busy'
    · rcases taken.calm i _ found busy with rfl | rfl
      · exact absurd rfl here
      · cases found.symm.trans run
    · rw [Request.admitted_busy taken.active] at ok
      cases ok

/-! ## Desks over a schedule -/

lemma Orderly.apply (orderly : sys.Orderly) (choice : Choice (deskProgram s base)) :
    (sys.apply choice).Orderly where
  sound := sound_apply orderly.sound choice
  runs := keeps_apply (fun _ _ => trivial) (fun _ => keeps_of_not_request) orderly.sound
    orderly.runs choice
  others := keeps_apply (fun _ _ => trivial) (fun _ => keeps_of_not_run) orderly.sound
    orderly.others choice
  order := by
    rcases orderly.order with idle | ⟨c, input, r, t, taken⟩
    · exact idle.apply orderly.sound orderly.runs choice
    · rcases taken.apply orderly.sound orderly.runs choice with taken | ⟨idle, -⟩
      · exact .inr ⟨c, input, r, t, taken⟩
      · exact .inl idle

/-- **Whatever the schedule, a desk works on one export at most.** -/
theorem Orderly.follow (orderly : sys.Orderly) (schedule : List (Choice (deskProgram s base))) :
    (sys.follow schedule).Orderly := by
  induction schedule generalizing sys with
  | nil => exact orderly
  | cons choice rest ih => exact ih (orderly.apply choice)

/-- A state that a desk can come to: one that some schedule leads to from a desk that has just been
opened, in whatever surroundings. -/
def Reached (sys : System (deskProgram s base) M) : Prop :=
  ∃ world store schedule, sys = (opened world store).follow schedule

lemma Reached.orderly (reached : sys.Reached) : sys.Orderly := by
  obtain ⟨world, store, schedule, rfl⟩ := reached
  exact (orderly_opened world store).follow schedule

/-! ### The course of an export -/

/-- Nobody but the run touches the state. -/
lemma Taken.threads (taken : sys.Taken c input r t) (orderly : sys.Orderly)
    (choice : Choice (deskProgram s base)) :
    Threads (Desk.alone (H := H)).view sys.store.2.state (sys.hears r choice)
      (sys.apply choice).store.2.state := by
  cases choice with
  | call c => rfl
  | cancel t => exact congrArg (fun store => store.2.state) (steady.cancelWithin sys t _).store
  | release t => exact congrArg (fun store => store.2.state) (sys.steady_release t).store
  | turn i =>
      rw [hears]
      split
      · rename_i here
        subst here
        exact threads_resume (Desk.alone (H := H)).view sys i
      · rename_i apart
        change (sys.resume i).store.2.state = sys.store.2.state
        cases present : sys.tasks[i]? with
        | none => simp only [resume, present]
        | some task =>
            cases run : task.origin.isRun with
            | false => exact eq_of_keeps orderly.sound orderly.others present run
            | true =>
                obtain ⟨o, f, p, n⟩ := task
                obtain ⟨t', rfl⟩ := Origin.eq_running run
                have ended : f.hasEnded = true := by
                  by_contra unended
                  have busy : Task.isBusy ⟨running s base t', f, p, n⟩ = true := by
                    rw [Task.isBusy_eq rfl, eq_false_of_ne_true unended]
                    rfl
                  rcases taken.calm i _ present busy with rfl | rfl
                  · cases taken.attends with
                    | waiting found => cases present.symm.trans found
                    | told found => cases present.symm.trans found
                  · exact apart rfl
                obtain ⟨x, rfl⟩ := Fiber.eq_ended ended
                simp only [resume, present]

/-- **An export lasts until its request ends**, and till then nobody but its run touches the
state. -/
theorem Taken.follow (taken : sys.Taken c input r t) (orderly : sys.Orderly)
    (schedule : List (Choice (deskProgram s base))) :
    ((sys.follow schedule).Taken c input r t ∧ Threads (Desk.alone (H := H)).view
      sys.store.2.state (sys.history r schedule) (sys.follow schedule).store.2.state)
    ∨ ∃ y, (sys.follow schedule).Ended c (requesting s base input) y := by
  induction schedule generalizing sys with
  | nil => exact .inl ⟨taken, rfl⟩
  | cons choice rest ih =>
      have orderly' := orderly.apply choice
      rcases taken.apply orderly.sound orderly.runs choice with taken' | ⟨-, y, ended⟩
      · refine (ih taken' orderly').imp_left fun ⟨last, threads⟩ => ⟨last, ?_⟩
        exact threads_append.mpr ⟨_, taken.threads orderly choice, threads⟩
      · exact .inr (ended.follow orderly'.sound rest)

/-- A request that ends in its next turn has heard how its run ended. -/
lemma Taken.told (taken : sys.Taken c input r t)
    (lasts : ∀ y, ¬ sys.Ended c (requesting s base input) y)
    {y : Exit Video} (ended : (sys.resume c).Ended c (requesting s base input) y) :
    ∃ x, exitOf sys.tasks r (.inl t) = some x := by
  cases taken.attends with
  | told _ told => exact ⟨_, told⟩
  | waiting found =>
      rw [resume_waiting found] at ended
      exact absurd ended (lasts y)

/-- How an export goes from the first turn of its request to the last; who is told of a video is
told of that of the run. -/
lemma course_of_ended (orderly : sys.Orderly)
    (asks : sys.tasks[c]? = some { origin := requesting s base input })
    (idle : sys.store.2.active = none) (ok : Request.accepted s.freshId input = .ok t)
    (schedule : List (Choice (deskProgram s base)))
    (lasts : ∀ y, ¬ ((sys.resume c).follow schedule).Ended c (requesting s base input) y)
    {y : Exit Video} {p : Bool} {n : Nat}
    (ended : (((sys.resume c).follow schedule).resume c).tasks[c]?
      = some ⟨requesting s base input, .ended y, p, n⟩) :
    ∃ x p' n', let last := ((sys.resume c).follow schedule).resume c
      let h := (sys.resume c).history sys.tasks.length schedule
      last.tasks[sys.tasks.length]? = some ⟨running s base t, .ended x, p', n'⟩
        ∧ ((0 < n ∧ ∀ v, y ≠ .returned v) ∨ y = x.told)
        ∧ Threads (Desk.alone (H := H)).view sys.store.2.state h last.store.2.state
        ∧ ((Montage.run s t).Plays h x
          ∨ 0 < n' ∧ x = .cancelled ∧ (h = [] ∨ ∃ v, (Montage.run s t).Plays h (.returned v))) := by
  have admitted := (Request.admitted_idle idle).trans ok
  obtain ⟨waits, fresh, -, store⟩ := resume_accepted asks admitted
  have unended := exitOf_of_unended fresh rfl (.inl t)
  have begins := orderly.apply (.turn c)
  have before : (sys.resume c).store.2.state = sys.store.2.state := by rw [store]
  rcases (taken_accepted (orderly.idle idle) asks admitted).follow begins schedule with
    ⟨taken, threads⟩ | ⟨y, early⟩
  · have silent : ((sys.resume c).follow schedule).hears sys.tasks.length (.turn c) = [] := by
      rw [hears, if_neg taken.ne]
    -- the last turn is the request's own, and leaves the run and the state alone
    have closing : (((sys.resume c).follow schedule).resume c).store.2.state
        = ((sys.resume c).follow schedule).store.2.state := by
      have last := taken.threads (begins.follow schedule) (.turn c)
      rwa [silent] at last
    obtain ⟨x, told⟩ := taken.told lasts ⟨p, n, ended⟩
    have last := (((sys.resume c).follow schedule).turn_resume c).own.ends _ _ _ told
    have evolved : ∀ i, Evolved i ((sys.resume c).history i (schedule ++ [.turn c]))
        (sys.resume c).tasks (((sys.resume c).follow schedule).resume c).tasks := by
      intro i
      rw [← follow_turn]
      exact evolved_follow (sys.resume c) i (schedule ++ [.turn c])
    obtain ⟨p', n', found, plays⟩ := plays_of_ended fresh (evolved sys.tasks.length) last
    rw [history_append, history, history, silent, List.append_nil, List.append_nil] at plays
    refine ⟨x, p', n', found, ?_, ?_, plays⟩
    · refine (heard_of_ended waits (.calm unended) (evolved c) ended).imp_right ?_
      rintro ⟨x', told', same⟩
      cases told'.symm.trans last
      exact same
    · rw [closing, ← before]
      exact threads
  · exact absurd early (lasts y)

/-- **The course of an export** from the first turn of its request to the last.  Its run has ended;
the caller was told how, unless it was asked to stop itself; and the state is what the run has made
of it. -/
theorem export_course (orderly : sys.Orderly)
    (asks : sys.tasks[c]? = some { origin := requesting s base input })
    (idle : sys.store.2.active = none) (ok : Request.accepted s.freshId input = .ok t)
    (schedule : List (Choice (deskProgram s base)))
    (lasts : ∀ y, ¬ ((sys.resume c).follow schedule).Ended c (requesting s base input) y)
    {y : Exit Video} {p : Bool} {n : Nat}
    (ended : (((sys.resume c).follow schedule).resume c).tasks[c]?
      = some ⟨requesting s base input, .ended y, p, n⟩) :
    ∃ x p' n', let last := ((sys.resume c).follow schedule).resume c
      let h := (sys.resume c).history sys.tasks.length schedule
      last.tasks[sys.tasks.length]? = some ⟨running s base t, .ended x, p', n'⟩
        ∧ (0 < n ∨ y = x.told)
        ∧ Threads (Desk.alone (H := H)).view sys.store.2.state h last.store.2.state
        ∧ ((Montage.run s t).Plays h x
          ∨ 0 < n' ∧ x = .cancelled ∧ (h = [] ∨ ∃ v, (Montage.run s t).Plays h (.returned v))) := by
  obtain ⟨x, p', n', found, told, rest⟩ := course_of_ended orderly asks idle ok schedule lasts ended
  exact ⟨x, p', n', found, told.imp_left And.left, rest⟩

end System

end Montage
