import Montage.Export.Calls
import Montage.Proofs.Export.Conduct
import Montage.Proofs.Routine.Evolution

/-!
# How a request goes

A request that is accepted starts its run, waits for it, and tells its caller how the run ended.  In
between anything may happen: other tasks take turns, and anyone may be asked to stop.

* `launched` — the state when a run has been started.
* `resume_accepted`, `resume_rejected` — the first turn of a request.
* `told_of_ended` — **the caller is told the end of the run, unless it was asked to stop itself**.
* `plays_of_ended` — the history of a run that has ended.
-/

namespace Montage

variable {H : Interface} {s : Services H} {base : Program H} {M : Machine (Office H)}

/-! ## The routine of a request -/

namespace Request

/-- What a request does once its timeline is accepted. -/
def pursue (t : Timeline) : OfficeRoutine H Video :=
  (Routine.start (E := Office H) (.inl t)).bind fun id =>
    (Desk.setActive (some id)).bind fun _ => awaitRun t id

/-- What a request does with the end of its run. -/
def onExit (x : Exit Video) : OfficeRoutine H Video :=
  (Desk.setActive none).bind fun _ =>
    match x with
    | .cancelled =>
      (Routine.cancelling (E := Office H)).bind fun asked =>
        if asked then .done .cancelled else Routine.refuse .cancelled
    | x => .done x

lemma accepted_timeline (freshId : String) (t : Timeline) :
    accepted freshId (.timeline t)
      = (t.validate.mapError fun p => .expected (.validation p)).map fun _ => t := by
  change (t.validate.mapError _).bind (fun _ => .ok t) = _
  cases t.validate <;> rfl

/-- The timeline that a desk takes from a request, if it takes the request at all. -/
def admitted (s : Services H) (input : ExportInput) (d : Desk) : Except Failure Timeline :=
  if d.active.isSome then .error (.expected .busy) else accepted s.freshId input

lemma admitted_idle {s : Services H} {input : ExportInput} {d : Desk} (idle : d.active = none) :
    admitted s input d = accepted s.freshId input := by
  rw [admitted, idle]
  rfl

lemma admitted_busy {s : Services H} {input : ExportInput} {d : Desk} {r : TaskId}
    (busy : d.active = some r) : admitted s input d = .error (.expected .busy) := by
  rw [admitted, busy]
  rfl

lemma awaitRun_eq (t : Timeline) (id : TaskId) :
    (awaitRun t id : OfficeRoutine H Video) = .await (.join (.inl t) id) onExit := by
  refine congrArg (Routine.await (E := Office H) (.join (.inl t) id)) (funext fun x => ?_)
  cases x <;> rfl

end Request

lemma requestExport_eq (s : Services H) (input : ExportInput) :
    requestExport s input = Desk.get.bind fun d =>
      (Routine.ofExcept (Request.admitted s input d)).bind Request.pursue := by
  refine congrArg Desk.get.bind (funext fun d => ?_)
  rw [Request.admitted]
  cases d.active.isSome <;> rfl

/-- What the caller of an export is told of the end of its run. -/
def Exit.told {α : Type} : Exit α → Exit α
  | .cancelled => .failed (.expected .cancelled)
  | x => x

lemma Request.plays_onExit {x y : Exit Video} {h : History (Office H)}
    (plays : (onExit x).Plays h y) :
    y = x.told ∨ x = .cancelled ∧ y = .cancelled ∧ .asked .cancelling true ∈ h := by
  obtain ⟨_, h₁, h₂, rfl, -, later⟩ := Routine.plays_bind_of_returns (surely_modify _) plays
  cases x with
  | returned v => exact .inl (Routine.plays_done.mp later).2
  | failed e => exact .inl (Routine.plays_done.mp later).2
  | cancelled =>
      obtain ⟨asked, rest, rfl, last⟩ := Routine.plays_ask.mp later
      cases asked with
      | false => exact .inl (Routine.plays_done.mp last).2
      | true =>
          exact .inr ⟨rfl, (Routine.plays_done.mp last).2,
            List.mem_append_right _ List.mem_cons_self⟩

/-- When its run has ended a request does not wait any more. -/
lemma Request.prompt_onExit (x : Exit Video) : (onExit (H := H) x).Prompt := by
  refine .ask fun old => .ask fun _ => ?_
  cases x with
  | returned v => exact .done _
  | failed e => exact .done _
  | cancelled =>
      refine .ask fun asked => ?_
      cases asked with
      | false => exact .done _
      | true => exact .done _

/-! ## The first turn -/

/-- The task of a request. -/
abbrev requesting (s : Services H) (base : Program H) (input : ExportInput) :
    Origin (deskProgram s base) :=
  .call (.inl (.request input))

/-- The task of a run. -/
abbrev running (s : Services H) (base : Program H) (t : Timeline) : Origin (deskProgram s base) :=
  .job (.inl t)

namespace System

variable {sys : System (deskProgram s base) M} {c : TaskId} {input : ExportInput} {t : Timeline}

/-- The state when the run of a request has been started. -/
def launched (sys : System (deskProgram s base) M) (t : Timeline) : System (deskProgram s base) M :=
  { (sys.spawn (running s base t)).2 with
    store := (sys.store.1, { sys.store.2 with active := some sys.tasks.length }) }

variable [DecidableEq H.Gate] [DecidableEq H.Job]

lemma perform_request :
    sys.perform c (requesting s base input) (requestExport s input)
      = sys.perform c (requesting s base input)
        ((Routine.ofExcept (Request.admitted s input sys.store.2)).bind Request.pursue) := by
  rw [requestExport_eq]
  rfl

lemma perform_accepted (ok : Request.admitted s input sys.store.2 = .ok t) :
    sys.perform c (requesting s base input) (requestExport s input)
      = (sys.launched t).perform c (requesting s base input)
        (Request.awaitRun t sys.tasks.length) := by
  rw [perform_request, ok]
  rfl

lemma perform_refused {e : Failure} (bad : Request.admitted s input sys.store.2 = .error e) :
    sys.perform c (requesting s base input) (requestExport s input)
      = sys.finish c (requesting s base input) (.failed e) := by
  rw [perform_request, bad]
  rfl

variable {n : Nat}

/-- The first turn of a request that is accepted: its run is there and has not taken its first step,
and the request waits for it. -/
lemma resume_accepted (found : sys.tasks[c]? = some ⟨requesting s base input, .fresh, false, n⟩)
    (ok : Request.admitted s input sys.store.2 = .ok t) :
    (sys.resume c).tasks[c]? = some ⟨requesting s base input,
        .waiting (.join (.inl t) sys.tasks.length) Request.onExit, false, n⟩
      ∧ (sys.resume c).tasks[sys.tasks.length]? = some { origin := running s base t }
      ∧ (sys.resume c).tasks.length = sys.tasks.length + 1
      ∧ (sys.resume c).store
        = (sys.store.1, { sys.store.2 with active := some sys.tasks.length }) := by
  obtain ⟨inside, -⟩ := List.getElem?_eq_some_iff.mp found
  have begins := running_begun found false
  let begun := sys.begun c (requesting s base input) false n
  have length : begun.tasks.length = sys.tasks.length := List.length_modify _ _ _
  have turn : sys.resume c = (begun.launched t).perform c (requesting s base input)
      (Request.awaitRun t begun.tasks.length) := by
    simp only [resume, found]
    exact perform_accepted ok
  have own : (begun.launched t).tasks[c]? = some ⟨requesting s base input, .running, false, n⟩ := by
    rw [launched, spawn, List.getElem?_append_left (by omega)]
    exact begins
  have run : (begun.launched t).tasks[begun.tasks.length]?
      = some { origin := running s base t } := by
    simp [launched, spawn]
  have waits := exitOf_of_unended run rfl (.inl t)
  rw [Request.awaitRun_eq] at turn
  rw [turn.trans (perform_join own waits Request.onExit), ← length]
  refine ⟨?_, ?_, ?_, rfl⟩
  · rw [parked, List.getElem?_modify_eq, own]
    rfl
  · rw [parked, List.getElem?_modify_ne _ _ (by omega), run]
  · rw [parked, List.length_modify]
    exact List.length_append

/-- The first turn of a request that is refused does nothing but end it. -/
lemma resume_refused {e : Failure}
    (found : sys.tasks[c]? = some ⟨requesting s base input, .fresh, false, n⟩)
    (bad : Request.admitted s input sys.store.2 = .error e) :
    sys.resume c = (sys.begun c (requesting s base input) false n).finish c
      (requesting s base input) (.failed e) := by
  simp only [resume, found]
  exact perform_refused bad

/-- A request that is refused leaves no trace. -/
lemma resume_rejected {e : Failure}
    (found : sys.tasks[c]? = some ⟨requesting s base input, .fresh, false, n⟩)
    (bad : Request.admitted s input sys.store.2 = .error e) :
    (sys.resume c).tasks[c]? = some ⟨requesting s base input, .ended (.failed e), false, n⟩
      ∧ (sys.resume c).tasks.length = sys.tasks.length ∧ (sys.resume c).store = sys.store
      ∧ (sys.resume c).world = sys.world := by
  rw [resume_refused found bad]
  have begins := running_begun found false
  refine ⟨?_, ?_, rfl, rfl⟩
  · rw [tasks_finish begins]
    exact announced_own (List.getElem?_eq_some_iff.mp begins).1 _
  · rw [tasks_finish begins, announced, List.length_map, List.length_modify]
    exact List.length_modify _ _ _

end System

/-! ## The end -/

namespace System

variable [DecidableEq H.Job] {c r : TaskId} {input : ExportInput} {t : Timeline}

/-- The caller is told the end of the run; a caller that was asked to stop itself may be told
otherwise, but of no video. -/
lemma heard_of_ended {tasks tasks' : List (Task (deskProgram s base))} {p p' : Bool} {n n' : Nat}
    {h : History (Office H)} {y : Exit Video}
    (waits : tasks[c]? = some
      ⟨requesting s base input, .waiting (.join (.inl t) r) Request.onExit, p, n⟩)
    (sound : Task.Sound tasks
      ⟨requesting s base input, .waiting (.join (.inl t) r) Request.onExit, p, n⟩)
    (evolved : Evolved c h tasks tasks')
    (ended : tasks'[c]? = some ⟨requesting s base input, .ended y, p', n'⟩) :
    (0 < n' ∧ ∀ v, y ≠ .returned v) ∨ ∃ x, exitOf tasks' r (.inl t) = some x ∧ y = x.told := by
  obtain ⟨f, p'', n'', found, -, evolves, -, holds⟩ := evolved.own waits sound
  cases ended.symm.trans found
  cases evolves with
  | comes comes =>
      cases comes with
      | lost plays asked => exact .inl ⟨asked, nofun⟩
      | ended plays =>
          obtain ⟨x, rest, rfl, later⟩ := Routine.plays_await.mp plays
          rw [List.forall_mem_cons] at holds
          obtain ⟨told, holds⟩ := holds
          rcases Request.plays_onExit later with rfl | ⟨-, rfl, heard⟩
          · rcases told with told | ⟨rfl, asked⟩
            · exact .inr ⟨x, told, rfl⟩
            · exact .inl ⟨asked, nofun⟩
          · exact .inl ⟨holds _ heard rfl, nofun⟩

/-- **The caller is told the end of the run, unless it was asked to stop itself.** -/
lemma told_of_ended {tasks tasks' : List (Task (deskProgram s base))} {p p' : Bool} {n n' : Nat}
    {h : History (Office H)} {y : Exit Video}
    (waits : tasks[c]? = some
      ⟨requesting s base input, .waiting (.join (.inl t) r) Request.onExit, p, n⟩)
    (sound : Task.Sound tasks
      ⟨requesting s base input, .waiting (.join (.inl t) r) Request.onExit, p, n⟩)
    (evolved : Evolved c h tasks tasks')
    (ended : tasks'[c]? = some ⟨requesting s base input, .ended y, p', n'⟩) :
    0 < n' ∨ ∃ x, exitOf tasks' r (.inl t) = some x ∧ y = x.told :=
  (heard_of_ended waits sound evolved ended).imp_left And.left

/-- The history of a run that has ended leads to its end, unless the run was asked to stop before
its first step or after its last wait. -/
lemma plays_of_ended {tasks tasks' : List (Task (deskProgram s base))} {h : History (Office H)}
    {x : Exit Video} (fresh : tasks[r]? = some { origin := running s base t })
    (evolved : Evolved r h tasks tasks') (ended : exitOf tasks' r (.inl t) = some x) :
    ∃ p n, tasks'[r]? = some ⟨running s base t, .ended x, p, n⟩
      ∧ ((Montage.run s t).Plays h x
        ∨ 0 < n ∧ x = .cancelled ∧ (h = [] ∨ ∃ v, (Montage.run s t).Plays h (.returned v))) := by
  obtain ⟨f, p, n, found, -, evolves, -⟩ := evolved.own fresh (.calm trivial)
  have same : f = .ended x := by
    rw [exitOf, found] at ended
    exact Task.exit?_job.mp ended
  rw [same] at found evolves
  refine ⟨p, n, found, ?_⟩
  cases evolves with
  | unbegun asked => exact .inr ⟨asked, rfl, .inl rfl⟩
  | comes comes =>
      cases comes with
      | ended plays => exact .inl plays
      | lost plays asked => exact .inr ⟨asked, rfl, .inr ⟨_, plays⟩⟩

end System

end Montage
