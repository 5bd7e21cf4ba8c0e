import Mathlib.Tactic.Common
import Montage.Proofs.Worker.Leaving
import Montage.Proofs.Worker.Tidiness
import Montage.Proofs.Worker.Verdict

/-!
# Requests leave nothing behind

Any number of requests come to the worker, and each may end in any way: with a video, with a
refusal, with a fault, or stopped.  While they are there they touch nothing but their own
directories; and when all of them have gone, nothing is different.

* `Worker.Visit`, `workerProgram` — the requests.
* `Worker.tidy_follow` — the disk at any time; `Worker.homeless_of_ended` — who has ended has no
  directory.
* **`requests_leave_nothing`** — **what requests do to the disk**, whatever the schedule.
-/

namespace Montage

open Disk Routine

/-! ## Requests -/

namespace Worker

/-- A form that is handed in, and what the identifiers for it begin with. -/
structure Visit where
  fresh : String
  form : Form

-- the unifier is not to look into a request where two programs are compared

/-- What the worker does for a visit; its notes go nowhere. -/
@[irreducible]
def Visit.routine (settings : Settings) (v : Visit) :
    StudioRoutine (List Binary64 × Exit WorkerReply) :=
  (answerForm settings v.fresh v.form).gather

end Worker

/-- Any number of requests to the worker. -/
def workerProgram (settings : Settings) : Program Studio where
  job := (studioProgram settings Unit).job
  Call := Worker.Visit
  Result _ := List Binary64 × Exit WorkerReply
  call v := v.routine settings
  capacity := (studioProgram settings Unit).capacity

namespace Worker

variable {M : Machine Studio} {G : Premises M} {settings : Settings} {start w : M.State}
  {record es : List (Entry M)} {i : TaskId}

lemma Visit.routine_eq (v : Visit) (settings : Settings) :
    v.routine settings = (answerForm settings v.fresh v.form).gather := by
  unfold Visit.routine
  rfl

lemma Visit.obeys (v : Visit) (settings : Settings) :
    (v.routine settings).Obeys (lodging settings) (fun _ _ => True) .without := by
  rw [v.routine_eq]
  exact (obeys_answerForm.gatherFrom []).mono fun _ _ _ => trivial

/-! ## The disk at any time -/

lemma Lodges.left {more : List (Entry M)} (lodges : Lodges settings (es ++ more)) :
    Lodges settings es :=
  fun first e earlier => lodges first e (earlier.trans (List.prefix_append es more))

/-- **The disk is tidy at any time**, and every entry changes nothing but its request's own
directory. -/
theorem tidy_follow (sane : G.sane start) (chained : Chained start record w)
    (lodges : ∀ i, Lodges settings (entriesOf i record)) (fresh : ∀ e ∈ record, Fresh G e) :
    G.sane w ∧ Tidy G.here (site settings) (G.disk start) (staying record) (G.disk w)
      ∧ ∀ before e, before ++ [e] <+: record → Confined G settings (staying before) e := by
  induction chained with
  | nil =>
      refine ⟨sane, tidy_start _ _ _, fun before e earlier => ?_⟩
      exact absurd (List.prefix_nil.mp earlier) (List.concat_ne_nil e before)
  | @snoc record w _ t m ih =>
      have lodges' : ∀ i, Lodges settings (entriesOf i record ++ entriesOf i [⟨t, m, w⟩]) := by
        intro i
        rw [← entriesOf_append]
        exact lodges i
      obtain ⟨sane, tidy, confined⟩ := ih (fun i => (lodges' i).left)
        fun e among => fresh e (List.mem_append_left _ among)
      have suits : (staying record t).Suits settings m := by
        have last := lodges' t
        rw [entriesOf_own (i := t) (List.forall_mem_singleton.mpr rfl)] at last
        exact last _ _ List.prefix_rfl
      obtain ⟨sane', tidy', own⟩ := tidy_after sane tidy suits
        (fresh _ (List.mem_append_right _ List.mem_cons_self))
      refine ⟨sane', ?_, fun before e earlier => ?_⟩
      · rw [staying_concat]
        exact tidy'
      · rcases List.prefix_concat_iff.mp earlier with same | earlier
        · obtain ⟨rfl, last⟩ := List.append_inj' same rfl
          obtain rfl := List.singleton_inj.mp last
          exact own
        · exact confined before e earlier

/-! ## The end of a request -/

/-- Who has a directory after an entry had it before or was given it. -/
lemma had_or_given {s : Stay} {e : Entry M} {directory : Path} (suits : s.Suits settings e.move)
    (has : (s.after e).directory? = some directory) :
    s.directory? = some directory ∨ given? e = some directory := by
  obtain ⟨t, m, w⟩ := e
  cases s with
  | left d => cases suits
  | gone => cases suits
  | without =>
      cases m with
      | begin q => cases suits
      | finish q => cases suits
      | act a =>
          rcases suits with rfl | rfl
          · cases has
          · refine .inr ?_
            obtain ⟨v, reply⟩ : ∃ v : Except OsError Path,
                (M.act t (.makeTemporary (site settings) directoryBeginning) w).1 = v := ⟨_, rfl⟩
            have comes : (Stay.opened v).directory? = some directory := by
              rw [← reply]
              exact has
            have gives : given? (⟨t, .act (.makeTemporary (site settings) directoryBeginning), w⟩ :
                Entry M) = v.toOption := congrArg Except.toOption reply
            rw [gives]
            cases v with
            | error e => cases comes
            | ok d => exact comes
  | inside d =>
      refine .inl ?_
      have waits : ∀ {q : StudioWait} {v : q.Ans}, q.Inside d ∨ q = .removeTree d →
          ((Stay.inside d).waited q v).directory? = some directory →
          (Stay.inside d).directory? = some directory := by
        rintro q v (inside | rfl) has
        · cases q with
          | removeTree p => cases inside
          | _ => exact has
        · change Except OsError Unit at v
          cases v with
          | error e => exact has
          | ok u => cases has
      cases m with
      | act a =>
          cases a with
          | makeTemporary p b => cases suits
          | _ => exact has
      | begin q =>
          change ((M.wait t q w).1.elim (Stay.inside d) ((Stay.inside d).waited q)).directory?
            = some directory at has
          cases reply : (M.wait t q w).1 with
          | none =>
              rw [reply] at has
              exact has
          | some v =>
              rw [reply] at has
              exact waits suits has
      | finish q => exact waits suits has

/-- Who has a directory was given it. -/
lemma exists_given (lodges : Lodges settings es) {directory : Path}
    (has : (stayOf es).directory? = some directory) : ∃ e ∈ es, given? e = some directory := by
  induction es using List.reverseRecOn with
  | nil => cases has
  | append_singleton es e ih =>
      rw [stayOf_concat] at has
      rcases had_or_given (lodges es e List.prefix_rfl) has with had | gives
      · obtain ⟨e', among, gives⟩ := ih lodges.left had
        exact ⟨e', List.mem_append_left _ among, gives⟩
      · exact ⟨e, List.mem_append_right _ List.mem_cons_self, gives⟩

/-- A directory is given by asking for it. -/
lemma given?_eq_some {e : Entry M} {directory : Path} : given? e = some directory
    ↔ ∃ parent beginning, e.move = .act (.makeTemporary parent beginning)
      ∧ (M.act e.task (.makeTemporary parent beginning) e.before).1 = Except.ok directory := by
  obtain ⟨t, m, w⟩ := e
  constructor
  · intro gives
    unfold given? at gives
    split at gives
    · rename_i parent beginning same
      cases same
      refine ⟨parent, beginning, rfl, ?_⟩
      generalize (M.act t _ w).1 = v at gives ⊢
      change Except OsError Path at v
      cases v with
      | error e => cases gives
      | ok d =>
          cases gives
          rfl
    · cases gives
  · rintro ⟨parent, beginning, same, reply⟩
    cases same
    exact congrArg Except.toOption reply

/-- After the removal of its directory a request does nothing more. -/
lemma stayOf_eq_gone (lodges : Lodges settings es) {e : Entry M} {directory : Path}
    (among : e ∈ es) (answers : e.Answers (.removeTree directory) (Except.ok ())) :
    stayOf es = .gone := by
  obtain ⟨first, rest, rfl⟩ := List.append_of_mem among
  have gone : stayOf (first ++ [e]) = .gone := by
    rw [stayOf_concat]
    obtain ⟨t, m, w⟩ := e
    rcases answers with ⟨rfl, reply⟩ | ⟨rfl, reply⟩
    · change (M.wait t (.removeTree directory) w).1.elim _ _ = _
      rw [reply]
      rfl
    · change (stayOf first).waited (.removeTree directory)
        (M.release t (.removeTree directory) w).1 = _
      rw [reply]
      rfl
  cases rest with
  | nil => exact gone
  | cons e' rest =>
      have suits := lodges (first ++ [e]) e' ⟨rest, by simp⟩
      rw [gone] at suits
      cases suits

/-- That removing directories succeeds: whoever is given one can have it removed. -/
structure Removable (record : List (Entry M)) : Prop where
  handed : ∀ e ∈ record, ∀ directory, given? e = some directory →
    Studio.pathFault? directory = none
  removed : ∀ e ∈ record, ∀ directory v, e.Answers (.removeTree directory) v → v = Except.ok ()

/-- **A request that has ended has no directory**, unless it was stopped while it was closing or the
directory could not be removed. -/
lemma homeless_of_ended {v : Visit} {h : History Studio}
    {x : Exit (List Binary64 × Exit WorkerReply)} (removable : Removable record)
    (among : ∀ e ∈ es, e ∈ record) (logged : (Fiber.ended x).Logged i (v.routine settings) h es)
    (unstopped : Unstopped settings v.fresh v.form h) : (stayOf es).directory? = none := by
  have lodges := lodges_of_logged logged (v.obeys settings)
  cases logged with
  | unbegun => rfl
  | arrives comes =>
      cases comes with
      | ended logs =>
          by_contra has
          obtain ⟨directory, has⟩ := Option.ne_none_iff_exists'.mp has
          have plays := logs.leads
          rw [v.routine_eq] at plays
          rcases removes_of_plays plays unstopped logs.never_fails with
            none | ⟨parent, beginning, other, asked, removes⟩
          · obtain ⟨e, found, gives⟩ := exists_given lodges has
            obtain ⟨parent, beginning, move, reply⟩ := given?_eq_some.mp gives
            have asked := logs.asked_of_act found move
            rw [logs.task_eq e found] at reply
            rw [reply] at asked
            exact none _ _ _ asked
          · obtain ⟨e, found, move, reply⟩ := logs.act_of_asked asked
            rw [← logs.task_eq e found] at reply
            have gives := given?_eq_some.mpr ⟨parent, beginning, move, reply⟩
            obtain ⟨u, heard⟩ := removes (removable.handed e (among e found) other gives)
            obtain ⟨g, found', answers⟩ := logs.answers_of_returned heard
            cases removable.removed g (among g found') other u answers
            rw [stayOf_eq_gone lodges found' answers] at has
            cases has

end Worker

/-! ## What requests do to the disk -/

namespace Worker

/-- A worker that nobody has come to yet, and the record of all that will be done. -/
def unvisited (settings : Settings) {M : Machine Studio} (w : M.State) (s : EngineState) :
    System (workerProgram settings) M.recording :=
  { world := (w, []), store := s }

/-- Requests have touched nothing but their own directories: no single step of theirs has, nor have
all of them together. -/
structure Spared {M : Machine Studio} (G : Premises M) (settings : Settings) (start w : M.State)
    (record : List (Entry M)) : Prop where
  /-- Nothing that was done has changed anything else, … -/
  each : ∀ before e, before ++ [e] <+: record → Confined G settings (staying before) e
  /-- … nor has all of it together. -/
  all : ∀ place, (∀ i directory, (staying record i).directory? = some directory →
    ¬ directory.destination G.here <+: place) →
    Unchanged G.here (site settings) (G.disk start) (G.disk w) place

/-- All requests have ended, none was stopped while it was closing, and directories could be
removed. -/
structure Finished {M : Machine Studio} (settings : Settings) (w : M.State) (s : EngineState)
    (schedule : List (Choice (workerProgram settings))) : Prop where
  ended : ∀ task ∈ ((unvisited settings w s).follow schedule).tasks, task.fiber.hasEnded = true
  unstopped : ∀ i v f p n,
    ((unvisited settings w s).follow schedule).tasks[i]? = some ⟨.call v, f, p, n⟩ →
    Unstopped settings v.fresh v.form ((unvisited settings w s).history i schedule)
  removable : Removable ((unvisited settings w s).follow schedule).world.2

/-- Nothing is different but that there is a way to a path; and nothing below it is, if there was a
way or it does not lead up. -/
structure Restored (here : Place) (root : Path) (d₀ d : Disk) : Prop where
  paves : d₀.Paves here root d
  below : d₀.Rooted here root ∨ ".." ∉ root.parts → ∀ place, root.destination here <+: place →
    place ≠ root.destination here → d.node? place = d₀.node? place

/-! ### Checks -/

section Checks

variable {M : Machine Studio} {G : Premises M} {settings : Settings} {w : M.State}
  {s : EngineState} {record : List (Entry M)} {schedule : List (Choice (workerProgram settings))}

/-- A name that nothing on the list has on its way is fresh. -/
lemma fresh_of_unlisted {e : Entry M}
    (unlisted : (given? e).all fun directory =>
      (G.disk e.before).nodes.all fun n => !n.1.contains directory.name) : Fresh G e := by
  intro directory gives place among
  have nonempty : place.isEmpty = false := by
    cases place with
    | nil => cases among
    | cons part rest => rfl
  rw [gives, Option.all_some] at unlisted
  rw [node?, nonempty, if_neg Bool.false_ne_true, List.lookup_eq_none_iff]
  intro n listed
  refine bne_iff_ne.mpr fun (same : place = n.1) => ?_
  have without := List.all_eq_true.mp unlisted n listed
  rw [← same, List.contains_iff_mem.mpr among] at without
  cases without

/-- An entry with which no directory is left that was to be removed. -/
def clears (e : Entry M) : Bool :=
  match e.move with
  | .begin (.removeTree directory) =>
    (M.wait e.task (.removeTree directory) e.before).1.all (Except.isOk (ε := OsError))
  | .finish (.removeTree directory) =>
    Except.isOk (ε := OsError) (M.release e.task (.removeTree directory) e.before).1
  | _ => true

lemma removable_of_clears (handed : ∀ e ∈ record, (given? e).all fun directory =>
      (Studio.pathFault? directory).isNone) (all : ∀ e ∈ record, clears e) :
    Removable record where
  handed e among directory gives := by
    have none := handed e among
    rw [gives] at none
    exact Option.isNone_iff_eq_none.mp none
  removed e among directory v answers := by
    have clean := all e among
    obtain ⟨t, m, w⟩ := e
    change Except OsError Unit at v
    suffices Except.isOk (ε := OsError) v = true by
      cases v with
      | ok u => rfl
      | error e => cases this
    rcases answers with ⟨rfl, reply⟩ | ⟨rfl, reply⟩
    · change (M.wait t (.removeTree directory) w).1.all (Except.isOk (ε := OsError)) = true at clean
      rw [reply] at clean
      exact clean
    · change Except.isOk (ε := OsError) (M.release t (.removeTree directory) w).1 = true at clean
      rw [reply] at clean
      exact clean

/-- Nobody notices a request to stop with this event. -/
def undisturbed : Event Studio → Bool
  | .awaited _ .cancelled => false
  | _ => true

lemma unstopped_of_undisturbed {v : Visit} {h : History Studio} (all : ∀ e ∈ h, undisturbed e) :
    Unstopped settings v.fresh v.form h := by
  rintro before after directory notes x rfl - q among
  cases all _ (List.mem_append_right _ among)

end Checks

lemma restored_of_paves {here : Place} {root : Path} {d₀ d : Disk}
    (paves : d₀.Paves here root d) : Restored here root d₀ d := by
  refine ⟨paves, fun way place below apart => ?_⟩
  rcases paves place with same | ⟨-, -, on, unrooted⟩
  · exact same
  · have above := on.above (way.resolve_left unrooted)
    exact absurd (above.eq_of_length (Nat.le_antisymm above.length_le below.length_le)) apart

end Worker

open Worker

/-- **A request touches nothing but its own directory and leaves nothing behind.**  On a disk where
the names of new directories are fresh, any number of requests come to the worker and end in any
way, in any order.  At any time nothing is different beside the directories that they have, but for
the way to these; what each of them does changes nothing beside its own directory, which is no
other's at that time.  When all have ended, and nobody was stopped while closing files or removing a
directory, and removing directories has succeeded, nothing is left of them. -/
theorem requests_leave_nothing {M : Machine Studio} (G : Premises M) (settings : Settings)
    {w : M.State} (sane : G.sane w) (s : EngineState)
    (schedule : List (Choice (workerProgram settings)))
    (fresh : ∀ e ∈ ((unvisited settings w s).follow schedule).world.2, Fresh G e) :
    ((unvisited settings w s).follow schedule).forget
        = System.follow (M := M) { world := w, store := s } schedule
      ∧ Chained w ((unvisited settings w s).follow schedule).world.2
        ((unvisited settings w s).follow schedule).world.1
      ∧ Spared G settings w ((unvisited settings w s).follow schedule).world.1
        ((unvisited settings w s).follow schedule).world.2
      ∧ (Finished settings w s schedule → Restored G.here (site settings) (G.disk w)
        (G.disk ((unvisited settings w s).follow schedule).world.1)) := by
  have nobody : (unvisited settings w s).tasks = [] := rfl
  have blank : (unvisited settings w s).world.2 = [] := rfl
  have start : Chained w (unvisited settings w s).world.2 (unvisited settings w s).world.1 := .nil
  have chained := System.chained_follow start schedule
  have calls : ∀ (i : TaskId) (task : Task (workerProgram settings)),
      ((unvisited settings w s).follow schedule).tasks[i]? = some task →
      ∃ v, task.origin = .call v := by
    intro i task found
    refine System.calls_follow nobody blank ?_ found
    intro v i h es left logs
    exact (lodges_of_logs logs (v.obeys settings) (.inl rfl) lodges_nil).2.1
  have lodges : ∀ i, Lodges settings
      (entriesOf i ((unvisited settings w s).follow schedule).world.2) := by
    intro i
    cases found : ((unvisited settings w s).follow schedule).tasks[i]? with
    | none =>
        rw [System.entriesOf_of_absent (System.sound_nobody nobody) blank schedule found]
        exact lodges_nil
    | some task =>
        obtain ⟨o, f, p, n⟩ := task
        obtain ⟨v, rfl⟩ := calls i _ found
        exact lodges_of_logged (System.logged_follow nobody blank found) (v.obeys settings)
  obtain ⟨-, tidy, confined⟩ := tidy_follow sane chained lodges fresh
  refine ⟨System.forget_follow _ schedule, chained, ⟨confined, tidy.outside⟩, fun finished => ?_⟩
  refine restored_of_paves fun place => tidy.outside place fun i directory has => ?_
  have homeless : (staying ((unvisited settings w s).follow schedule).world.2 i).directory?
      = none := by
    cases found : ((unvisited settings w s).follow schedule).tasks[i]? with
    | none =>
        rw [staying, System.entriesOf_of_absent (System.sound_nobody nobody) blank schedule found]
        rfl
    | some task =>
        have ended := finished.ended task (List.mem_of_getElem? found)
        obtain ⟨o, f, p, n⟩ := task
        obtain ⟨v, rfl⟩ := calls i _ found
        obtain ⟨x, rfl⟩ := Fiber.eq_ended (f := f) ended
        exact homeless_of_ended finished.removable (fun e => List.mem_of_mem_filter)
          (System.logged_follow nobody blank found) (finished.unstopped i v _ _ _ found)
  cases homeless.symm.trans has

namespace Worker

/-- Settings under which requests get directories below an absolute root. -/
def sampleSettings : Settings := { workerRoot := "/work" }

/-- A host with a file where requests have their directories. -/
def sampleHost : Host where
  disk := { nodes := [(["work"], .directory), (["work", "kept.txt"], .file ⟨#[7]⟩)] }
  renderings := ⟨ProgramScript.rendering, []⟩

/-- A request that gets its video, one that is refused and one that is stopped, in turns. -/
def sampleSchedule : List (Choice (workerProgram sampleSettings)) :=
  [.call ⟨"a", oneForm⟩, .call ⟨"b", { oneForm with metadata := "[]" }⟩, .call ⟨"c", oneForm⟩,
    .cancel 2] ++ (List.replicate 12 [.turn 0, .turn 1, .turn 2]).flatten

/-- How it is in the end. -/
def sampleEnd : System (workerProgram sampleSettings) Host.machine.recording :=
  (unvisited sampleSettings (M := Host.machine) sampleHost {}).follow sampleSchedule

end Worker

/-- Two requests at the same time have a directory each, and both are gone in the end. -/
theorem requests_leave_nothing_sample :
    (sampleEnd.world.2.filterMap given?).map Path.text = ["/work/process-X", "/work/process-XX"]
      ∧ (∀ e ∈ sampleEnd.world.2, Fresh (Host.premises []) e)
      ∧ Finished (M := Host.machine) sampleSettings sampleHost {} sampleSchedule
      ∧ Restored [] (site sampleSettings) sampleHost.disk sampleEnd.world.1.disk := by
  have sane : sampleHost.Orderly [] :=
    ⟨rfl, List.forall_mem_singleton.mpr ⟨nofun, rfl, rfl⟩,
      List.forall_mem_singleton.mpr (by decide)⟩
  -- one statement, so that the requests are played once
  obtain ⟨paths, unlisted, three, ended, handed, clean⟩ :
      (sampleEnd.world.2.filterMap given?).map Path.text = ["/work/process-X", "/work/process-XX"]
        ∧ (∀ e ∈ sampleEnd.world.2, (given? e).all fun directory =>
          ((Host.premises []).disk e.before).nodes.all fun n => !n.1.contains directory.name)
        ∧ sampleEnd.tasks.length = 3 ∧ (∀ task ∈ sampleEnd.tasks, task.fiber.hasEnded = true)
        ∧ (∀ e ∈ sampleEnd.world.2, (given? e).all fun directory =>
          (Studio.pathFault? directory).isNone)
        ∧ ∀ e ∈ sampleEnd.world.2, clears e := by decide +kernel
  have fresh : ∀ e ∈ sampleEnd.world.2, Fresh (Host.premises []) e :=
    fun e among => fresh_of_unlisted (unlisted e among)
  have finished : Finished (M := Host.machine) sampleSettings sampleHost {} sampleSchedule := by
    have undisturbed : ∀ i < 3, ∀ e ∈ (unvisited sampleSettings (M := Host.machine) sampleHost
        {}).history i sampleSchedule, undisturbed e := by decide +kernel
    refine ⟨ended, fun i v f p n found => ?_, removable_of_clears handed clean⟩
    obtain ⟨short, -⟩ := List.getElem?_eq_some_iff.mp found
    exact unstopped_of_undisturbed (undisturbed i (three ▸ short))
  obtain ⟨-, -, -, restored⟩ := requests_leave_nothing (Host.premises []) sampleSettings
    (w := sampleHost) sane {} sampleSchedule fresh
  exact ⟨paths, fresh, finished, restored finished⟩

end Montage
