import Mathlib.Data.List.Induction
import Mathlib.Tactic.Common
import Montage.Proofs.Routine.Invariants
import Montage.Proofs.Studio.Spares

/-!
# Loading the engine

The engine's record says how far the engine is loaded, and which task is loading it.  Tasks that
call for the engine and tasks that load it write this record in turns of their own, so what the
record says and which loads are going on must agree after every turn.

* `EngineState.Coherent` — the parts of the record agree with each other.
* `Engine.loading` — the regime of both: **a load is started only when none is going on**, and its
  end is recorded in the turn in which it ends.
* `Engine.Sofar` — what a turn has made of the record so far; `Engine.sofar_leads` — at any point.
* `Engine.Loads` — record and tasks agree; **`Engine.Loads.apply`** — so they do whatever happens
  next, and **once the engine is loaded the record stays as it is**; `Loads.loaded_follow` — after
  any schedule.
* `Engine.obeys_loadOnce`, `Engine.maintains_load`, `LocalBackend.obeys_executeAll` — who keeps to
  the regime.
-/

namespace Montage

open Routine

/-! ## The record -/

namespace EngineState

/-- What the record says about the engine fits together: a workspace and a version are there exactly
when the engine is loaded, and a load exactly when it is being loaded. -/
structure Coherent (s : EngineState) : Prop where
  workspace : s.phase = .loaded ↔ s.workspace.isSome
  version : s.phase = .loaded ↔ s.version.isSome
  load : s.phase = .loading ↔ s.load.isSome

/-- The record of an engine that was never used. -/
lemma coherent_new : Coherent {} := ⟨by decide, by decide, by decide⟩

/-- A load has been started. -/
def opened (s : EngineState) (t : TaskId) : EngineState :=
  { s with phase := .loading, load := some t }

/-- The same, attempts apart: counting an attempt is not a change that anybody waits for. -/
structure SameLoad (s s' : EngineState) : Prop where
  phase : s'.phase = s.phase
  load : s'.load = s.load
  workspace : s'.workspace = s.workspace
  version : s'.version = s.version

/-- The load has ended, well or not, and is taken out of the record in either case. -/
structure Closed (s s' : EngineState) : Prop where
  load : s'.load = none
  ends : (s'.phase = .loaded ∧ s'.workspace.isSome ∧ s'.version.isSome)
    ∨ (s'.phase = .failed ∧ s'.workspace = s.workspace ∧ s'.version = s.version)

variable {s s' : EngineState}

/-- Nothing of the load has changed. -/
lemma SameLoad.refl (s : EngineState) : s.SameLoad s := ⟨rfl, rfl, rfl, rfl⟩

/-- Twice nothing is nothing. -/
lemma SameLoad.trans {s'' : EngineState} (first : s.SameLoad s') (rest : s'.SameLoad s'') :
    s.SameLoad s'' :=
  ⟨rest.phase.trans first.phase, rest.load.trans first.load, rest.workspace.trans first.workspace,
    rest.version.trans first.version⟩

/-- The end of a load is its end also with attempts counted before. -/
lemma SameLoad.closed {s'' : EngineState} (first : s.SameLoad s') (rest : s'.Closed s'') :
    s.Closed s'' where
  load := rest.load
  ends := rest.ends.imp_right fun ⟨phase, workspace, version⟩ =>
    ⟨phase, workspace.trans first.workspace, version.trans first.version⟩

/-- A record stays coherent while the load is the same … -/
lemma Coherent.sameLoad (coherent : s.Coherent) (same : s.SameLoad s') : s'.Coherent := by
  obtain ⟨phase, load, workspace, version⟩ := same
  exact ⟨by rw [phase, workspace]; exact coherent.workspace,
    by rw [phase, version]; exact coherent.version, by rw [phase, load]; exact coherent.load⟩

/-- Nothing is there before the engine is loaded. -/
lemma Coherent.unloaded (coherent : s.Coherent) (phase : s.phase ≠ .loaded) :
    s.workspace = none ∧ s.version = none := by
  have workspace := coherent.workspace.not.mp phase
  have version := coherent.version.not.mp phase
  rw [Option.not_isSome_iff_eq_none] at workspace version
  exact ⟨workspace, version⟩

/-- Who is loading the engine has not loaded it. -/
lemma Coherent.ne_loaded (coherent : s.Coherent) {t : TaskId} (load : s.load = some t) :
    s.phase ≠ .loaded := by
  have phase : s.phase = .loading := coherent.load.mpr (by rw [load]; rfl)
  rw [phase]
  exact nofun

/-- … when a load is started … -/
lemma Coherent.opened (coherent : s.Coherent) (phase : s.phase ≠ .loaded) (t : TaskId) :
    (s.opened t).Coherent := by
  obtain ⟨workspace, version⟩ := coherent.unloaded phase
  exact ⟨by simp [EngineState.opened, workspace], by simp [EngineState.opened, version],
    by simp [EngineState.opened]⟩

/-- … and when it has ended. -/
lemma Coherent.closed (coherent : s.Coherent) (phase : s.phase ≠ .loaded) (closed : s.Closed s') :
    s'.Coherent := by
  obtain ⟨load, ⟨done, workspace, version⟩ | ⟨failed, workspace, version⟩⟩ := closed
  · exact ⟨by simp [done, workspace], by simp [done, version], by simp [done, load]⟩
  · obtain ⟨none, none'⟩ := coherent.unloaded phase
    exact ⟨by simp [failed, workspace, none], by simp [failed, version, none'],
      by simp [failed, load]⟩

end EngineState

namespace Engine

/-! ## The regime -/

/-- What a task knows of the record. -/
inductive Stage where
  /-- Nothing: others may have had a turn. -/
  | unaware
  | aware (s : EngineState)
  /-- A load has been started that the record does not know of. -/
  | owing (s : EngineState) (t : TaskId)
  /-- The end of the load is in the record. -/
  | finished

namespace Stage

/-- Nothing is left to be recorded. -/
def Settled : Stage → Prop
  | owing .. => False
  | _ => True

/-- The task can go on as it likes. -/
def Free : Stage → Prop
  | unaware | aware _ => True
  | _ => False

/-- Who is free owes nothing. -/
lemma settled_of_free {a : Stage} (free : a.Free) : a.Settled := by
  cases a with
  | owing => cases free
  | _ => trivial

/-- What is known is so. -/
def Fits (s : EngineState) : Stage → Prop
  | unaware => True
  | aware s' => s' = s
  | _ => False

end Stage

/-- What tasks may do to the record.  Only loads change it, others start a load at most. -/
def loading (isLoad : Bool) : Regime Studio Stage where
  mayAsk
    | .aware s, .start _ => isLoad = false ∧ s.load = none ∧ s.phase ≠ .loaded
    | .aware s, .set s' => isLoad = true ∧ (s.SameLoad s' ∨ s.Closed s')
    | .owing s t, .set s' => s' = s.opened t
    | .owing .., .get => True
    | .owing .., _ => False
    | _, .start _ => False
    | _, .set _ => False
    | _, _ => True
  asked
    | .aware s, .start _, t, b => b = .owing s t
    | .aware s, .set s', _, b =>
      (s.SameLoad s' ∧ b = .aware s') ∨ (¬ s.SameLoad s' ∧ b = .finished)
    | .owing _ _, .set s', _, b => b = .aware s'
    | .owing _ t, .get, s, b => b = .owing s t
    | .finished, .get, _, b => b = .finished
    | _, .get, s, b => b = .aware s
    | a, _, _, b => b = a
  mayAwait a _ := a.Free
  awaited _ _ _ b := b = .unaware

/-! ## A turn -/

/-- The tasks that were started. -/
def starts (h : History Studio) : List TaskId :=
  h.filterMap fun
    | .asked (.start _) t => some t
    | _ => none

/-- A task that a history has started is among its starts. -/
lemma mem_starts {h : History Studio} {j : StudioJob} {t : TaskId}
    (among : .asked (.start j) t ∈ h) : t ∈ starts h :=
  List.mem_filterMap.mpr ⟨_, among, rfl⟩

/-- The starts of a history are those of its events. -/
lemma starts_cons (e : Event Studio) (h : History Studio) :
    starts (e :: h) = starts [e] ++ starts h :=
  List.filterMap_append (l := [e])

/-- What a turn has made of the record so far, by the tasks that it has started. -/
inductive Sofar (isLoad : Bool) (s : EngineState) : List TaskId → Stage → EngineState → Prop
  | same {a : Stage} {s' : EngineState} (same : s.SameLoad s') (others : isLoad = false → s' = s)
      (fits : a.Fits s') : Sofar isLoad s [] a s'
  | owing (t : TaskId) (other : isLoad = false) (idle : s.load = none)
      (phase : s.phase ≠ .loaded) : Sofar isLoad s [t] (.owing s t) s
  | opened {a : Stage} (t : TaskId) (other : isLoad = false) (idle : s.load = none)
      (phase : s.phase ≠ .loaded) (fits : a.Fits (s.opened t)) : Sofar isLoad s [t] a (s.opened t)
  | closed {s' : EngineState} (load : isLoad = true) (closed : s.Closed s') :
      Sofar isLoad s [] .finished s'

variable {isLoad : Bool} {s s' : EngineState} {ts : List TaskId} {a b : Stage} {α : Type}
  {r r' : StudioRoutine α} {post : Stage → Exit α → Prop}

variable (isLoad) in
/-- Who knows what the record says still knows it after a question that changes nothing. -/
lemma fits_asked {q : Request Studio} {v : q.Reply} (fits : a.Fits s) (tells : q.Tells id s v)
    (sets : ∀ s', q ≠ .set s') (begins : ∀ j, q ≠ .start j) :
    (∃ b, (loading isLoad).asked a q v b ∧ b.Fits s) ∧ q.leaves id s = s
      ∧ starts [.asked q v] = [] := by
  have stays : (loading isLoad).asked a q v a → q.leaves id s = s → starts [.asked q v] = [] →
      (∃ b, (loading isLoad).asked a q v b ∧ b.Fits s) ∧ q.leaves id s = s
        ∧ starts [.asked q v] = [] :=
    fun asked leaves none => ⟨⟨a, asked, fits⟩, leaves, none⟩
  cases a with
  | owing t n => cases fits
  | finished => cases fits
  | unaware =>
      cases q with
      | set s' => exact absurd rfl (sets s')
      | start j => exact absurd rfl (begins j)
      | get => exact ⟨⟨.aware v, rfl, tells⟩, rfl, rfl⟩
      | _ => exact stays rfl rfl rfl
  | aware t =>
      cases q with
      | set s' => exact absurd rfl (sets s')
      | start j => exact absurd rfl (begins j)
      | get => exact ⟨⟨.aware v, rfl, tells⟩, rfl, rfl⟩
      | _ => exact stays rfl rfl rfl

/-- One more question. -/
lemma Sofar.asked {q : Request Studio} {v : q.Reply} (sofar : Sofar isLoad s ts a s')
    (may : (loading isLoad).mayAsk a q) (tells : q.Tells id s' v) :
    ∃ b, (loading isLoad).asked a q v b
      ∧ Sofar isLoad s (ts ++ starts [.asked q v]) b (q.leaves id s') := by
  cases sofar with
  | same same others fits =>
      have plainly : (∀ s', q ≠ .set s') → (∀ j, q ≠ .start j) → ∃ b, (loading isLoad).asked a q v b
          ∧ Sofar isLoad s ([] ++ starts [.asked q v]) b (q.leaves id s') := by
        intro sets begins
        obtain ⟨⟨b, asked, fits'⟩, leaves, none⟩ := fits_asked isLoad fits tells sets begins
        rw [leaves, none]
        exact ⟨b, asked, .same same others fits'⟩
      cases q with
      | set t =>
          cases a with
          | aware s₁ =>
              obtain rfl : s₁ = s' := fits
              obtain ⟨load, may⟩ := may
              by_cases more : s₁.SameLoad t
              · exact ⟨.aware t, .inl ⟨more, rfl⟩, .same (same.trans more)
                  (fun other => absurd (other.symm.trans load) nofun) rfl⟩
              · exact ⟨.finished, .inr ⟨more, rfl⟩,
                  .closed load (same.closed (may.resolve_left more))⟩
          | owing => cases fits
          | _ => cases may
      | start j =>
          cases a with
          | aware s₁ =>
              obtain rfl : s₁ = s' := fits
              obtain ⟨other, idle, phase⟩ := may
              obtain rfl := others other
              exact ⟨.owing s₁ v, rfl, .owing v other idle phase⟩
          | _ => cases may
      | _ => exact plainly nofun nofun
  | owing t other idle phase =>
      cases q with
      | get =>
          obtain rfl : v = s := tells
          exact ⟨.owing v t, rfl, .owing t other idle phase⟩
      | set s₁ =>
          obtain rfl : s₁ = s.opened t := may
          exact ⟨.aware (s.opened t), rfl, .opened t other idle phase rfl⟩
      | _ => cases may
  | opened t other idle phase fits =>
      have plainly : (∀ s', q ≠ .set s') → (∀ j, q ≠ .start j) → ∃ b, (loading isLoad).asked a q v b
          ∧ Sofar isLoad s ([t] ++ starts [.asked q v]) b (q.leaves id (s.opened t)) := by
        intro sets begins
        obtain ⟨⟨b, asked, fits'⟩, leaves, none⟩ := fits_asked isLoad fits tells sets begins
        rw [leaves, none, List.append_nil]
        exact ⟨b, asked, .opened t other idle phase fits'⟩
      cases q with
      | set s₁ =>
          cases a with
          | aware s₂ => exact absurd (other.symm.trans may.1) nofun
          | owing => cases fits
          | _ => cases may
      | start j =>
          cases a with
          | aware s₂ =>
              obtain rfl : s₂ = s.opened t := fits
              cases may.2.1
          | _ => cases may
      | _ => exact plainly nofun nofun
  | closed load closed =>
      cases q with
      | set s₁ => cases may
      | start j => cases may
      | _ => exact ⟨.finished, rfl, .closed load closed⟩

/-- Who goes on knows nothing any more. -/
lemma Sofar.unaware (sofar : Sofar isLoad s ts a s') (free : a.Free) :
    Sofar isLoad s ts .unaware s' := by
  cases sofar with
  | same same others fits => exact .same same others trivial
  | owing t => cases free
  | opened t other idle phase fits => exact .opened t other idle phase trivial
  | closed => cases free

/-- **What a turn has made of the record, wherever its history leads.** -/
lemma sofar_leads {h : History Studio} (obeys : r.Obeys (loading isLoad) post a)
    (leads : r.Leads h r') {s₁ s₂ : EngineState} (threads : Threads id s₁ h s₂)
    (sofar : Sofar isLoad s ts a s₁) :
    ∃ b, r'.Obeys (loading isLoad) post b ∧ Sofar isLoad s (ts ++ starts h) b s₂ := by
  induction leads generalizing ts a s₁ with
  | refl r =>
      cases threads
      exact ⟨a, obeys, by rwa [starts, List.filterMap_nil, List.append_nil]⟩
  | @ask q k v h r' leads ih =>
      obtain ⟨tells, threads⟩ := threads
      obtain ⟨may, rest⟩ := obeys_ask_iff.mp obeys
      obtain ⟨b, asked, next⟩ := sofar.asked may tells
      obtain ⟨c, obeys', later⟩ := ih (rest v b asked) threads next
      rw [List.append_assoc, ← starts_cons] at later
      exact ⟨c, obeys', later⟩
  | @await q k x h r' leads ih =>
      obtain ⟨may, rest⟩ := obeys_await_iff.mp obeys
      exact ih (rest x .unaware rfl) threads (sofar.unaware may)

/-- The regime is kept in a turn, and after it. -/
lemma evolves_obeys {f f' : Fiber Studio α} {c : Nat} {h : History Studio}
    (obeys : (f.rest r).Obeys (loading isLoad) (fun b _ => b.Settled) .unaware)
    (evolves : Evolves r c f h f') (threads : Threads id s h s') :
    (f'.rest r).Obeys (loading isLoad) (fun b _ => b.Settled) .unaware
      ∧ ∃ b, b.Settled ∧ Sofar isLoad s (starts h) b s' ∧ (b = .finished → f'.hasEnded = true) := by
  have nothing : Sofar isLoad s [] .unaware s := .same (.refl s) (fun _ => rfl) trivial
  have led : ∀ {r' : StudioRoutine α}, (f.rest r).Leads h r' →
      ∃ b, r'.Obeys (loading isLoad) (fun b _ => b.Settled) b ∧ Sofar isLoad s (starts h) b s' :=
    fun leads => sofar_leads obeys leads threads nothing
  have parked : ∀ {q : Suspension Studio} {k : Exit q.Answer → StudioRoutine α},
      (f.rest r).Leads h (.await q k) →
      (Routine.await q k).Obeys (loading isLoad) (fun b _ => b.Settled) .unaware
        ∧ ∃ b, b.Settled ∧ Sofar isLoad s (starts h) b s' ∧ b ≠ .finished := by
    intro q k leads
    obtain ⟨b, obeys', sofar⟩ := led leads
    obtain ⟨may, rest⟩ := obeys_await_iff.mp obeys'
    refine ⟨.await trivial rest, b, ?_, sofar, fun finished => ?_⟩
    · cases b with
      | owing => cases may
      | _ => trivial
    · rw [finished] at may
      cases may
  have ends : ∀ {x : Exit α}, (f.rest r).Plays h x →
      ∃ b, b.Settled ∧ Sofar isLoad s (starts h) b s' := by
    intro x plays
    obtain ⟨b, obeys', sofar⟩ := led plays
    cases obeys' with
    | done settled => exact ⟨b, settled, sofar⟩
  cases evolves with
  | still =>
      cases threads
      exact ⟨obeys, .unaware, trivial, nothing, nofun⟩
  | unbegun =>
      cases threads
      exact ⟨.done trivial, .unaware, trivial, nothing, nofun⟩
  | comes comes =>
      cases comes with
      | waiting leads =>
          obtain ⟨obeys', b, settled, sofar, unended⟩ := parked leads
          exact ⟨obeys', b, settled, sofar, fun finished => absurd finished unended⟩
      | ready leads =>
          obtain ⟨obeys', b, settled, sofar, unended⟩ := parked leads
          exact ⟨obeys', b, settled, sofar, fun finished => absurd finished unended⟩
      | ended plays =>
          obtain ⟨b, settled, sofar⟩ := ends plays
          exact ⟨.done trivial, b, settled, sofar, fun _ => rfl⟩
      | lost plays =>
          obtain ⟨b, settled, sofar⟩ := ends plays
          exact ⟨.done trivial, b, settled, sofar, fun _ => rfl⟩

end Engine

/-! ## Systems -/

/-- Whether a task loads the engine. -/
def Origin.isLoad {P : Program Studio} : Origin P → Bool
  | .job _ => true
  | .call _ => false

namespace Engine

variable {P : Program Studio} {M : Machine Studio} {sys sys' : System P M}

/-- Everybody keeps to the regime (`Engine.loading`) from the first step to the last. -/
def Shares (P : Program Studio) : Prop :=
  ∀ o : Origin P, o.routine.Obeys (loading o.isLoad) (fun b _ => b.Settled) .unaware

/-- Record and tasks agree: tasks are sound, the record is coherent, and a load that is going on is
the one that the record names. -/
structure Loads (sys : System P M) : Prop where
  sound : sys.Sound
  coherent : sys.store.Coherent
  obeys : ∀ (i : TaskId) (t : Task P), sys.tasks[i]? = some t →
    (t.fiber.rest t.origin.routine).Obeys (loading t.origin.isLoad) (fun b _ => b.Settled) .unaware
  /-- Whoever loads the engine is in the record. -/
  sole : ∀ (i : TaskId) (t : Task P), sys.tasks[i]? = some t → t.origin.isLoad = true →
    t.fiber.hasEnded = false → sys.store.load = some i

/-- What becomes of the record, by the loads that are started: nothing that matters; or a load is
started; or the load that was going on has ended. -/
inductive Becomes (sys sys' : System P M) : List TaskId → Prop
  | same (same : sys.store.SameLoad sys'.store)
      (kept : sys.store.phase = .loaded → sys'.store = sys.store) : Becomes sys sys' []
  | opened (t : TaskId) (idle : sys.store.load = none) (phase : sys.store.phase ≠ .loaded)
      (opened : sys'.store = sys.store.opened t) : Becomes sys sys' [t]
  | closed (t : TaskId) (load : sys.store.load = some t) (closed : sys.store.Closed sys'.store)
      (ends : ∀ task, sys'.tasks[t]? = some task → task.fiber.hasEnded = true) : Becomes sys sys' []

/-- Where nothing is started and the record is the same, nothing has come of a step. -/
lemma becomes_of_store {ts : List TaskId} (none : ts = []) (same : sys'.store = sys.store) :
    Becomes sys sys' ts := by
  rw [none]
  exact .same (same ▸ .refl _) fun _ => same

/-- With nobody there, a coherent record agrees with the tasks … -/
lemma loads_of_coherent (nobody : sys.tasks = []) (coherent : sys.store.Coherent) : Loads sys where
  sound i t found := by
    rw [nobody] at found
    cases found
  coherent := coherent
  obeys i t found := by
    rw [nobody] at found
    cases found
  sole i t found := by
    rw [nobody] at found
    cases found

/-- … and so does a new one. -/
lemma loads_nobody (nobody : sys.tasks = []) (new : sys.store = {}) : Loads sys :=
  loads_of_coherent nobody (new ▸ EngineState.coherent_new)

/-- What becomes of the record in a turn. -/
lemma Loads.becomes_resume (loads : Loads sys) (t : TaskId) :
    Becomes sys (sys.resume t) (starts (sys.heardIn t)) := by
  have threads := System.threads_resume id sys t
  by_cases active : ∃ task, sys.tasks[t]? = some task ∧ task.fiber.hasEnded = false
  · obtain ⟨⟨o, f, p, c⟩, found, unended⟩ := active
    obtain ⟨f', p', c', found', -, evolves, -⟩ :=
      (sys.turn_resume t).own.own found (loads.sound t _ found)
    obtain ⟨-, b, settled, sofar, finished⟩ := evolves_obeys (loads.obeys t _ found) evolves threads
    have sole : o.isLoad = true → sys.store.load = some t := fun load =>
      loads.sole t _ found load unended
    generalize starts (sys.heardIn t) = ts at sofar ⊢
    generalize store : (sys.resume t).store = s at sofar
    cases sofar with
    | same same others fits =>
        refine .same (store ▸ same) fun phase => ?_
        rw [store]
        cases load : o.isLoad with
        | false => exact others load
        | true => exact absurd phase (loads.coherent.ne_loaded (sole load))
    | owing => cases settled
    | opened n other idle phase fits => exact .opened n idle phase store
    | closed load closed =>
        refine .closed t (sole load) (store ▸ closed) fun task found'' => ?_
        cases found'.symm.trans found''
        exact finished rfl
  · have ended : ∀ task, sys.tasks[t]? = some task → task.fiber.hasEnded = true := by
      intro task found
      rw [← Bool.not_eq_false]
      exact fun unended => active ⟨task, found, unended⟩
    have silent : sys.heardIn t = [] ∧ sys.resume t = sys := by
      cases found : sys.tasks[t]? with
      | none => simp only [System.heardIn, System.resume, found, and_self]
      | some task =>
          obtain ⟨o, f, p, c⟩ := task
          have last : f.hasEnded = true := ended _ found
          obtain ⟨x, rfl⟩ := Fiber.eq_ended last
          simp only [System.heardIn, System.resume, found, and_self]
    rw [silent.1, silent.2]
    exact becomes_of_store rfl rfl

/-- What is started when something happens. -/
def startsOf (sys : System P M) : Choice P → List TaskId
  | .turn t => starts (sys.heardIn t)
  | _ => []

/-- What comes of the record in one step, whichever it is. -/
lemma Loads.becomes_apply (loads : Loads sys) (choice : Choice P) :
    Becomes sys (sys.apply choice) (startsOf sys choice) := by
  cases choice with
  | turn t => exact loads.becomes_resume t
  | call c => exact becomes_of_store rfl rfl
  | cancel t => exact becomes_of_store rfl ((System.steady (M := M)).cancelWithin sys t _).store
  | release t => exact becomes_of_store rfl (sys.steady_release t).store

/-- Who loads the engine after something has happened did so before, or was just started. -/
lemma isLoad_apply (sys : System P M) (sound : sys.Sound) (choice : Choice P) {i : TaskId}
    {t : Task P} (found : (sys.apply choice).tasks[i]? = some t) (load : t.origin.isLoad = true)
    (unended : t.fiber.hasEnded = false) :
    (∃ t', sys.tasks[i]? = some t' ∧ t'.origin.isLoad = true ∧ t'.fiber.hasEnded = false)
      ∨ i ∈ startsOf sys choice := by
  cases present : sys.tasks[i]? with
  | none =>
      obtain ⟨o, p, n, rfl, -, started⟩ := System.fresh_apply sys choice present found
      cases o with
      | call c => cases load
      | job j =>
          obtain ⟨u, rfl, among⟩ := started j rfl
          exact .inr (mem_starts among)
  | some old =>
      obtain ⟨o, f, p, c⟩ := old
      obtain ⟨f', p', c', found', -, evolves, -⟩ :=
        (System.evolved_apply sys i choice).own present (sound i _ present)
      cases found.symm.trans found'
      refine .inl ⟨_, rfl, load, Bool.eq_false_iff.mpr fun ended => ?_⟩
      exact Bool.eq_false_iff.mp unended (evolves.hasEnded ended)

/-- Once the engine is loaded the record stays as it is. -/
lemma Loads.kept (loads : Loads sys) (choice : Choice P) (phase : sys.store.phase = .loaded) :
    (sys.apply choice).store = sys.store := by
  have becomes := loads.becomes_apply choice
  generalize startsOf sys choice = ts at becomes
  cases becomes with
  | same same kept => exact kept phase
  | opened t idle unloaded => exact absurd phase unloaded
  | closed t load => exact absurd phase (loads.coherent.ne_loaded load)

/-- **Whatever happens next, record and tasks go on agreeing.** -/
theorem Loads.apply (shares : Shares P) (loads : Loads sys) (choice : Choice P) :
    Loads (sys.apply choice) where
  sound := System.sound_apply loads.sound choice
  coherent := by
    have becomes := loads.becomes_apply choice
    generalize startsOf sys choice = ts at becomes
    cases becomes with
    | same same kept => exact loads.coherent.sameLoad same
    | opened t idle phase opened => exact opened ▸ loads.coherent.opened phase t
    | closed t load closed => exact loads.coherent.closed (loads.coherent.ne_loaded load) closed
  obeys i t found := by
    cases present : sys.tasks[i]? with
    | none =>
        obtain ⟨o, p, n, rfl, -⟩ := System.fresh_apply sys choice present found
        exact shares o
    | some old =>
        obtain ⟨o, f, p, c⟩ := old
        obtain ⟨f', p', c', found', -, evolves, -⟩ :=
          (System.evolved_apply sys i choice).own present (loads.sound i _ present)
        cases found.symm.trans found'
        obtain ⟨s, threads⟩ := System.threads_hears id sys i choice
        exact (evolves_obeys (loads.obeys i _ present) evolves threads).1
  sole i t found load unended := by
    have was := isLoad_apply sys loads.sound choice found load unended
    have sole : (∃ t', sys.tasks[i]? = some t' ∧ t'.origin.isLoad = true ∧ t'.fiber.hasEnded = false) →
        sys.store.load = some i := fun ⟨t', found', load', unended'⟩ =>
      loads.sole i t' found' load' unended'
    have becomes := loads.becomes_apply choice
    generalize startsOf sys choice = ts at becomes was
    cases becomes with
    | same same kept =>
        rw [same.load]
        exact sole (was.resolve_right nofun)
    | opened n idle phase opened =>
        rw [opened]
        rcases was with old | new
        · exact absurd (idle.symm.trans (sole old)) nofun
        · rw [List.mem_singleton.mp new]
          rfl
    | closed n going closed ends =>
        -- the load that has ended was the only one
        obtain rfl : n = i := Option.some.inj (going.symm.trans (sole (was.resolve_right nofun)))
        exact Bool.eq_false_iff.mp unended (ends t found) |>.elim

/-- So they do over any schedule. -/
lemma Loads.follow (shares : Shares P) (loads : Loads sys) (schedule : List (Choice P)) :
    Loads (sys.follow schedule) := by
  induction schedule generalizing sys with
  | nil => exact loads
  | cons choice rest ih => exact ih (loads.apply shares choice)

/-- Once the engine is loaded nobody starts a load. -/
lemma Loads.startsOf_eq_nil (loads : Loads sys) (choice : Choice P)
    (phase : sys.store.phase = .loaded) : startsOf sys choice = [] := by
  have becomes := loads.becomes_apply choice
  generalize startsOf sys choice = ts at becomes
  cases becomes with
  | same same kept => rfl
  | opened t idle unloaded => exact absurd phase unloaded
  | closed t load => rfl

/-- **On an engine that is loaded already the record stays as it is**, and there are no loads. -/
lemma Loads.loaded_follow (shares : Shares P) (loads : Loads sys) (nobody : sys.tasks = [])
    (phase : sys.store.phase = .loaded) (schedule : List (Choice P)) :
    (sys.follow schedule).store = sys.store
      ∧ ∀ (i : TaskId) (t : Task P), (sys.follow schedule).tasks[i]? = some t →
        t.origin.isLoad = false := by
  induction schedule using List.reverseRecOn with
  | nil =>
      refine ⟨rfl, fun i t found => ?_⟩
      change sys.tasks[i]? = some t at found
      rw [nobody] at found
      cases found
  | append_singleton first choice ih =>
      obtain ⟨store, calls⟩ := ih
      have loads' := loads.follow shares first
      have phase' : (sys.follow first).store.phase = .loaded := store ▸ phase
      rw [System.follow_snoc sys]
      refine ⟨(loads'.kept choice phase').trans store, fun i t found => ?_⟩
      cases present : (sys.follow first).tasks[i]? with
      | some old =>
          obtain ⟨o, f, p, c⟩ := old
          obtain ⟨_, _, _, found', -⟩ :=
            (System.evolved_apply (sys.follow first) i choice).own present (loads'.sound i _ present)
          cases found.symm.trans found'
          have before : o.isLoad = false := calls i _ present
          exact before
      | none =>
          obtain ⟨o, _, _, rfl, -, started⟩ :=
            System.fresh_apply (sys.follow first) choice present found
          cases o with
          | call c => rfl
          | job j =>
              obtain ⟨u, rfl, among⟩ := started j rfl
              have new : i ∈ startsOf (sys.follow first) (.turn u) := mem_starts among
              rw [loads'.startsOf_eq_nil _ phase'] at new
              cases new

/-! ## Who keeps to the regime -/

/-- Nothing that is asked of the surroundings matters to who can go on as it likes. -/
lemma ignores_loading (isLoad : Bool) : (loading isLoad).Ignores Stage.Free where
  get a free := by
    cases a with
    | owing => cases free
    | finished => cases free
    | unaware => exact ⟨trivial, fun s b same => same ▸ trivial⟩
    | aware t => exact ⟨trivial, fun s b same => same ▸ trivial⟩
  act e _ a free := by
    cases a with
    | owing => cases free
    | finished => cases free
    | unaware => exact ⟨trivial, fun v b same => same ▸ trivial⟩
    | aware t => exact ⟨trivial, fun v b same => same ▸ trivial⟩
  wait q _ a free := ⟨free, fun x b same => same ▸ trivial⟩
  enter g a free := ⟨free, fun x b same => same ▸ trivial⟩
  leave g a free := by
    cases a with
    | owing => cases free
    | finished => cases free
    | unaware => exact ⟨trivial, fun b same => same ▸ trivial⟩
    | aware t => exact ⟨trivial, fun b same => same ▸ trivial⟩


/-- Who reads the record is aware of it. -/
lemma obeys_getState (free : a.Free) :
    getState.Obeys (loading isLoad) (fun b x => ∃ s, x = .returned s ∧ b = .aware s) a := by
  cases a with
  | owing => cases free
  | finished => cases free
  | unaware => exact .ask trivial fun s b same => .done ⟨s, rfl, same⟩
  | aware t => exact .ask trivial fun s b same => .done ⟨s, rfl, same⟩

/-- **Who needs the engine starts a load only if none is going on**, and records it at once. -/
lemma maintains_load : load.Maintains (loading false) Stage.Free := by
  intro a free
  have current : ∀ s : EngineState, s.phase ≠ .loaded →
      (currentLoad s).Obeys (loading false) (fun b _ => b.Free) (.aware s) := by
    intro s phase
    unfold currentLoad
    cases idle : s.load with
    | some t => exact .done trivial
    | none =>
        refine .ask ⟨rfl, idle, phase⟩ ?_
        rintro t _ rfl
        refine .ask trivial ?_
        rintro s' _ rfl
        refine .ask rfl ?_
        rintro _ _ rfl
        exact .done trivial
  refine (obeys_getState free).bind (fun b s known => ?_) (fun b e known => ?_) fun b known => ?_
  · obtain ⟨_, ⟨⟩, rfl⟩ := known
    split
    · exact .done trivial
    · rename_i phase
      refine (current s phase).bind (fun b t free => ?_) (fun b e free => free) fun b free => free
      exact .await free fun x b same => .done (same ▸ trivial)
  · obtain ⟨_, ⟨⟩, _⟩ := known
  · obtain ⟨_, ⟨⟩, _⟩ := known

/-- A load changes the record. -/
lemma obeys_modifyState {f : EngineState → EngineState} (free : a.Free)
    (more : ∀ s : EngineState, s.SameLoad (f s) ∨ s.Closed (f s)) :
    (modifyState f).Obeys (loading true) (fun b x => x = .returned () ∧ b.Settled
      ∧ ((∀ s : EngineState, s.SameLoad (f s)) → b.Free)) a := by
  refine (obeys_getState free).bind (fun b s known => ?_) (fun b e known => ?_) fun b known => ?_
  · obtain ⟨_, ⟨⟩, rfl⟩ := known
    refine .ask ⟨rfl, more s⟩ ?_
    rintro _ c (⟨-, rfl⟩ | ⟨other, rfl⟩)
    · exact .done ⟨rfl, trivial, fun _ => trivial⟩
    · exact .done ⟨rfl, trivial, fun same => absurd (same s) other⟩
  · obtain ⟨_, ⟨⟩, _⟩ := known
  · obtain ⟨_, ⟨⟩, _⟩ := known

/-- To record a metric leaves nothing owing. -/
lemma settled_record (m : Metric) :
    (Studio.record m).Maintains (loading isLoad) Stage.Settled := by
  refine maintains_ask (fun a settled => ?_) (fun a v b settled asked => ?_) fun _ =>
    maintains_done _
  · cases a with
    | owing => cases settled
    | _ => trivial
  · cases a with
    | owing => cases settled
    | _ => exact asked ▸ trivial

/-- **A load records its end in the turn in which it ends.** -/
lemma obeys_loadOnce (settings : Settings) :
    (loadOnce settings).Obeys (loading true) (fun b _ => b.Settled) .unaware := by
  have ignores := ignores_loading true
  have counts := obeys_modifyState (a := .unaware)
    (f := fun s => { s with attempts := s.attempts + 1 }) trivial
    fun s => .inl ⟨rfl, rfl, rfl, rfl⟩
  have asks : (Tool.version settings.ffmpeg).Maintains (loading true) Stage.Free :=
    Tool.maintains_version ignores.toSpares Tool.attends_all trivial
  have makes : (Studio.makeWorkspace (.ofText settings.workspaceRoot)
      workspaceBeginning).Maintains (loading true) Stage.Free :=
    Studio.maintains_inTime ignores.toSpares rfl trivial trivial
  have prepares := asks.bind fun version => makes.bind fun workspace =>
    maintains_done (.returned (version, workspace))
  have closes : ∀ {f : EngineState → EngineState} {rest : StudioRoutine Unit} {b : Stage},
      b.Free → (∀ s : EngineState, s.Closed (f s)) → rest.Maintains (loading true) Stage.Settled →
      ((modifyState f).bind fun _ => rest).Obeys (loading true) (fun b _ => b.Settled) b :=
    fun free closed maintains => (obeys_modifyState free fun s => .inr (closed s)).bind
      (fun c _ known => maintains c known.2.1) (fun c e known => known.2.1)
      fun c known => known.2.1
  refine counts.bind (fun b _ known => ?_) (fun b e known => known.2.1) fun b known => known.2.1
  have free := known.2.2 fun s => ⟨rfl, rfl, rfl, rfl⟩
  refine (prepares b free).handle fun c x free => ?_
  cases x with
  | returned found =>
      exact closes free (fun s => ⟨rfl, .inl ⟨rfl, rfl, rfl⟩⟩) (settled_record _)
  | cancelled => exact .done (Stage.settled_of_free free)
  | failed e =>
      dsimp only
      cases loadProblem? e with
      | none => exact .done (Stage.settled_of_free free)
      | some p =>
          exact closes free (fun s => ⟨rfl, .inr ⟨rfl, rfl, rfl⟩⟩)
            ((settled_record _).bind fun _ => maintains_done _)

end Engine

end Montage
