import Mathlib.Data.List.Induction
import Mathlib.Tactic.Common
import Montage.Proofs.Routine.Lives
import Montage.Proofs.Routine.Reach
import Montage.Proofs.Routine.Record
import Montage.Proofs.Routine.Upkeep

/-!
# Records and histories

A record tells in one line what all tasks did to their surroundings; a history tells what one task
asked and heard.  They agree: what a task did is what its history tells, in the same order and with
the same replies.

* `Suspension.Logs`, `Routine.Logs` — the entries that go with a reply, and with a history.
* `Entry.after`, `Chained` — a record in which everything follows from what was done before;
  `System.chained_follow` — every record is one.
* `Task.Hailed` — what can happen to a task that does nothing itself.
* **`System.logged_follow`** — **the entries of a task go with its history**, whatever the schedule;
  `System.calls_follow` — who nobody starts is not there.
-/

namespace Montage

variable {E : Interface} {P : Program E} {M : Machine E} {α : Type}

/-! ## Entries and replies -/

/-- What a task did, in order. -/
def entriesOf (i : TaskId) (record : List (Entry M)) : List (Entry M) :=
  record.filter fun e => e.task = i

lemma entriesOf_append (i : TaskId) (record more : List (Entry M)) :
    entriesOf i (record ++ more) = entriesOf i record ++ entriesOf i more := List.filter_append ..

/-- A record of one task only is the record of that task. -/
lemma entriesOf_own {i : TaskId} {record : List (Entry M)} (own : ∀ e ∈ record, e.task = i) :
    entriesOf i record = record :=
  List.filter_eq_self.mpr fun e among => decide_eq_true (own e among)

/-- Of any other task it says nothing. -/
lemma entriesOf_other {i t : TaskId} {record : List (Entry M)} (own : ∀ e ∈ record, e.task = t)
    (other : i ≠ t) : entriesOf i record = [] :=
  List.filter_eq_nil_iff.mpr fun e among same =>
    other ((of_decide_eq_true same).symm.trans (own e among))

/-- The entries that a task leaves on the way to the end of a suspension.  A request to stop may
come before an effect begins and at any time after that. -/
inductive Suspension.Logs (i : TaskId) :
    (s : Suspension E) → Exit s.Answer → List (Entry M) → Prop
  | nothing {s : Suspension E} {x : Exit s.Answer} (apart : x = .cancelled ∨ ∀ w, s ≠ .wait w) :
      Logs i s x []
  | atOnce {w : E.Wait} {b : M.State} {v : E.Ans w} {x : Exit (E.Ans w)}
      (reply : (M.wait i w b).1 = some v) (ends : x = .returned v ∨ x = .cancelled) :
      Logs i (.wait w) x [⟨i, .begin w, b⟩]
  | unfinished {w : E.Wait} {b : M.State} (held : (M.wait i w b).1 = none) :
      Logs i (.wait w) .cancelled [⟨i, .begin w, b⟩]
  | finished {w : E.Wait} {b b' : M.State} {x : Exit (E.Ans w)} (held : (M.wait i w b).1 = none)
      (ends : x = .returned (M.release i w b').1 ∨ x = .cancelled) :
      Logs i (.wait w) x [⟨i, .begin w, b⟩, ⟨i, .finish w, b'⟩]

/-- The entries that a task has left while it waits for the end of a suspension. -/
inductive Suspension.HasLogged (i : TaskId) : Suspension E → List (Entry M) → Prop
  | nothing {s : Suspension E} (apart : ∀ w, s ≠ .wait w) : HasLogged i s []
  | held {w : E.Wait} {b : M.State} (held : (M.wait i w b).1 = none) :
      HasLogged i (.wait w) [⟨i, .begin w, b⟩]

/-- A history leads from one routine to another, and a task that goes this way leaves certain
entries. -/
inductive Routine.Logs (i : TaskId) :
    Routine E α → History E → List (Entry M) → Routine E α → Prop
  | refl (r : Routine E α) : Logs i r [] [] r
  | act {a : E.Act} {k : E.Val a → Routine E α} {b : M.State} {h : History E}
      {es : List (Entry M)} {r : Routine E α} (rest : Logs i (k (M.act i a b).1) h es r) :
      Logs i (.ask (.act a) k) (.asked (.act a) (M.act i a b).1 :: h) (⟨i, .act a, b⟩ :: es) r
  | ask {q : Request E} {k : q.Reply → Routine E α} {v : q.Reply} {h : History E}
      {es : List (Entry M)} {r : Routine E α} (apart : ∀ a, q ≠ .act a)
      (rest : Logs i (k v) h es r) : Logs i (.ask q k) (.asked q v :: h) es r
  | await {s : Suspension E} {k : Exit s.Answer → Routine E α} {x : Exit s.Answer} {h : History E}
      {es more : List (Entry M)} {r : Routine E α} (logs : s.Logs i x es)
      (rest : Logs i (k x) h more r) : Logs i (.await s k) (.awaited s x :: h) (es ++ more) r

/-- A wait got its reply with an entry. -/
def Entry.Answers (e : Entry M) (w : E.Wait) (v : E.Ans w) : Prop :=
  (e.move = .begin w ∧ (M.wait e.task w e.before).1 = some v)
    ∨ e.move = .finish w ∧ (M.release e.task w e.before).1 = v

section Logs

variable {i : TaskId} {s : Suspension E} {x : Exit s.Answer} {r r' r'' : Routine E α}
  {h h' : History E} {es es' : List (Entry M)}

/-- A request to stop takes the place of a reply that a task has not seen. -/
lemma Suspension.Logs.cancelled (logs : s.Logs i x es) : s.Logs i .cancelled es := by
  cases logs with
  | nothing => exact .nothing (.inl rfl)
  | atOnce reply => exact .atOnce reply (.inr rfl)
  | unfinished held => exact .unfinished held
  | finished held => exact .finished held (.inr rfl)

/-- What has been logged of a suspension is all there is, once it is answered. -/
lemma Suspension.HasLogged.logs (logged : s.HasLogged i es)
    (apart : x = .cancelled ∨ ∀ w, s ≠ .wait w) : s.Logs i x es := by
  cases logged with
  | nothing none => exact .nothing (.inr none)
  | held held =>
      obtain rfl : x = .cancelled := apart.resolve_right fun none => none _ rfl
      exact .unfinished held

lemma Suspension.Logs.task_eq (logs : s.Logs i x es) : ∀ e ∈ es, e.task = i := by
  intro e among
  cases logs with
  | nothing => cases among
  | atOnce | unfinished => rw [List.mem_singleton.mp among]
  | finished =>
      rcases List.mem_cons.mp among with rfl | among
      · rfl
      · rw [List.mem_singleton.mp among]

lemma Suspension.HasLogged.task_eq (logged : s.HasLogged i es) : ∀ e ∈ es, e.task = i := by
  cases logged with
  | nothing => exact List.forall_mem_nil _
  | held => exact List.forall_mem_singleton.mpr rfl

namespace Routine

/-- Ways through a routine one after the other, with what they log. -/
lemma Logs.trans (first : r.Logs i h es r') (rest : r'.Logs i h' es' r'') :
    r.Logs i (h ++ h') (es ++ es') r'' := by
  induction first with
  | refl r => exact rest
  | act _ ih => exact .act (ih rest)
  | ask apart _ ih => exact .ask apart (ih rest)
  | await logs _ ih =>
      rw [List.append_assoc]
      exact .await logs (ih rest)

/-- Whoever forgets the log has a way through the routine. -/
lemma Logs.leads (logs : r.Logs i h es r') : r.Leads h r' := by
  induction logs with
  | refl r => exact .refl r
  | act _ ih => exact .ask ih
  | ask _ _ ih => exact .ask ih
  | await _ _ ih => exact .await ih

lemma Logs.task_eq (logs : r.Logs i h es r') : ∀ e ∈ es, e.task = i := by
  induction logs with
  | refl r => exact List.forall_mem_nil _
  | act _ ih => exact List.forall_mem_cons.mpr ⟨rfl, ih⟩
  | ask _ _ ih => exact ih
  | await logs _ ih => exact List.forall_mem_append.mpr ⟨logs.task_eq, ih⟩

/-- **What was done at once was asked for**, and the reply was heard. -/
lemma Logs.asked_of_act (logs : r.Logs i h es r') {e : Entry M} (among : e ∈ es) {a : E.Act}
    (move : e.move = .act a) : .asked (.act a) (M.act i a e.before).1 ∈ h := by
  induction logs with
  | refl r => cases among
  | act _ ih =>
      rcases List.mem_cons.mp among with rfl | later
      · cases move
        exact List.mem_cons_self
      · exact List.mem_cons_of_mem _ (ih later)
  | ask _ _ ih => exact List.mem_cons_of_mem _ (ih among)
  | await logs _ ih =>
      rcases List.mem_append.mp among with now | later
      · -- no wait is an act
        cases logs with
        | nothing => cases now
        | atOnce | unfinished =>
            rw [List.mem_singleton.mp now] at move
            cases move
        | finished =>
            rcases List.mem_cons.mp now with rfl | now
            · cases move
            · rw [List.mem_singleton.mp now] at move
              cases move
      · exact List.mem_cons_of_mem _ (ih later)

/-- … and **what was asked for was done**. -/
lemma Logs.act_of_asked (logs : r.Logs i h es r') {a : E.Act} {v : E.Val a}
    (among : .asked (.act a) v ∈ h) :
    ∃ e ∈ es, e.move = .act a ∧ (M.act i a e.before).1 = v := by
  induction logs with
  | refl r => cases among
  | act _ ih =>
      rcases List.mem_cons.mp among with same | later
      · cases same
        exact ⟨_, List.mem_cons_self, rfl, rfl⟩
      · obtain ⟨e, found, done⟩ := ih later
        exact ⟨e, List.mem_cons_of_mem _ found, done⟩
  | ask apart _ ih =>
      rcases List.mem_cons.mp among with same | later
      · cases same
        exact absurd rfl (apart a)
      · exact ih later
  | await _ _ ih =>
      rcases List.mem_cons.mp among with same | later
      · cases same
      · obtain ⟨e, found, done⟩ := ih later
        exact ⟨e, List.mem_append_right _ found, done⟩

/-- A wait comes to its reply or is stopped. -/
lemma Logs.never_fails (logs : r.Logs i h es r') (w : E.Wait) (e : Failure) :
    .awaited (.wait w) (.failed e) ∉ h := by
  induction logs with
  | refl r => nofun
  | act _ ih =>
      intro among
      rcases List.mem_cons.mp among with same | later
      · cases same
      · exact ih later
  | ask _ _ ih =>
      intro among
      rcases List.mem_cons.mp among with same | later
      · cases same
      · exact ih later
  | await logs _ ih =>
      intro among
      rcases List.mem_cons.mp among with same | later
      · cases same
        cases logs with
        | nothing apart => exact apart.elim nofun fun none => none w rfl
        | atOnce _ ends => exact ends.elim nofun nofun
        | finished _ ends => exact ends.elim nofun nofun
      · exact ih later

/-- **Who has heard the reply to a wait has got it with an entry.** -/
lemma Logs.answers_of_returned (logs : r.Logs i h es r') {w : E.Wait} {v : E.Ans w}
    (among : .awaited (.wait w) (.returned v) ∈ h) : ∃ e ∈ es, e.Answers w v := by
  induction logs with
  | refl r => cases among
  | act _ ih =>
      rcases List.mem_cons.mp among with same | later
      · cases same
      · obtain ⟨e, found, answers⟩ := ih later
        exact ⟨e, List.mem_cons_of_mem _ found, answers⟩
  | ask _ _ ih =>
      rcases List.mem_cons.mp among with same | later
      · cases same
      · exact ih later
  | await logs _ ih =>
      rcases List.mem_cons.mp among with same | later
      · cases same
        cases logs with
        | nothing apart =>
            rcases apart with same | none
            · cases same
            · exact absurd rfl (none w)
        | atOnce reply ends =>
            cases ends.resolve_right nofun
            exact ⟨_, List.mem_append_left _ List.mem_cons_self, .inl ⟨rfl, reply⟩⟩
        | finished _ ends =>
            cases ends.resolve_right nofun
            refine ⟨_, List.mem_append_left _ (List.mem_cons_of_mem _ List.mem_cons_self), ?_⟩
            exact .inr ⟨rfl, rfl⟩
      · obtain ⟨e, found, answers⟩ := ih later
        exact ⟨e, List.mem_append_right _ found, answers⟩

end Routine

end Logs

/-! ## Records as chains -/

/-- What the surroundings are like after an entry. -/
def Entry.after (e : Entry M) : M.State :=
  match e.move with
  | .act a => (M.act e.task a e.before).2
  | .begin w => (M.wait e.task w e.before).2
  | .finish w => (M.release e.task w e.before).2

/-- Each entry finds what the ones before it have left. -/
inductive Chained (start : M.State) : List (Entry M) → M.State → Prop
  | nil : Chained start [] start
  | snoc {record : List (Entry M)} {w : M.State} (before : Chained start record w) (t : TaskId)
      (m : Move E) : Chained start (record ++ [⟨t, m, w⟩]) (Entry.after ⟨t, m, w⟩)

/-- Entries of a task are added to a record, each with the surroundings as they were before it. -/
inductive Adds (t : TaskId) :
    M.State × List (Entry M) → List (Entry M) → M.State × List (Entry M) → Prop
  | refl (w : M.State × List (Entry M)) : Adds t w [] w
  | cons {w : M.State} {record es : List (Entry M)} {w' : M.State × List (Entry M)} (m : Move E)
      (rest : Adds t (Entry.after ⟨t, m, w⟩, record ++ [⟨t, m, w⟩]) es w') :
      Adds t (w, record) (⟨t, m, w⟩ :: es) w'

section Adds

variable {t : TaskId} {w w' w'' : M.State × List (Entry M)} {es es' : List (Entry M)}

lemma Adds.trans (first : Adds t w es w') (rest : Adds t w' es' w'') :
    Adds t w (es ++ es') w'' := by
  induction first with
  | refl w => exact rest
  | cons m _ ih => exact .cons m (ih rest)

/-- A record only grows. -/
lemma Adds.record_eq (adds : Adds t w es w') : w'.2 = w.2 ++ es := by
  induction adds with
  | refl w => exact (List.append_nil _).symm
  | cons m _ ih => rw [ih, List.append_assoc, List.singleton_append]

lemma Adds.task_eq (adds : Adds t w es w') : ∀ e ∈ es, e.task = t := by
  induction adds with
  | refl w => exact List.forall_mem_nil _
  | cons m _ ih => exact List.forall_mem_cons.mpr ⟨rfl, ih⟩

/-- What is added begins where the record has ended. -/
lemma Adds.chained {start : M.State} (adds : Adds t w es w') (before : Chained start w.2 w.1) :
    Chained start w'.2 w'.1 := by
  induction adds with
  | refl w => exact before
  | cons m _ ih => exact ih (before.snoc t m)

/-- Who adds nothing leaves the entries of the others alone. -/
lemma Adds.entriesOf_other (adds : Adds t w es w') {i : TaskId} (other : i ≠ t) :
    entriesOf i w'.2 = entriesOf i w.2 := by
  rw [adds.record_eq, entriesOf_append, Montage.entriesOf_other adds.task_eq other,
    List.append_nil]

lemma Adds.entriesOf_own (adds : Adds t w es w') :
    entriesOf t w'.2 = entriesOf t w.2 ++ es := by
  rw [adds.record_eq, entriesOf_append, Montage.entriesOf_own adds.task_eq]

end Adds

/-! ## Tasks that do nothing -/

/-- What can happen to a task that does nothing itself: it is asked to stop, or told of a gate or of
another task. -/
inductive Task.Hailed : Task P → Task P → Prop
  | flags {o : Origin P} {f : Fiber E o.Out} {p p' : Bool} {c c' : Nat} :
      Hailed ⟨o, f, p, c⟩ ⟨o, f, p', c'⟩
  | told {o : Origin P} {s : Suspension E} {x : Exit s.Answer}
      {k : Exit s.Answer → Routine E o.Out} {p p' : Bool} {c c' : Nat}
      (apart : x = .cancelled ∨ ∀ w, s ≠ .wait w) :
      Hailed ⟨o, .waiting s k, p, c⟩ ⟨o, .ready s x k, p', c'⟩

lemma Task.Hailed.refl (t : Task P) : t.Hailed t := .flags

lemma Task.Hailed.trans {t t' t'' : Task P} (first : t.Hailed t') (rest : t'.Hailed t'') :
    t.Hailed t'' := by
  cases first with
  | flags =>
      cases rest with
      | flags => exact .flags
      | told apart => exact .told apart
  | told apart =>
      cases rest with
      | flags => exact .told apart

/-- An answer that is no effect of the surroundings is logged nowhere. -/
lemma Task.hailed_answer (t : Task P) {reply : (s : Suspension E) → Option (Exit s.Answer)}
    (apart : ∀ s x, reply s = some x → x = .cancelled ∨ ∀ w, s ≠ .wait w) :
    t.Hailed (t.answer reply) := by
  obtain ⟨o, f, p, c⟩ := t
  unfold Task.answer
  cases f with
  | waiting s k =>
      cases told : reply s with
      | none =>
          simp only [told]
          exact .refl _
      | some x =>
          simp only [told]
          exact .told (apart s x told)
  | _ => exact .refl _

/-- So it is with all of them. -/
def Hails (tasks tasks' : List (Task P)) : Prop :=
  ∀ (i : TaskId) (t : Task P), tasks[i]? = some t → ∃ t', tasks'[i]? = some t' ∧ t.Hailed t'

section Hails

variable {tasks tasks' tasks'' : List (Task P)}

lemma Hails.refl (tasks : List (Task P)) : Hails tasks tasks := fun _ t found => ⟨t, found, .refl t⟩

lemma Hails.trans (first : Hails tasks tasks') (rest : Hails tasks' tasks'') :
    Hails tasks tasks'' := by
  intro i t found
  obtain ⟨t', found', hailed⟩ := first i t found
  obtain ⟨t'', found'', hailed'⟩ := rest i t' found'
  exact ⟨t'', found'', hailed.trans hailed'⟩

/-- Tasks of which one is hailed. -/
lemma hails_modify (u : TaskId) {f : Task P → Task P} (hailed : ∀ t : Task P, t.Hailed (f t)) :
    Hails tasks (tasks.modify u f) := by
  intro i t found
  rw [List.getElem?_modify, found]
  by_cases here : u = i
  · exact ⟨f t, by simp [here], hailed t⟩
  · exact ⟨t, by simp [here], .refl t⟩

end Hails

/-- **What one task does to the others hails them at most.** -/
lemma hails [DecidableEq E.Gate] : BearsRequests (Hails (P := P)) where
  refl := .refl
  trans := .trans
  pass _ := hails_modify _ fun _ => .flags
  interrupt _ _ := (hails_modify _ fun _ => .flags).trans <|
    hails_modify _ fun task => task.hailed_answer fun s x told => .inl (Option.some.inj told).symm
  mark _ _ := (hails_modify _ fun _ => .flags).trans (hails_modify _ fun _ => .flags)
  grant tasks u g := hails_modify _ fun t => t.hailed_answer fun s x told => .inr <| by
    rintro w rfl
    cases told
  spawn tasks o i t found :=
    ⟨t, (List.getElem?_append_left (List.getElem?_eq_some_iff.mp found).1).trans found, .refl t⟩

/-! ## Where tasks come to -/

/-- A task has come this far in its turns, with certain entries. -/
inductive Fiber.Arrives (i : TaskId) (r : Routine E α) :
    History E → List (Entry M) → Fiber E α → Prop
  | waiting {s : Suspension E} {k : Exit s.Answer → Routine E α} {h : History E}
      {es more : List (Entry M)} (logs : r.Logs i h es (.await s k)) (begun : s.HasLogged i more) :
      Arrives i r h (es ++ more) (.waiting s k)
  | ready {s : Suspension E} {x : Exit s.Answer} {k : Exit s.Answer → Routine E α} {h : History E}
      {es more : List (Entry M)} (logs : r.Logs i h es (.await s k)) (told : s.Logs i x more) :
      Arrives i r h (es ++ more) (.ready s x k)
  | ended {x y : Exit α} {h : History E} {es : List (Entry M)} (logs : r.Logs i h es (.done y)) :
      Arrives i r h es (.ended x)

/-- A task has come this far, or has not taken a step. -/
inductive Fiber.Logged (i : TaskId) (r : Routine E α) :
    History E → List (Entry M) → Fiber E α → Prop
  | fresh : Logged i r [] [] .fresh
  | unbegun : Logged i r [] [] (.ended .cancelled)
  | arrives {h : History E} {es : List (Entry M)} {f : Fiber E α} (comes : f.Arrives i r h es) :
      Logged i r h es f

section Arrivals

variable {i : TaskId} {r r' : Routine E α} {h h' : History E} {es es' : List (Entry M)}

/-- To arrive after something else. -/
lemma Fiber.Arrives.after {f : Fiber E α} (comes : f.Arrives i r' h' es')
    (before : r.Logs i h es r') : f.Arrives i r (h ++ h') (es ++ es') := by
  cases comes with
  | waiting logs begun =>
      rw [← List.append_assoc]
      exact .waiting (before.trans logs) begun
  | ready logs told =>
      rw [← List.append_assoc]
      exact .ready (before.trans logs) told
  | ended logs => exact .ended (before.trans logs)

/-- Who does nothing leaves no entries. -/
lemma Fiber.Arrives.hailed {o : Origin P} {f : Fiber E o.Out} {r : Routine E o.Out} {p : Bool}
    {c : Nat} {t : Task P} (comes : f.Arrives i r h es) (hailed : Task.Hailed ⟨o, f, p, c⟩ t) :
    ∃ f' p' c', t = ⟨o, f', p', c'⟩ ∧ f'.Arrives i r h es := by
  cases hailed with
  | flags => exact ⟨_, _, _, rfl, comes⟩
  | told apart =>
      cases comes with
      | waiting logs begun => exact ⟨_, _, _, rfl, .ready logs (begun.logs apart)⟩

/-- A request to stop changes nothing of what has been logged. -/
lemma Fiber.Logged.hailed {o : Origin P} {f : Fiber E o.Out} {r : Routine E o.Out} {p : Bool}
    {c : Nat} {t : Task P} (logged : f.Logged i r h es) (hailed : Task.Hailed ⟨o, f, p, c⟩ t) :
    ∃ f' p' c', t = ⟨o, f', p', c'⟩ ∧ f'.Logged i r h es := by
  cases logged with
  | fresh =>
      cases hailed
      exact ⟨_, _, _, rfl, .fresh⟩
  | unbegun =>
      cases hailed
      exact ⟨_, _, _, rfl, .unbegun⟩
  | arrives comes =>
      obtain ⟨f', p', c', same, comes'⟩ := comes.hailed hailed
      exact ⟨f', p', c', same, .arrives comes'⟩

/-- What a task has heard leads from its beginning. -/
lemma Fiber.Logged.logs {f : Fiber E α} (logged : f.Logged i r h es) :
    ∃ es left, r.Logs (M := M) i h es left := by
  cases logged with
  | fresh => exact ⟨[], r, .refl r⟩
  | unbegun => exact ⟨[], r, .refl r⟩
  | arrives comes =>
      cases comes with
      | waiting logs => exact ⟨_, _, logs⟩
      | ready logs => exact ⟨_, _, logs⟩
      | ended logs => exact ⟨_, _, logs⟩

end Arrivals

/-! ## Turns -/

namespace System

variable {sys : System P M.recording} {i : TaskId} {o : Origin P} {p : Bool} {c : Nat}

/-- What becomes of a suspension that has begun, and the entries that it has left. -/
def Prospect.Logged (i : TaskId) (s : Suspension E) (es : List (Entry M)) :
    Prospect s.Answer → Prop
  | .now x => s.Logs i x es
  | .later x => s.Logs i x es
  | .unknown => s.HasLogged i es

variable [DecidableEq E.Gate]

/-- A question leaves an entry if something is done for it. -/
lemma logged_reply (sys : System P M.recording) (i : TaskId) (q : Request E) :
    ∃ es, Adds i sys.world es (sys.reply i q).2.world
      ∧ ∀ {α : Type} {k : q.Reply → Routine E α},
        (Routine.ask q k).Logs i [.asked q (sys.reply i q).1] es (k (sys.reply i q).1) := by
  have none : ∀ {q : Request E} (v : q.Reply), (∀ a, q ≠ .act a) → ∀ {α : Type}
      {k : q.Reply → Routine E α}, (Routine.ask q k).Logs (M := M) i [.asked q v] [] (k v) :=
    fun v apart => .ask apart (.refl _)
  have same : ∀ {next : System P M.recording}, next.world = sys.world →
      Adds i sys.world [] next.world := fun world => world ▸ .refl _
  cases q with
  | act a => exact ⟨[⟨i, .act a, sys.world.1⟩], .cons (.act a) (.refl _), .act (.refl _)⟩
  | get => exact ⟨[], .refl _, none _ (by nofun)⟩
  | set s => exact ⟨[], .refl _, none _ (by nofun)⟩
  | leave g => exact ⟨[], same (sys.world_leave g), none _ (by nofun)⟩
  | start j => exact ⟨[], .refl _, none _ (by nofun)⟩
  | cancel t => exact ⟨[], same (world_stops.cancelWithin sys t _), none _ (by nofun)⟩
  | cancelling => exact ⟨[], .refl _, none _ (by nofun)⟩

variable [DecidableEq E.Job]

/-- A suspension leaves an entry if something begins with it. -/
lemma logged_begin (sys : System P M.recording) (i : TaskId) (s : Suspension E) :
    ∃ es, Adds i sys.world es (sys.begin i s).2.world
      ∧ Prospect.Logged i s es (sys.begin i s).1 := by
  cases s with
  | wait w =>
      refine ⟨[⟨i, .begin w, sys.world.1⟩], ?_⟩
      have reply : M.recording.wait i w sys.world = ((M.wait i w sys.world.1).1,
        (M.wait i w sys.world.1).2, sys.world.2 ++ [⟨i, .begin w, sys.world.1⟩]) := rfl
      simp only [begin]
      rw [reply]
      cases begun : M.wait i w sys.world.1 with
      | mk v next =>
          have adds : Adds i sys.world [⟨i, .begin w, sys.world.1⟩]
              ((M.wait i w sys.world.1).2, sys.world.2 ++ [⟨i, .begin w, sys.world.1⟩]) :=
            .cons (.begin w) (.refl _)
          have found := congrArg Prod.fst begun
          rw [begun] at adds
          cases v with
          | none => exact ⟨adds, .held found⟩
          | some v => exact ⟨adds, .atOnce found (.inl rfl)⟩
  | enter g =>
      refine ⟨[], ?_⟩
      simp only [begin]
      split
      · exact ⟨.refl _, .nothing (.inr (by rintro _ ⟨⟩))⟩
      · exact ⟨.refl _, .nothing (by rintro _ ⟨⟩)⟩
  | join j t =>
      refine ⟨[], ?_⟩
      simp only [begin]
      split
      · exact ⟨.refl _, .nothing (.inr (by rintro _ ⟨⟩))⟩
      · exact ⟨.refl _, .nothing (by rintro _ ⟨⟩)⟩
  | watch j t =>
      refine ⟨[], ?_⟩
      simp only [begin]
      split
      · exact ⟨.refl _, .nothing (.inr (by rintro _ ⟨⟩))⟩
      · exact ⟨.refl _, .nothing (by rintro _ ⟨⟩)⟩

/-- What a turn leaves: entries that go with what the task heard; the others do nothing. -/
structure Writes (i : TaskId) (o : Origin P) (r : Routine E o.Out) (h : History E)
    (sys sys' : System P M.recording) : Prop where
  own : ∃ f p c es, sys'.tasks[i]? = some ⟨o, f, p, c⟩ ∧ f.Arrives i r h es
    ∧ Adds i sys.world es sys'.world
  others : ∀ (j : TaskId) (t : Task P), j ≠ i → sys.tasks[j]? = some t →
    ∃ t', sys'.tasks[j]? = some t' ∧ t.Hailed t'

omit [DecidableEq E.Gate] [DecidableEq E.Job] in
/-- A turn that goes on after something was heard. -/
lemma Writes.after {r r' : Routine E o.Out} {h h' : History E} {es : List (Entry M)}
    {sys sys' sys'' : System P M.recording} (writes : Writes i o r' h' sys' sys'')
    (logs : r.Logs i h es r') (adds : Adds i sys.world es sys'.world)
    (hails : Hails sys.tasks sys'.tasks) : Writes i o r (h ++ h') sys sys'' := by
  constructor
  · obtain ⟨f, p, c, more, found, comes, adds'⟩ := writes.own
    exact ⟨f, p, c, es ++ more, found, comes.after logs, adds.trans adds'⟩
  · intro j t other found
    obtain ⟨t', found', hailed⟩ := hails j t found
    obtain ⟨t'', found'', hailed'⟩ := writes.others j t' other found'
    exact ⟨t'', found'', hailed.trans hailed'⟩

omit [DecidableEq E.Gate] [DecidableEq E.Job] in
/-- A turn that comes to a suspension. -/
lemma writes_parked {r : Routine E o.Out} {f : Fiber E o.Out} {es : List (Entry M)}
    {sys' : System P M.recording} {tasks : List (Task P)} (hails : Hails sys.tasks tasks)
    (running : tasks[i]? = some ⟨o, .running, p, c⟩) (same : sys'.tasks = parked tasks i o f)
    (comes : f.Arrives i r [] es) (adds : Adds i sys.world es sys'.world) :
    Writes i o r [] sys sys' := by
  constructor
  · refine ⟨f, p, c, es, ?_, comes, adds⟩
    rw [same, parked, List.getElem?_modify_eq, running]
    rfl
  · intro j t other found
    obtain ⟨t', found', hailed⟩ := hails j t found
    refine ⟨t', ?_, hailed⟩
    rw [same, parked, List.getElem?_modify_ne _ _ other.symm, found']

omit [DecidableEq E.Gate] [DecidableEq E.Job] in
/-- What reaches a task after its turn. -/
lemma Writes.before {r : Routine E o.Out} {h : History E} {sys sys' sys'' : System P M.recording}
    (writes : Writes i o r h sys sys') (hails : Hails sys'.tasks sys''.tasks)
    (same : sys''.world = sys'.world) : Writes i o r h sys sys'' := by
  constructor
  · obtain ⟨f, p, c, es, found, comes, adds⟩ := writes.own
    obtain ⟨t, found', hailed⟩ := hails i _ found
    obtain ⟨f', p', c', rfl, comes'⟩ := comes.hailed hailed
    exact ⟨f', p', c', es, found', comes', same ▸ adds⟩
  · intro j t other found
    obtain ⟨t', found', hailed⟩ := writes.others j t other found
    obtain ⟨t'', found'', hailed'⟩ := hails j t' found'
    exact ⟨t'', found'', hailed.trans hailed'⟩

omit [DecidableEq E.Gate] in
/-- A turn that ends a task. -/
lemma writes_finish (running : sys.tasks[i]? = some ⟨o, .running, p, c⟩) (x : Exit o.Out) :
    Writes i o (.done x) [] sys (sys.finish i o x) := by
  have tasks := tasks_finish running x
  constructor
  · refine ⟨.ended (endOf p x), false, c, [], ?_, .ended (.refl _), .refl _⟩
    rw [tasks, announced_own (List.getElem?_eq_some_iff.mp running).1]
  · intro j t other found
    let ended : Task P := ⟨o, .ended (endOf p x), false, c⟩
    have hailed : t.Hailed (t.answer (exitFor? ended i)) :=
      t.hailed_answer fun s x told => .inr <| by
        rintro w rfl
        cases told
    refine ⟨_, ?_, hailed⟩
    rw [tasks, announced, List.getElem?_map, List.getElem?_modify_ne _ _ other.symm, found]
    rfl

/-- **What a turn leaves goes with what the task heard in it.** -/
lemma writes_perform (r : Routine E o.Out) {sys : System P M.recording} {p : Bool} {c : Nat}
    (running : sys.tasks[i]? = some ⟨o, .running, p, c⟩) :
    Writes i o r (heard i o sys r) sys (perform i o sys r) := by
  induction r generalizing sys p c with
  | done x => exact writes_finish running x
  | ask q k ih =>
      obtain ⟨es, adds, logs⟩ := logged_reply sys i q
      obtain ⟨p', c', running', -⟩ := (gently.reply sys i q).running running
      exact (ih _ running').after logs adds (hails.reply sys i q)
  | await s k ih =>
      rw [heard, perform]
      split
      · -- a request to stop comes before the suspension has begun
        have calm := running_calmed running
        have calms : Hails sys.tasks
            (sys.update i fun task => { task with pending := false }).tasks :=
          hails_modify i fun _ => .flags
        have ready : ∀ {s : Suspension E} {k : Exit s.Answer → Routine E o.Out},
            Fiber.Arrives (M := M) i (.await s k) [] ([] ++ []) (.ready s .cancelled k) :=
          .ready (.refl _) (.nothing (.inl rfl))
        cases s with
        | join j u =>
            have parks : Writes i o (.await (.join j u) k) [] sys (System.update
                (sys.update i fun task => { task with pending := false }) i fun task =>
              { origin := o, fiber := .waiting (.join j u) k, pending := task.pending,
                cancels := task.cancels }) :=
              writes_parked calms calm rfl (.waiting (.refl _) (.nothing (by rintro _ ⟨⟩))) (.refl _)
            exact parks.before (hails.cancelWithin _ u _) (world_stops.cancelWithin _ u _)
        | wait w => exact writes_parked calms calm rfl ready (.refl _)
        | enter g => exact writes_parked calms calm rfl ready (.refl _)
        | watch j u => exact writes_parked calms calm rfl ready (.refl _)
      · obtain ⟨es, adds, logged⟩ := logged_begin sys i s
        have same := sys.tasks_begin i s
        cases begun : sys.begin i s with
        | mk prospect next =>
            rw [begun] at adds logged same
            have tasks : next.tasks = sys.tasks := same
            have still : Hails sys.tasks next.tasks := tasks ▸ .refl _
            have found := tasks ▸ running
            cases prospect with
            | now x =>
                have logs : (Routine.await s k).Logs i [.awaited s x] (es ++ []) (k x) :=
                  .await logged (.refl _)
                rw [List.append_nil] at logs
                exact (ih x found).after logs adds still
            | later x =>
                exact writes_parked still found rfl (.ready (.refl _) logged) adds
            | unknown =>
                exact writes_parked still found rfl (.waiting (.refl _) logged) adds

/-! ## Schedules -/

/-- What happens to the record of a task: entries that go with what it hears are added. -/
structure Proceeds (i : TaskId) (o : Origin P) (f : Fiber E o.Out) (h : History E)
    (sys sys' : System P M.recording) (es : List (Entry M)) : Prop where
  adds : Adds i sys.world es sys'.world
  own : ∀ before record, f.Logged i o.routine before record → ∃ f' p' c',
    sys'.tasks[i]? = some ⟨o, f', p', c'⟩ ∧ f'.Logged i o.routine (before ++ h) (record ++ es)
  others : ∀ (j : TaskId) (t : Task P), j ≠ i → sys.tasks[j]? = some t →
    ∃ t', sys'.tasks[j]? = some t' ∧ t.Hailed t'

omit [DecidableEq E.Gate] [DecidableEq E.Job] in
/-- Nothing happens. -/
lemma proceeds_refl {f : Fiber E o.Out} (found : sys.tasks[i]? = some ⟨o, f, p, c⟩) :
    Proceeds i o f [] sys sys [] where
  adds := .refl _
  own before record logged := ⟨f, p, c, found, by simpa only [List.append_nil] using logged⟩
  others j t _ found := ⟨t, found, .refl t⟩

omit [DecidableEq E.Gate] [DecidableEq E.Job] in
/-- A task goes on from where it has come to. -/
lemma Writes.proceeds {r : Routine E o.Out} {f : Fiber E o.Out} {heard : History E}
    {sys sys' start : System P M.recording} (writes : Writes i o r heard start sys')
    (told : History E) (world : start.world = sys.world)
    (hails : ∀ (j : TaskId) (t : Task P), j ≠ i → sys.tasks[j]? = some t →
      ∃ t', start.tasks[j]? = some t' ∧ t.Hailed t')
    (goes : ∀ before (record : List (Entry M)), f.Logged i o.routine before record →
      o.routine.Logs i (before ++ told) record r) :
    ∃ es, Proceeds i o f (told ++ heard) sys sys' es := by
  obtain ⟨f', p', c', es, found, comes, adds⟩ := writes.own
  refine ⟨es, world ▸ adds, fun before record logged => ⟨f', p', c', found, ?_⟩, ?_⟩
  · rw [← List.append_assoc]
    exact .arrives (comes.after (goes before record logged))
  · intro j t other found
    obtain ⟨t', found', hailed⟩ := hails j t other found
    obtain ⟨t'', found'', hailed'⟩ := writes.others j t' other found'
    exact ⟨t'', found'', hailed.trans hailed'⟩

/-- A turn. -/
lemma proceeds_resume {f : Fiber E o.Out} (found : sys.tasks[i]? = some ⟨o, f, p, c⟩) :
    ∃ es, Proceeds i o f (sys.heardIn i) sys (sys.resume i) es := by
  have others : ∀ (p' : Bool) (j : TaskId) (t : Task P), j ≠ i → sys.tasks[j]? = some t →
      ∃ t', (sys.begun i o p' c).tasks[j]? = some t' ∧ t.Hailed t' := fun p' j t other found => by
    refine ⟨t, ?_, .refl t⟩
    rw [begun, update, List.getElem?_modify_ne _ _ other.symm, found]
  have none : ∀ {before} {record : List (Entry M)},
      (Fiber.fresh : Fiber E o.Out).Logged i o.routine before record →
      before = [] ∧ record = [] := fun logged => by
    cases logged with
    | fresh => exact ⟨rfl, rfl⟩
    | arrives comes => cases comes
  have goes : ∀ {s : Suspension E} {x y : Exit s.Answer} {k : Exit s.Answer → Routine E o.Out},
      y = x ∨ y = .cancelled →
      ∀ before (record : List (Entry M)), (Fiber.ready s x k).Logged i o.routine before record →
      o.routine.Logs i (before ++ [.awaited s y]) record (k y) := by
    intro s x y k same before record logged
    cases logged with
    | arrives comes =>
        cases comes with
        | @ready _ _ _ _ es more logs told =>
            have told' : s.Logs i y more := by
              rcases same with rfl | rfl
              · exact told
              · exact told.cancelled
            have next : (Routine.await s k).Logs i [.awaited s y] (more ++ []) (k y) :=
              .await told' (.refl _)
            rw [List.append_nil] at next
            exact logs.trans next
  have takes := sys.takes_resume i
  generalize sys.heardIn i = h at takes ⊢
  generalize sys.resume i = next at takes ⊢
  cases takes with
  | idle => exact ⟨[], proceeds_refl found⟩
  | unbegun found' =>
      cases found.symm.trans found'
      have running := running_begun found true
      refine ⟨[], .refl _, fun before record logged => ?_, fun j t other found => ?_⟩
      · obtain ⟨rfl, rfl⟩ := none logged
        refine ⟨.ended .cancelled, false, c, ?_, .unbegun⟩
        rw [tasks_finish running, announced_own (List.getElem?_eq_some_iff.mp running).1]
        rfl
      · obtain ⟨t', found', hailed⟩ := others true j t other found
        obtain ⟨t'', found'', hailed'⟩ := (writes_finish running .cancelled).others j t' other found'
        exact ⟨t'', found'', hailed.trans hailed'⟩
  | begins found' running =>
      cases found.symm.trans found'
      refine (writes_perform o.routine running).proceeds [] rfl (others false) ?_
      intro before record logged
      obtain ⟨rfl, rfl⟩ := none logged
      exact .refl _
  | @goes _ s x k _ found' running =>
      cases found.symm.trans found'
      exact (writes_perform (k x) running).proceeds [.awaited s x] rfl (others false)
        (goes (.inl rfl))
  | @stopped _ s x k _ found' _ _ _ _ running =>
      cases found.symm.trans found'
      have world : ((sys.begun i o false c).passedOn s x).world = sys.world := by
        unfold passedOn
        split
        · exact world_leave _ _
        · rfl
      refine (writes_perform (k .cancelled) running).proceeds [.awaited s .cancelled] world
        (fun j t other found => ?_) (goes (.inr rfl))
      obtain ⟨t', found', hailed⟩ := others false j t other found
      obtain ⟨t'', found'', hailed'⟩ := hails.passedOn (sys.begun i o false c) s x j t' found'
      exact ⟨t'', found'', hailed.trans hailed'⟩

omit [DecidableEq E.Gate] [DecidableEq E.Job] in
/-- A held effect takes place. -/
lemma proceeds_release {f : Fiber E o.Out} (found : sys.tasks[i]? = some ⟨o, f, p, c⟩) :
    ∃ es, Proceeds i o f [] sys (sys.release i) es := by
  cases f with
  | waiting s k =>
      cases s with
      | wait w =>
          simp only [release, found]
          refine ⟨[⟨i, .finish w, sys.world.1⟩], .cons (.finish w) (.refl _), ?_, ?_⟩
          · intro before record logged
            refine ⟨.ready (.wait w) (.returned (M.release i w sys.world.1).1) k, p, c, ?_, ?_⟩
            · rw [enqueue, update, List.getElem?_modify_eq, found]
              rfl
            · cases logged with
              | arrives comes =>
                  cases comes with
                  | waiting logs begun =>
                      cases begun with
                      | nothing none => exact absurd rfl (none w)
                      | held held =>
                          rw [List.append_nil, List.append_assoc]
                          exact .arrives (.ready logs (.finished held (.inl rfl)))
          · intro j t other found
            refine ⟨t, ?_, .refl t⟩
            rw [enqueue, update, List.getElem?_modify_ne _ _ other.symm, found]
      | _ => simpa only [release, found] using ⟨[], proceeds_refl found⟩
  | _ => simpa only [release, found] using ⟨[], proceeds_refl found⟩

/-- What happens next: one task goes on, or nobody does anything. -/
inductive Advances (sys : System P M.recording) (choice : Choice P) : Prop
  | acts {i : TaskId} {o : Origin P} {f : Fiber E o.Out} {p : Bool} {c : Nat} {es : List (Entry M)}
      (found : sys.tasks[i]? = some ⟨o, f, p, c⟩)
      (proceeds : Proceeds i o f (sys.hears i choice) sys (sys.apply choice) es)
      (silent : ∀ j, j ≠ i → sys.hears j choice = [])
  | rests (hails : Hails sys.tasks (sys.apply choice).tasks)
      (world : (sys.apply choice).world = sys.world) (silent : ∀ j, sys.hears j choice = [])

/-- A step of the system adds to the record what the task of that step does, and nothing else. -/
lemma advances (sys : System P M.recording) (choice : Choice P) : sys.Advances choice := by
  cases choice with
  | call c => exact .rests (hails.spawn sys.tasks (.call c)) rfl fun _ => rfl
  | cancel t =>
      exact .rests (hails.cancelWithin sys t _) (world_stops.cancelWithin sys t _) fun _ => rfl
  | turn t =>
      have silent : ∀ j, j ≠ t → sys.hears j (.turn t) = [] := fun j other =>
        hears_of_ne fun same => other (Choice.turn.inj same).symm
      cases found : sys.tasks[t]? with
      | none =>
          have same : sys.apply (.turn t) = sys := by simp only [apply, resume, found]
          refine .rests (by rw [same]; exact .refl _) (by rw [same]) fun j => ?_
          by_cases here : j = t
          · subst here
            exact hears_of_absent found _
          · exact silent j here
      | some task =>
          obtain ⟨es, proceeds⟩ := proceeds_resume found
          rw [← hears_own] at proceeds
          exact .acts found proceeds silent
  | release t =>
      cases found : sys.tasks[t]? with
      | none =>
          have same : sys.apply (.release t) = sys := by simp only [apply, release, found]
          exact .rests (by rw [same]; exact .refl _) (by rw [same]) fun _ => rfl
      | some task =>
          obtain ⟨es, proceeds⟩ := proceeds_release found
          exact .acts found proceeds fun _ _ => rfl

/-- What a record tells follows from what was done before, whatever happens next. -/
lemma chained_apply {start : M.State} (chained : Chained start sys.world.2 sys.world.1)
    (choice : Choice P) :
    Chained start (sys.apply choice).world.2 (sys.apply choice).world.1 := by
  cases sys.advances choice with
  | acts _ proceeds => exact proceeds.adds.chained chained
  | rests _ world => rwa [world]

/-- **Every record is a chain**, whatever the schedule. -/
theorem chained_follow {start : M.State} (chained : Chained start sys.world.2 sys.world.1)
    (schedule : List (Choice P)) :
    Chained start (sys.follow schedule).world.2 (sys.follow schedule).world.1 := by
  induction schedule generalizing sys with
  | nil => exact chained
  | cons choice rest ih => exact ih (chained_apply chained choice)

/-- Who is not there leaves no entries. -/
lemma entriesOf_apply_of_absent (absent : sys.tasks[i]? = none) (choice : Choice P) :
    entriesOf i (sys.apply choice).world.2 = entriesOf i sys.world.2 := by
  cases sys.advances choice with
  | acts found proceeds =>
      refine proceeds.adds.entriesOf_other ?_
      rintro rfl
      cases absent.symm.trans found
  | rests _ world => rw [world]

/-- The entries of a task go with its history, whatever happens next. -/
lemma logged_apply {f : Fiber E o.Out} (found : sys.tasks[i]? = some ⟨o, f, p, c⟩) {h : History E}
    (logged : f.Logged i o.routine h (entriesOf i sys.world.2)) (choice : Choice P) :
    ∃ f' p' c', (sys.apply choice).tasks[i]? = some ⟨o, f', p', c'⟩
      ∧ f'.Logged i o.routine (h ++ sys.hears i choice)
        (entriesOf i (sys.apply choice).world.2) := by
  have idle : (∃ t, (sys.apply choice).tasks[i]? = some t ∧ Task.Hailed ⟨o, f, p, c⟩ t) →
      entriesOf i (sys.apply choice).world.2 = entriesOf i sys.world.2 →
      sys.hears i choice = [] → ∃ f' p' c', (sys.apply choice).tasks[i]? = some ⟨o, f', p', c'⟩
        ∧ f'.Logged i o.routine (h ++ sys.hears i choice)
          (entriesOf i (sys.apply choice).world.2) := by
    rintro ⟨t, found', hailed⟩ same silent
    obtain ⟨f', p', c', rfl, logged'⟩ := logged.hailed hailed
    rw [silent, same, List.append_nil]
    exact ⟨f', p', c', found', logged'⟩
  cases sys.advances choice with
  | @acts j _ _ _ _ _ found' proceeds silent =>
      by_cases here : i = j
      · subst here
        cases found.symm.trans found'
        rw [proceeds.adds.entriesOf_own]
        exact proceeds.own h _ logged
      · exact idle (proceeds.others i _ here found) (proceeds.adds.entriesOf_other here)
          (silent i here)
  | rests hails world silent => exact idle (hails i _ found) (by rw [world]) (silent i)

/-- Who is not there has left no entries. -/
lemma entriesOf_of_absent (sound : sys.Sound) (blank : sys.world.2 = [])
    (schedule : List (Choice P)) (absent : (sys.follow schedule).tasks[i]? = none) :
    entriesOf i (sys.follow schedule).world.2 = [] := by
  induction schedule using List.reverseRecOn with
  | nil =>
      change entriesOf i sys.world.2 = []
      rw [blank]
      rfl
  | append_singleton first choice ih =>
      rw [follow_snoc] at absent ⊢
      have before : (sys.follow first).tasks[i]? = none :=
        present_follow (sound_follow sound first) [choice] absent
      rw [entriesOf_apply_of_absent before, ih before]

/-- **The entries of a task go with its history**, whatever the schedule. -/
theorem logged_follow (nobody : sys.tasks = []) (blank : sys.world.2 = [])
    {schedule : List (Choice P)} {f : Fiber E o.Out}
    (found : (sys.follow schedule).tasks[i]? = some ⟨o, f, p, c⟩) :
    f.Logged i o.routine (sys.history i schedule)
      (entriesOf i (sys.follow schedule).world.2) := by
  have sound := sound_nobody nobody
  induction schedule using List.reverseRecOn generalizing f p c with
  | nil =>
      change sys.tasks[i]? = _ at found
      rw [nobody] at found
      cases found
  | append_singleton first choice ih =>
      rw [follow_snoc] at found ⊢
      rw [history_snoc]
      cases present : (sys.follow first).tasks[i]? with
      | none =>
          obtain ⟨_, _, _, same, -⟩ := fresh_apply _ choice present found
          cases same
          rw [history_of_absent sound first present, hears_of_absent present,
            entriesOf_apply_of_absent present, entriesOf_of_absent sound blank first present]
          exact .fresh
      | some task =>
          obtain ⟨o', f', p', c'⟩ := task
          have kept : o' = o := by
            obtain ⟨_, _, _, found', -⟩ := ((sys.follow first).evolved_apply i choice).own present
              (sound_follow sound first i _ present)
            cases found.symm.trans found'
            rfl
          subst kept
          obtain ⟨_, _, _, found', logged⟩ := logged_apply present (ih present) choice
          cases found.symm.trans found'
          exact logged

/-- Where nobody starts a task of the system's own, all tasks are calls. -/
theorem calls_follow (nobody : sys.tasks = []) (blank : sys.world.2 = [])
    (idle : ∀ (c : P.Call) i h (es : List (Entry M)) left, (P.call c).Logs i h es left →
      ∀ j t, .asked (.start j) t ∉ h)
    {schedule : List (Choice P)} {task : Task P}
    (found : (sys.follow schedule).tasks[i]? = some task) : ∃ c, task.origin = .call c := by
  have sound := sound_nobody nobody
  induction schedule using List.reverseRecOn generalizing i task with
  | nil =>
      change sys.tasks[i]? = _ at found
      rw [nobody] at found
      cases found
  | append_singleton first choice ih =>
      cases present : (sys.follow first).tasks[i]? with
      | some old =>
          obtain ⟨o, f, p, c⟩ := old
          obtain ⟨_, _, _, found', -⟩ := ((sys.follow first).evolved_apply i choice).own present
            (sound_follow sound first i _ present)
          rw [follow_snoc] at found
          cases found.symm.trans found'
          obtain ⟨c, rfl⟩ := ih present
          exact ⟨c, rfl⟩
      | none =>
          rw [follow_snoc] at found
          obtain ⟨o, p, c, rfl, -, started⟩ := fresh_apply _ choice present found
          cases o with
          | call c => exact ⟨c, rfl⟩
          | job j =>
              -- whoever started it is there and has asked for it
              obtain ⟨t, rfl, asked⟩ := started j rfl
              exfalso
              cases starter : (sys.follow first).tasks[t]? with
              | none => simp only [heardIn, starter, List.not_mem_nil] at asked
              | some old =>
                  obtain ⟨_, f, p, n⟩ := old
                  obtain ⟨c, rfl⟩ := ih starter
                  obtain ⟨f', p', n', after, -⟩ :=
                    ((sys.follow first).evolved_apply t (.turn t)).own starter
                      (sound_follow sound first t _ starter)
                  rw [← follow_snoc] at after
                  have logged := logged_follow nobody blank after
                  rw [history_snoc, hears_own] at logged
                  obtain ⟨es, left, logs⟩ := logged.logs
                  exact idle c t _ es left logs j i (List.mem_append_right _ asked)

end System

end Montage
