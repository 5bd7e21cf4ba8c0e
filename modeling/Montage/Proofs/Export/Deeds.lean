import Montage.Proofs.Export.Closure

/-!
# Deeds of a run

Seen from outside the desk a run does two things: it records metrics, and it does to its
surroundings what the classifier and a backend do to theirs.  These are its deeds; what it tells its
listener and what it keeps at the desk are not.

* `Deed`, `deeds` — what is seen of a history.
* `Surely` — a routine that has a value and the same deeds whatever it hears.
* `plays_atBase`, `plays_follow` — **a routine does at the desk what it would do alone**.
-/

namespace Montage

variable {H : Interface} {α β : Type}

/-! ## What is seen -/

/-- A record, or something done to the surroundings. -/
abbrev Deed (H : Interface) := (Metric ⊕ H.Act) ⊕ H.Wait

/-- What is seen of what a desk does. -/
def Office.sees (H : Interface) : (Office H).Act → Option (Metric ⊕ H.Act)
  | .inl (.event _) => none
  | .inl (.metric m) => some (.inl m)
  | .inr a => some (.inr a)

/-- What is seen of a routine with notes. -/
def noting.sees (H : Interface) (N : Type) : (H.noting N).Act → Option (Metric ⊕ H.Act)
  | .inl _ => none
  | .inr a => some (.inr a)

/-- The deeds of a history at the desk. -/
def deeds (h : History (Office H)) : List (Deed H) :=
  effects (E := Office H) (Office.sees H) h

/-- The deeds of a history with notes. -/
def notingDeeds {N : Type} (h : History (H.noting N)) : List (Deed H) :=
  effects (E := H.noting N) (noting.sees H N) h

/-- The deeds of a history away from the desk. -/
def plainDeeds (h : History H) : List (Deed H) := effects (fun a => some (.inr a)) h

@[simp] lemma deeds_nil : deeds ([] : History (Office H)) = [] := rfl

@[simp] lemma deeds_append (h h' : History (Office H)) : deeds (h ++ h') = deeds h ++ deeds h' :=
  effects_append (Office.sees H) h h'

/-- The deeds of a history with notes are those of its events. -/
lemma notingDeeds_cons {N : Type} (e : Event (H.noting N)) (h : History (H.noting N)) :
    notingDeeds (e :: h) = notingDeeds [e] ++ notingDeeds h :=
  effects_append (noting.sees H N) [e] h

/-- So are those of a history without. -/
lemma plainDeeds_cons (e : Event H) (h : History H) :
    plainDeeds (e :: h) = plainDeeds [e] ++ plainDeeds h :=
  effects_append _ [e] h

/-! ## Steps that cannot fail -/

/-- Whatever it hears, a routine comes to a value and does this meanwhile. -/
def Surely (r : OfficeRoutine H α) (ds : List (Deed H)) : Prop :=
  ∀ h x, r.Plays h x → ∃ a, x = .returned a ∧ deeds h = ds

/-- To return a value does nothing. -/
lemma surely_done (a : α) : Surely (H := H) (.done (.returned a)) [] := by
  intro h x plays
  obtain ⟨rfl, rfl⟩ := Routine.plays_done.mp plays
  exact ⟨a, rfl, rfl⟩

/-- A single question. -/
lemma surely_ask (q : Request (Office H)) {ds : List (Deed H)}
    (same : ∀ v, deeds [.asked q v] = ds) : Surely (.ask q fun v => .done (.returned v)) ds := by
  intro h x plays
  obtain ⟨v, h', rfl, later⟩ := Routine.plays_ask.mp plays
  obtain ⟨rfl, rfl⟩ := Routine.plays_done.mp later
  exact ⟨v, rfl, same v⟩

/-- What two routines surely do one after the other. -/
lemma Surely.bind {r : OfficeRoutine H α} {f : α → OfficeRoutine H β} {ds ds' : List (Deed H)}
    (first : Surely r ds) (rest : ∀ a, Surely (f a) ds') : Surely (r.bind f) (ds ++ ds') := by
  intro h y plays
  obtain ⟨a, h₁, h₂, rfl, done, later⟩ := Routine.plays_bind_of_returns first plays
  obtain ⟨b, rfl, done'⟩ := rest a h₂ y later
  exact ⟨b, rfl, by rw [deeds_append, done, done']⟩

/-- What cannot fail is gone on with. -/
lemma Surely.plays_bind {r : OfficeRoutine H α} {f : α → OfficeRoutine H β} {ds : List (Deed H)}
    (first : Surely r ds) {h : History (Office H)} {y : Exit β} (plays : (r.bind f).Plays h y) :
    ∃ a rest, deeds h = ds ++ deeds rest ∧ (f a).Plays rest y := by
  obtain ⟨a, h₁, h₂, rfl, done, later⟩ := Routine.plays_bind_of_returns first plays
  exact ⟨a, h₂, by rw [deeds_append, done], later⟩

/-! ### Steps at the desk -/

/-- To change the desk is no deed. -/
lemma surely_modify (f : Desk → Desk) : Surely (H := H) (Desk.modify f) [] :=
  (surely_ask .get fun _ => rfl).bind fun s => surely_ask (.set (s.1, f s.2)) fun _ => rfl

/-- Neither is setting its state. -/
lemma surely_setState (state : ExportState) : Surely (H := H) (Desk.setState state) [] :=
  surely_modify fun d => { d with state }

/-- A record is surely made. -/
lemma surely_record (m : Metric) : Surely (H := H) (Desk.record m) [.inl (.inl m)] :=
  surely_ask (.act (.inl (.metric m))) fun _ => rfl

/-- To do nothing goes from single questions to sequences of them. -/
lemma closed_surely : Office.Closed fun _ (r : OfficeRoutine H _) => Surely r [] where
  value := surely_done
  bind := Surely.bind
  look := surely_ask .get fun _ => rfl
  stop t := surely_ask (.cancel t) fun _ => rfl

/-- What the listener is told is no deed, and neither is what the listener asks for. -/
lemma surely_emit (t : Tracker) (e : ProgressEvent) : Surely (H := H) (Run.emit t e) [] :=
  closed_surely.emit (surely_ask (.act (.inl (.event e))) fun _ => rfl) t

/-- The records of the end of an export. -/
def endRecords (backend : Option BackendKind) (outcome : String) (reason : Option String) :
    List (Deed H) :=
  [.inl (.inl (.exportEnd (backend.map BackendKind.name) outcome reason)),
    .inl (.inl (.exportDuration (backend.map BackendKind.name)))]

/-- At its conclusion a run records what has come of it, and does nothing else. -/
lemma surely_conclude (state : ExportState) (backend : Option BackendKind) (outcome : String)
    (reason : Option String) :
    Surely (H := H) (Run.conclude state backend outcome reason)
      (endRecords backend outcome reason) := by
  let name := backend.map BackendKind.name
  have surely := (surely_setState (H := H) state).bind fun _ =>
    (surely_record (.exportEnd name outcome reason)).bind fun _ =>
      surely_record (.exportDuration name)
  exact surely

/-! ## Routines that know nothing of the desk -/

/-- A question of a stage is one deed of the run. -/
lemma plays_onRequest {q : Request H} {h : History (Office H)} {x : Exit q.Reply}
    (plays : ((Office.base H).onRequest q).Plays h x) :
    ∃ v, x = .returned v ∧ deeds h = plainDeeds [.asked q v] := by
  cases q with
  | act a => exact surely_ask (.act (.inr a)) (fun _ => rfl) h x plays
  | get =>
      have surely : Surely ((Office.base H).onRequest .get) [] :=
        (surely_ask .get fun _ => rfl).bind fun _ => surely_done _
      exact surely h x plays
  | set s =>
      have surely : Surely ((Office.base H).onRequest (.set s)) [] :=
        (surely_ask .get fun _ => rfl).bind fun old => surely_ask (.set (s, old.2)) fun _ => rfl
      exact surely h x plays
  | leave g => exact surely_ask (.leave g) (fun _ => rfl) h x plays
  | start j => exact surely_ask (.start (.inr j)) (fun _ => rfl) h x plays
  | cancel t => exact surely_ask (.cancel t) (fun _ => rfl) h x plays
  | cancelling => exact surely_ask .cancelling (fun _ => rfl) h x plays

/-- So is a wait of a stage. -/
lemma plays_onSuspension {s : Suspension H} {h : History (Office H)} {x : Exit s.Answer}
    (plays : ((Office.base H).onSuspension s).Plays h x) :
    deeds h = plainDeeds [.awaited s x] := by
  cases s with
  | wait w =>
      obtain ⟨y, rest, rfl, later⟩ := Routine.plays_await.mp plays
      obtain ⟨rfl, rfl⟩ := Routine.plays_done.mp later
      rfl
  | enter g =>
      obtain ⟨y, rest, rfl, later⟩ := Routine.plays_await.mp plays
      obtain ⟨rfl, rfl⟩ := Routine.plays_done.mp later
      rfl
  | join j t =>
      obtain ⟨y, rest, rfl, later⟩ := Routine.plays_await.mp plays
      obtain ⟨rfl, rfl⟩ := Routine.plays_done.mp later
      rfl
  | watch j t =>
      obtain ⟨y, rest, rfl, later⟩ := Routine.plays_await.mp plays
      obtain ⟨rfl, rfl⟩ := Routine.plays_done.mp later
      rfl

/-- A question of a routine that knows nothing of the desk, and what follows. -/
lemma plays_question {q : Request H} {f : q.Reply → OfficeRoutine H α} {h : History (Office H)}
    {x : Exit α} (plays : (((Office.base H).onRequest q).bind f).Plays h x) :
    ∃ v rest, deeds h = plainDeeds [.asked q v] ++ deeds rest ∧ (f v).Plays rest x := by
  obtain ⟨v, h₁, h₂, rfl, seen, later⟩ :=
    Routine.plays_bind_of_returns (fun _ _ asks => plays_onRequest asks) plays
  exact ⟨v, h₂, by rw [deeds_append, seen], later⟩

/-- A suspension of a routine that knows nothing of the desk, and what follows. -/
lemma plays_suspension {s : Suspension H} {f : Exit s.Answer → OfficeRoutine H α}
    {h : History (Office H)} {x : Exit α}
    (plays : (((Office.base H).onSuspension s).handle f).Plays h x) :
    ∃ y rest, deeds h = plainDeeds [.awaited s y] ++ deeds rest ∧ (f y).Plays rest x := by
  obtain ⟨h₁, y, h₂, rfl, waits, later⟩ := Routine.plays_handle.mp plays
  exact ⟨y, h₂, by rw [deeds_append, plays_onSuspension waits], later⟩

/-- **A routine does at the desk what it would do alone.** -/
lemma plays_atBase {r : Routine H α} {h : History (Office H)} {x : Exit α}
    (plays : (atBase r).Plays h x) : ∃ own, r.Plays own x ∧ deeds h = plainDeeds own := by
  induction r generalizing h x with
  | done y =>
      obtain ⟨rfl, rfl⟩ := Routine.plays_done.mp plays
      exact ⟨[], .refl _, rfl⟩
  | ask q k ih =>
      obtain ⟨v, rest, seen, later⟩ := plays_question plays
      obtain ⟨own, alone, same⟩ := ih v later
      exact ⟨_, .ask alone, by rw [seen, same, ← plainDeeds_cons]⟩
  | await s k ih =>
      obtain ⟨y, rest, seen, later⟩ := plays_suspension plays
      obtain ⟨own, alone, same⟩ := ih y later
      exact ⟨_, .await alone, by rw [seen, same, ← plainDeeds_cons]⟩

/-- A question is seen where notes may be made as it is seen elsewhere. -/
lemma notingDeeds_noted {N : Type} (e : Event H) (h : History (H.noting N)) :
    notingDeeds (e.noted N :: h) = plainDeeds [e] ++ notingDeeds h := by
  rw [notingDeeds_cons]
  cases e with
  | asked q v => cases q <;> rfl
  | awaited s x => cases s <;> rfl

/-- **A routine with notes does at the desk what it would do alone**, whatever its notes lead to. -/
lemma plays_follow {r : Routine (H.noting ProgressUpdate) α} {t : Tracker}
    {h : History (Office H)} {x : Exit (α × Tracker)} (plays : (Run.follow t r).Plays h x) :
    ∃ own, r.Plays own (x.map Prod.fst) ∧ deeds h = notingDeeds own := by
  induction r using Routine.noting_induction generalizing t h x with
  | done y =>
      obtain ⟨rfl, rfl⟩ := Routine.plays_done.mp plays
      refine ⟨[], ?_, rfl⟩
      cases y <;> exact .refl _
  | note u k ih =>
      obtain ⟨t, rest, seen, later⟩ := (surely_emit t (t.report u)).plays_bind plays
      obtain ⟨own, alone, same⟩ := ih () later
      exact ⟨_, .ask alone, by rw [seen, same]; rfl⟩
  | question q k ih =>
      rw [Run.follow_question] at plays
      obtain ⟨v, rest, seen, later⟩ := plays_question plays
      obtain ⟨own, alone, same⟩ := ih v later
      exact ⟨_, Routine.leads_question alone, by rw [seen, same, notingDeeds_noted]⟩
  | suspension s k ih =>
      rw [Run.follow_suspension] at plays
      obtain ⟨y, rest, seen, later⟩ := plays_suspension plays
      obtain ⟨own, alone, same⟩ := ih y later
      exact ⟨_, Routine.leads_suspension alone, by rw [seen, same, notingDeeds_noted]⟩

end Montage
