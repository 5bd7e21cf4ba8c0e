import Montage.Proofs.Export.Closure
import Montage.Proofs.Routine.Contracts
import Montage.Proofs.Routine.Notice

/-!
# What is seen of a run while it goes on

A run sets the state of the desk, and between that its stages do things to their surroundings.  Both
are seen in the order in which they happen, and so are the requests to stop that get through to the
run.  What is recorded and what the listener is told are left out.

* `Sight`, `sights` — what is seen of a history, given the state that the desk is known to be in.
* `Shown` — what a routine may have shown so far, and how it ended if it has; `shown_handle`,
  `shown_bind` — the first part and what follows.
* `Quiet` — a step that shows nothing and cannot fail.
* **`shown_atBase`**, **`shown_follow`** — a routine shows at the desk what it would show alone.
-/

namespace Montage

variable {H : Interface} {α β : Type}

/-! ## Sights -/

/-- What is seen of a run: the states it sets, what its stages do, and the requests to stop that get
through to it.  The order in which they are seen is the order in which they happen. -/
inductive Sight (H : Interface) where
  /-- It sets the state. -/
  | entered (state : ExportState)
  /-- A stage does something at once. -/
  | acted (a : H.Act)
  /-- A stage does something that takes time. -/
  | waited (w : H.Wait)
  /-- A request to stop gets through. -/
  | stopped

/-- A request to stop that gets through with a reply. -/
def Event.stopSights {E : Interface} (e : Event E) : List (Sight H) :=
  if e.stops then [.stopped] else []

/-- What is seen of an event, given what is seen of what is done. -/
def Event.sights {E : Interface} (acts : E.Act → Option H.Act) (waits : E.Wait → H.Wait) :
    Event E → List (Sight H)
  | .asked (.act a) _ => ((acts a).map Sight.acted).toList
  | .asked _ _ => []
  | .awaited (.wait w) x => .waited (waits w) :: (Event.awaited (.wait w) x).stopSights
  | .awaited s x => (Event.awaited s x).stopSights

/-- What is seen of a history away from the desk. -/
def plainSights (h : History H) : List (Sight H) := h.flatMap (Event.sights some id)

/-- What is seen of an event where notes can be made. -/
def Event.notingSights {N : Type} (e : Event (H.noting N)) : List (Sight H) :=
  e.sights (E := H.noting N) Sum.getRight? id

/-- What is seen of a history with notes. -/
def notingSights {N : Type} (h : History (H.noting N)) : List (Sight H) :=
  h.flatMap Event.notingSights

/-- A stage sets no state. -/
lemma Event.not_entered {E : Interface} {acts : E.Act → Option H.Act} {waits : E.Wait → H.Wait}
    (e : Event E) (state : ExportState) : Sight.entered state ∉ e.sights acts waits := by
  have stops : ∀ e : Event E, Sight.entered (H := H) state ∉ e.stopSights := by
    intro e
    rw [stopSights]
    split <;> simp
  cases e with
  | asked q v =>
      cases q with
      | act a => simp [sights]
      | _ => exact List.not_mem_nil
  | awaited s x =>
      cases s with
      | wait w => simp [sights, stops]
      | enter g => exact stops _
      | join j t => exact stops _
      | watch j t => exact stops _

/-- A request to stop is seen when it gets through. -/
lemma Event.stopped_mem {E : Interface} {acts : E.Act → Option H.Act} {waits : E.Wait → H.Wait}
    (e : Event E) : Sight.stopped ∈ e.sights acts waits ↔ e.stops = true := by
  have same : ∀ e : Event E, Sight.stopped (H := H) ∈ e.stopSights ↔ e.stops = true := by
    intro e
    rw [stopSights]
    split <;> simp_all
  cases e with
  | asked q v =>
      cases q with
      | act a => simp [sights, stops]
      | _ => simp [sights, stops]
  | awaited s x =>
      cases s with
      | wait w => simp [sights, same]
      | enter g => exact same _
      | join j t => exact same _
      | watch j t => exact same _

/-! ### At the desk -/

namespace Event

/-- The state that is set. -/
def sets? : Event (Office H) → Option ExportState
  | .asked (.set s) _ => some s.2.state
  | _ => none

/-- The state that the desk is known to be in afterwards. -/
def next (e : Event (Office H)) (a : Option ExportState) : Option ExportState := e.sets?.or a

/-- A reply about the desk tells the state that it is known to be in. -/
def Agrees (a : Option ExportState) : Event (Office H) → Prop
  | .asked .get s => ∀ state, a = some state → s.2.state = state
  | _ => True

/-- What is seen of an event at the desk.  To set the state that the desk is in is nothing. -/
def shows (a : Option ExportState) (e : Event (Office H)) : List (Sight H) :=
  match e.sets? with
  | some state => if a = some state then [] else [.entered state]
  | none => e.sights (E := Office H) Sum.getRight? id

end Event

/-- What is seen of a history at the desk. -/
def sights (a : Option ExportState) : History (Office H) → List (Sight H)
  | [] => []
  | e :: h => e.shows a ++ sights (e.next a) h

/-- What is known of the state of the desk before and after a history, nobody else having a hand in
it. -/
def Knows (a : Option ExportState) : History (Office H) → Option ExportState → Prop
  | [], b => b = a
  | e :: h, b => e.Agrees a ∧ Knows (e.next a) h b

variable {a b : Option ExportState} {h h' : History (Office H)}

/-- What is known goes from the first part of a history through to the second. -/
lemma knows_append : Knows a (h ++ h') b ↔ ∃ m, Knows a h m ∧ Knows m h' b := by
  induction h generalizing a with
  | nil => exact ⟨fun knows => ⟨a, rfl, knows⟩, fun ⟨_, same, knows⟩ => same ▸ knows⟩
  | cons e h ih =>
      simp only [List.cons_append, Knows, ih]
      constructor
      · rintro ⟨agrees, m, first, rest⟩
        exact ⟨m, ⟨agrees, first⟩, rest⟩
      · rintro ⟨m, ⟨agrees, first⟩, rest⟩
        exact ⟨agrees, m, first, rest⟩

/-- The sights of two parts are seen in turn, the second with what is known after the first. -/
lemma sights_append {m : Option ExportState} (knows : Knows a h m) :
    sights a (h ++ h') = sights a h ++ sights m h' := by
  induction h generalizing a with
  | nil => rw [knows]; rfl
  | cons e h ih => rw [List.cons_append, sights, ih knows.2, sights, List.append_assoc]

/-- Less may be known. -/
lemma Knows.forget (knows : Knows a h b) : ∃ m, Knows none h m := by
  induction h generalizing a with
  | nil => exact ⟨none, rfl⟩
  | cons e h ih =>
      cases sets : e.sets? with
      | none =>
          obtain ⟨m, rest⟩ := ih knows.2
          refine ⟨m, ?_, ?_⟩
          · cases e with
            | awaited s x => trivial
            | asked q v =>
                cases q with
                | get => exact fun _ same => by cases same
                | _ => trivial
          · rwa [Event.next, sets]
      | some state =>
          refine ⟨b, ?_, ?_⟩
          · cases e with
            | awaited s x => trivial
            | asked q v =>
                cases q with
                | get => cases sets
                | _ => trivial
          · have rest := knows.2
            rw [Event.next, sets] at rest ⊢
            exact rest

/-! ## What a routine may show -/

/-- What a routine may have shown at some time, what is then known of the state, and how the routine
ended if it has. -/
def Shown (r : OfficeRoutine H α) (a : Option ExportState) (l : List (Sight H))
    (b : Option ExportState) (x : Option (Exit α)) : Prop :=
  ∃ h left, r.Leads h left ∧ Knows a h b ∧ sights a h = l ∧ left.end? = x

section Showing

variable {l : List (Sight H)} {r : OfficeRoutine H α}

/-- What has ended shows nothing more. -/
lemma shown_done {y : Exit α} {x : Option (Exit α)} (shown : Shown (.done y) a l b x) :
    l = [] ∧ b = a ∧ x = some y := by
  obtain ⟨h, left, leads, knows, rfl, rfl⟩ := shown
  obtain ⟨rfl, rfl⟩ := Routine.leads_done.mp leads
  exact ⟨rfl, knows, rfl⟩

/-- A routine with something after it: it is on its way, or has ended. -/
lemma shown_handle {f : Exit α → OfficeRoutine H β} {y : Option (Exit β)}
    (shown : Shown (r.handle f) a l b y) : (y = none ∧ Shown r a l b none) ∨
      ∃ first m x rest, l = first ++ rest ∧ Shown r a first m (some x) ∧ Shown (f x) m rest b y := by
  obtain ⟨h, left, leads, knows, rfl, rfl⟩ := shown
  rcases Routine.leads_handle leads with ⟨own, goes, rfl, unended⟩ | ⟨h₁, x, h₂, rfl, plays, goes⟩
  · exact .inl ⟨Routine.end?_handle unended, h, own, goes, knows, rfl, unended⟩
  · obtain ⟨m, first, rest⟩ := knows_append.mp knows
    exact .inr ⟨_, m, x, _, sights_append first, ⟨h₁, _, plays, first, rfl, rfl⟩,
      h₂, left, goes, rest, rfl, rfl⟩

/-- A sequence of two routines: the first one is on its way, or has ended without a value, or its
value is gone on with. -/
lemma shown_bind {f : α → OfficeRoutine H β} {y : Option (Exit β)}
    (shown : Shown (r.bind f) a l b y) :
    (∃ x : Option (Exit Empty), y = x.map (Exit.map Empty.elim)
      ∧ Shown r a l b (x.map (Exit.map Empty.elim))) ∨
    ∃ v first m rest, l = first ++ rest ∧ Shown r a first m (some (.returned v))
      ∧ Shown (f v) m rest b y := by
  rcases shown_handle shown with ⟨rfl, first⟩ | ⟨first, m, x, rest, rfl, own, later⟩
  · exact .inl ⟨none, rfl, first⟩
  · cases x with
    | returned v => exact .inr ⟨v, first, m, rest, rfl, own, later⟩
    | failed e =>
        obtain ⟨rfl, rfl, rfl⟩ := shown_done later
        refine .inl ⟨some (.failed e), rfl, ?_⟩
        rwa [List.append_nil]
    | cancelled =>
        obtain ⟨rfl, rfl, rfl⟩ := shown_done later
        refine .inl ⟨some .cancelled, rfl, ?_⟩
        rwa [List.append_nil]

/-! ### Quiet steps -/

/-- A step that shows nothing, leaves the state alone and cannot fail. -/
def Quiet (r : OfficeRoutine H α) : Prop :=
  ∀ (a : ExportState) l b x, Shown r (some a) l b x →
    l = [] ∧ b = some a ∧ (x = none ∨ ∃ v, x = some (.returned v))

/-- After a quiet step. -/
lemma Quiet.shown_bind {a : ExportState} (quiet : Quiet r) {f : α → OfficeRoutine H β}
    {y : Option (Exit β)} (shown : Shown (r.bind f) (some a) l b y) :
    (l = [] ∧ b = some a ∧ y = none) ∨ ∃ v, Shown (f v) (some a) l b y := by
  rcases Montage.shown_bind shown with ⟨x, rfl, own⟩ | ⟨v, first, m, rest, rfl, own, later⟩
  · obtain ⟨rfl, rfl, ends⟩ := quiet a _ _ _ own
    refine .inl ⟨rfl, rfl, ?_⟩
    rcases x with - | x
    · rfl
    · rcases ends with ends | ⟨v, ends⟩
      · cases ends
      · cases x with
        | returned e => exact e.elim
        | failed e => cases ends
        | cancelled => cases ends
  · obtain ⟨rfl, rfl, -⟩ := quiet a _ _ _ own
    exact .inr ⟨v, later⟩

/-- Quiet steps add up. -/
lemma Quiet.bind {f : α → OfficeRoutine H β} (quiet : Quiet r) (rest : ∀ v, Quiet (f v)) :
    Quiet (r.bind f) := by
  intro a l b y shown
  rcases quiet.shown_bind shown with ⟨rfl, rfl, rfl⟩ | ⟨v, later⟩
  · exact ⟨rfl, rfl, .inl rfl⟩
  · exact rest v a l b y later

variable {a : ExportState}

/-- What a routine may have shown alone at some time, and how it ended if it is known to have. -/
def Alone {E : Interface} (seen : History E → List (Sight H)) (r : Routine E α) (l : List (Sight H))
    (x : Option (Exit α)) : Prop :=
  ∃ own left, r.Leads own left ∧ l = seen own ∧ ∀ y, x = some y → left = .done y

/-- A routine that is known to have ended. -/
lemma Alone.plays {E : Interface} {seen : History E → List (Sight H)} {r : Routine E α}
    {y : Exit α} (alone : Alone seen r l (some y)) : ∃ own, r.Plays own y ∧ l = seen own := by
  obtain ⟨own, left, leads, same, ends⟩ := alone
  obtain rfl := ends y rfl
  exact ⟨own, leads, same⟩

end Showing

/-! ## What is to be seen of a history -/

/-- A stage sets no state. -/
lemma not_entered_flatMap {E : Interface} {acts : E.Act → Option H.Act} {waits : E.Wait → H.Wait}
    (h : History E) (state : ExportState) :
    Sight.entered state ∉ h.flatMap (Event.sights acts waits) := by
  rw [List.mem_flatMap]
  rintro ⟨e, -, among⟩
  exact e.not_entered state among

/-- A request to stop is seen in a history when one gets through. -/
lemma stopped_mem_flatMap {E : Interface} {acts : E.Act → Option H.Act} {waits : E.Wait → H.Wait}
    {h : History E} : Sight.stopped ∈ h.flatMap (Event.sights acts waits) ↔ Montage.stopped h := by
  simp only [List.mem_flatMap, Event.stopped_mem, Montage.stopped]

end Montage
