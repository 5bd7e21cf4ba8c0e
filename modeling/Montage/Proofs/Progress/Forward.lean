import Montage.Proofs.Binary64.Monotone
import Montage.Proofs.Progress.Merging
import Montage.Proofs.Routine.Outcomes
import Montage.Studio.Interface

/-!
# Reports that go forward

A routine makes its reports one by one, and may be broken off after any of them.  So what is asked
of it is asked step by step: the next report is not before the last one.

* `ProgressUpdate.Precedes` — first by the phase, then by the progress within it.
* `Rising` — reports that do not go back, each from 0 to 100.
* `Routine.Forward` — **a routine goes forward from a report**, and has come so far where it has a
  value; `Forward.bind`, `Forward.note`, `Forward.relay`, … — its parts.
* **`Forward.rising`** — the reports of a history, wherever the history ends.
-/

namespace Montage

open Binary64

variable {N M α β : Type}

/-! ## The order of reports -/

/-- Phases come in this order. -/
def Phase.rank : Phase → Nat
  | classifying => 0
  | preparing => 1
  | processing => 2
  | finalizing => 3

namespace ProgressUpdate

/-- Not after another report: in an earlier phase, or in the same one and no further. -/
def Precedes (u v : ProgressUpdate) : Prop :=
  u.phase.rank < v.phase.rank ∨ u.phase = v.phase ∧ le u.progress v.progress = true

lemma Precedes.trans {u v w : ProgressUpdate} (first : u.Precedes v) (rest : v.Precedes w) :
    u.Precedes w := by
  rcases first with less | ⟨same, first⟩
  · left
    rcases rest with more | ⟨same, -⟩
    · omega
    · rwa [← same]
  · rcases rest with more | ⟨same', rest⟩
    · left
      rwa [same]
    · exact .inr ⟨same.trans same', le_trans first rest⟩

/-- A report from 0 to 100 that may come next. -/
structure Next (last u : ProgressUpdate) : Prop where
  upTo : UpTo fullUnits u.progress
  after : last.Precedes u

end ProgressUpdate

/-- Reports that do not go back, each from 0 to 100. -/
structure Rising (us : List ProgressUpdate) : Prop where
  forward : us.Pairwise ProgressUpdate.Precedes
  within : ∀ u ∈ us, le 0 u.progress = true ∧ le u.progress 100 = true

/-! ## Notes in a history -/

/-- The note that a question makes. -/
def Event.note? {E : Interface} : Event (E.noting N) → Option N
  | .asked (.act (.inl n)) _ => some n
  | _ => none

/-- The notes of a history, in order. -/
def History.notes {E : Interface} (h : History (E.noting N)) : List N := h.filterMap Event.note?

/-! ## Responses in a history -/

/-- If a response has come, it is of a kind. -/
def StudioWait.Brings (sent : Response → Prop) : (w : StudioWait) → Exit w.Ans → Prop
  | .send _, .returned (.ok r) => sent r
  | _, _ => True

/-- The same of what is heard. -/
def Event.Brings (sent : Response → Prop) : Event Studio → Prop
  | .awaited (.wait w) x => w.Brings sent x
  | _ => True

/-- The same where notes are made. -/
def Event.BringsNoting (sent : Response → Prop) : Event (Studio.noting N) → Prop
  | .awaited (.wait w) x => StudioWait.Brings sent w x
  | _ => True

/-! ## Routines -/

/-- A value, if there is one, is such. -/
abbrev Exit.Carries (S : α → Prop) (x : Exit α) : Prop := ∀ v, x = .returned v → S v

/-- Reports go forward, and the responses that come are of a kind. -/
def Regime.forward (reports : N → ProgressUpdate) (sent : Response → Prop) :
    Regime (Studio.noting N) ProgressUpdate where
  mayAsk last
    | .act (.inl n) => last.Next (reports n)
    | _ => True
  asked last
    | .act (.inl n), _, now => now = reports n
    | _, _, now => now = last
  mayAwait _ _ := True
  awaited last s x now := now = last ∧ Event.BringsNoting sent (.awaited s x)

namespace Routine

variable {reports : N → ProgressUpdate} {sent : Response → Prop} {last : ProgressUpdate}
  {Q : α → ProgressUpdate → Prop} {Q' : β → ProgressUpdate → Prop} {r : NotingRoutine N α}

/-- A routine goes forward from a report; where it has a value, it has come so far. -/
abbrev Forward (reports : N → ProgressUpdate) (sent : Response → Prop)
    (Q : α → ProgressUpdate → Prop) (last : ProgressUpdate) (r : NotingRoutine N α) : Prop :=
  r.Obeys (.forward reports sent) (fun now x => x.Carries fun v => Q v now) last

lemma forward_returned {v : α} (holds : Q v last) :
    (.done (.returned v) : NotingRoutine N α).Forward reports sent Q last :=
  .done fun _ same => by
    cases same
    exact holds

/-- Whoever ends without a value has nothing more to show. -/
lemma forward_ended {x : Exit α} (none : ∀ v, x ≠ .returned v) :
    (.done x : NotingRoutine N α).Forward reports sent Q last :=
  .done fun v same => absurd same (none v)

lemma Forward.mono {Q₂ : α → ProgressUpdate → Prop} (first : r.Forward reports sent Q last)
    (weaker : ∀ v now, Q v now → Q₂ v now) : r.Forward reports sent Q₂ last :=
  Obeys.mono first fun _ _ holds v same => weaker v _ (holds v same)

lemma Forward.bind {f : α → NotingRoutine N β} (first : r.Forward reports sent Q last)
    (rest : ∀ v now, Q v now → (f v).Forward reports sent Q' now) :
    (r.bind f).Forward reports sent Q' last :=
  Obeys.bind first (fun now v holds => rest v now (holds v rfl)) (fun _ _ _ => nofun)
    fun _ _ => nofun

lemma Forward.handle {f : Exit α → NotingRoutine N β} (first : r.Forward reports sent Q last)
    (values : ∀ v now, Q v now → (f (.returned v)).Forward reports sent Q' now)
    (fails : ∀ e now, (f (.failed e)).Forward reports sent Q' now)
    (stops : ∀ now, (f .cancelled).Forward reports sent Q' now) :
    (r.handle f).Forward reports sent Q' last := by
  refine Obeys.handle first fun now x holds => ?_
  cases x with
  | returned v => exact values v now (holds v rfl)
  | failed e => exact fails e now
  | cancelled => exact stops now

lemma Forward.note {n : N} (next : last.Next (reports n)) :
    (Routine.note n : NotingRoutine N Unit).Forward reports sent (fun _ now => now = reports n)
      last :=
  .ask next fun _ _ known => .done fun _ _ => known

lemma forward_ofFault (x : Except Fault α) :
    (ofFault x : NotingRoutine N α).Forward reports sent (fun v now => x = .ok v ∧ now = last)
      last := by
  cases x with
  | error f => exact forward_ended nofun
  | ok v => exact forward_returned ⟨rfl, rfl⟩

/-- A routine without reports stays where it is. -/
lemma Forward.lift {r : StudioRoutine α} {S : α → Prop}
    (delivers : r.Delivers (.hearing (Event.Brings sent)) (Exit.Carries S)) :
    (r.lift (N := N)).Forward reports sent (fun v now => S v ∧ now = last) last := by
  induction r with
  | done x =>
      cases delivers with
      | done holds => exact .done fun v same => ⟨holds v same, rfl⟩
  | ask q k ih =>
      obtain ⟨-, rest⟩ := obeys_ask_iff.mp delivers
      have goes : ∀ v now, now = last → ((k v).lift (N := N)).Forward reports sent
          (fun v now => S v ∧ now = last) now := by
        rintro v _ rfl
        exact ih v (rest v () trivial)
      cases q with
      | act a => exact .ask (R := .forward reports sent) (q := .act (Sum.inr a)) trivial goes
      | get => exact .ask (R := .forward reports sent) (q := .get) trivial goes
      | set s => exact .ask (R := .forward reports sent) (q := .set s) trivial goes
      | leave g => exact .ask (R := .forward reports sent) (q := .leave g) trivial goes
      | start j => exact .ask (R := .forward reports sent) (q := .start j) trivial goes
      | cancel t => exact .ask (R := .forward reports sent) (q := .cancel t) trivial goes
      | cancelling => exact .ask (R := .forward reports sent) (q := .cancelling) trivial goes
  | await s k ih =>
      obtain ⟨-, rest⟩ := obeys_await_iff.mp delivers
      have goes : ∀ x now, now = last ∧ Event.Brings sent (.awaited s x) →
          ((k x).lift (N := N)).Forward reports sent (fun v now => S v ∧ now = last) now := by
        rintro x _ ⟨rfl, brings⟩
        exact ih x (rest x () brings)
      cases s with
      | wait w => exact .await (R := .forward reports sent) (s := .wait w) trivial goes
      | enter g => exact .await (R := .forward reports sent) (s := .enter g) trivial goes
      | join j t => exact .await (R := .forward reports sent) (s := .join j t) trivial goes
      | watch j t => exact .await (R := .forward reports sent) (s := .watch j t) trivial goes

/-- Nothing is claimed of a value. -/
lemma delivers_anything {P : Event Studio → Prop} (r : StudioRoutine α) :
    r.Delivers (.hearing P) (Exit.Carries fun _ => True) := by
  induction r with
  | done x => exact .done fun _ _ => trivial
  | ask q k ih => exact .ask trivial fun v _ _ => ih v
  | await s k ih => exact .await trivial fun x _ _ => ih x

/-- What follows a value that is such. -/
lemma Delivers.carry {P : Event Studio → Prop} {S : α → Prop} {S' : β → Prop} {r : StudioRoutine α}
    {f : α → StudioRoutine β} (first : r.Delivers (.hearing P) (Exit.Carries S))
    (rest : ∀ v, S v → (f v).Delivers (.hearing P) (Exit.Carries S')) :
    (r.bind f).Delivers (.hearing P) (Exit.Carries S') :=
  Obeys.bind first (fun _ v holds => rest v (holds v rfl)) (fun _ _ _ => nofun) fun _ _ => nofun

lemma forward_lift (r : StudioRoutine α) :
    (r.lift (N := N)).Forward reports sent (fun _ now => now = last) last :=
  (Forward.lift (delivers_anything r)).mono fun _ _ => And.right

/-- Converted notes report what the converted notes say. -/
lemma Forward.relay {reports : M → ProgressUpdate} {f : N → M}
    (forward : r.Forward (fun n => reports (f n)) sent Q last) :
    (r.relay f).Forward reports sent Q last := by
  induction forward with
  | done holds => exact .done holds
  | @ask a q k may _ ih =>
      cases q with
      | act e =>
          cases e with
          | inl n =>
              exact .ask (R := .forward reports sent) (q := .act (Sum.inl (f n))) may
                fun v b asked => ih v b asked
          | inr e =>
              exact .ask (R := .forward reports sent) (q := .act (Sum.inr e)) may
                fun v b asked => ih v b asked
      | get =>
          exact .ask (R := .forward reports sent) (q := .get) may
            fun v b asked => ih v b asked
      | set s =>
          exact .ask (R := .forward reports sent) (q := .set s) may
            fun v b asked => ih v b asked
      | leave g =>
          exact .ask (R := .forward reports sent) (q := .leave g) may
            fun v b asked => ih v b asked
      | start j =>
          exact .ask (R := .forward reports sent) (q := .start j) may
            fun v b asked => ih v b asked
      | cancel t =>
          exact .ask (R := .forward reports sent) (q := .cancel t) may
            fun v b asked => ih v b asked
      | cancelling =>
          exact .ask (R := .forward reports sent) (q := .cancelling) may
            fun v b asked => ih v b asked
  | @await a s k may _ ih =>
      cases s with
      | wait w =>
          exact .await (R := .forward reports sent) (s := .wait w) may
            fun x b awaited => ih x b awaited
      | enter g =>
          exact .await (R := .forward reports sent) (s := .enter g) may
            fun x b awaited => ih x b awaited
      | join j t =>
          exact .await (R := .forward reports sent) (s := .join j t) may
            fun x b awaited => ih x b awaited
      | watch j t =>
          exact .await (R := .forward reports sent) (s := .watch j t) may
            fun x b awaited => ih x b awaited

/-- Behind a gate. -/
lemma Forward.within {g : StudioGate} (inside : r.Forward reports sent Q last) :
    (Routine.within (E := Studio.noting N) g r).Forward reports sent Q last := by
  refine .await trivial fun x now ⟨same, _⟩ => ?_
  subst same
  cases x with
  | failed e => exact forward_ended nofun
  | cancelled => exact forward_ended nofun
  | returned u =>
      refine Routine.Obeys.handle (P := fun now x => x.Carries fun v => Q v now) inside ?_
      intro b y holds
      refine .ask trivial fun _ c known => ?_
      cases known
      exact .done holds

/-- A final step without reports. -/
lemma Forward.ensuring {final : StudioRoutine Unit} (first : r.Forward reports sent Q last) :
    (r.ensuring (final.lift (N := N))).Forward reports sent Q last := by
  refine Obeys.handle first fun b y holds => (forward_lift final).bind fun _ c same => ?_
  subst same
  exact .done holds

/-! ## Reports of a history -/

/-- **Wherever a history ends, its reports have gone forward.** -/
theorem Forward.next_of_leads {left : NotingRoutine N α} {h : History (Studio.noting N)}
    (forward : r.Forward reports sent Q last) (leads : r.Leads h left)
    (brings : ∀ e ∈ h, e.BringsNoting sent) :
    (∀ n ∈ h.notes, last.Next (reports n))
      ∧ h.notes.Pairwise fun m n => (reports m).Precedes (reports n) := by
  induction leads generalizing last with
  | refl r => exact ⟨fun _ among => absurd among List.not_mem_nil, .nil⟩
  | @ask q k v h left rest ih =>
      obtain ⟨may, goes⟩ := obeys_ask_iff.mp forward
      rw [List.forall_mem_cons] at brings
      cases q with
      | act e =>
          cases e with
          | inl n =>
              obtain ⟨later, increasing⟩ := ih (goes v (reports n) rfl) brings.2
              refine ⟨fun m among => ?_, .cons (fun m among => (later m among).after) increasing⟩
              rcases List.mem_cons.mp among with rfl | among
              · exact may
              · exact ⟨(later m among).upTo, may.after.trans (later m among).after⟩
          | inr e => exact ih (goes v last rfl) brings.2
      | get => exact ih (goes v last rfl) brings.2
      | set s => exact ih (goes v last rfl) brings.2
      | leave g => exact ih (goes v last rfl) brings.2
      | start j => exact ih (goes v last rfl) brings.2
      | cancel t => exact ih (goes v last rfl) brings.2
      | cancelling => exact ih (goes v last rfl) brings.2
  | @await s k x h left rest ih =>
      obtain ⟨-, goes⟩ := obeys_await_iff.mp forward
      rw [List.forall_mem_cons] at brings
      exact ih (goes x last ⟨rfl, brings.1⟩) brings.2

end Routine

/-- The reports of a routine that goes forward. -/
lemma Routine.Forward.rising {sent : Response → Prop} {last : ProgressUpdate}
    {Q : α → ProgressUpdate → Prop} {r left : NotingRoutine ProgressUpdate α}
    {h : History (Studio.noting ProgressUpdate)} (forward : r.Forward id sent Q last)
    (leads : r.Leads h left) (brings : ∀ e ∈ h, e.BringsNoting sent) : Rising h.notes where
  forward := (forward.next_of_leads leads brings).2
  within u among :=
    have upTo := ((forward.next_of_leads leads brings).1 u among).upTo
    ⟨upTo.zero_le, upTo.le_full⟩

end Montage
