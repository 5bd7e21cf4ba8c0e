import Mathlib.Logic.Relation
import Montage.Proofs.Routine.History

/-!
# Contracts

All routines share one record.  What a routine does to it is a matter of its own questions; what
becomes of it while the routine is suspended is a matter of the others.  A contract says what the
routine may do and what it can rely on.

* `Contract` — the terms, about some part of the record.
* `Routine.Abides` — a routine keeps to a contract and ends as agreed; `Abides.handle` composes.
* `Threads` — what a history says about the record when nobody else has a hand in it.
* **`Abides.leads`** — a routine that abides by a contract has done so wherever a history leads it.
-/

namespace Montage

variable {E : Interface} {σ α β : Type}

/-- What a routine may do to a part of the record, and what others may do to it meanwhile. -/
structure Contract (E : Interface) (σ : Type) where
  view : E.Store → σ
  /-- What others may do while the routine is suspended. -/
  rely : σ → σ → Prop
  /-- What the routine may do. -/
  guarantee : σ → σ → Prop
  /-- Which tasks the routine may start. -/
  starts : E.Job → Prop

namespace Request

/-- A reply about the record tells what is there. -/
def Tells (view : E.Store → σ) (a : σ) : (q : Request E) → q.Reply → Prop
  | .get, s => view s = a
  | _, _ => True

/-- What is there after a question. -/
def leaves (view : E.Store → σ) (a : σ) : Request E → σ
  | .set s => view s
  | _ => a

/-- What a contract allows of a question: what is written keeps the guarantee, and only certain
tasks are started. -/
def Allowed (K : Contract E σ) (a : σ) : Request E → Prop
  | .set s => K.guarantee a (K.view s)
  | .start j => K.starts j
  | _ => True

end Request

/-! ## Routines that keep to a contract -/

namespace Routine

/-- A routine keeps to a contract from what is there now, and ends as agreed. -/
inductive Abides (K : Contract E σ) (post : σ → Exit α → Prop) : Routine E α → σ → Prop
  | done {x : Exit α} {a : σ} (holds : post a x) : Abides K post (.done x) a
  | ask {q : Request E} {k : q.Reply → Routine E α} {a : σ} (allowed : q.Allowed K a)
      (rest : ∀ v, q.Tells K.view a v → Abides K post (k v) (q.leaves K.view a)) :
      Abides K post (.ask q k) a
  | await {s : Suspension E} {k : Exit s.Answer → Routine E α} {a : σ}
      (rest : ∀ b, K.rely a b → ∀ x, Abides K post (k x) b) : Abides K post (.await s k) a

/-- A routine keeps to a contract whatever is there, and may end in any way. -/
def Keeps (K : Contract E σ) (r : Routine E α) : Prop := ∀ a, r.Abides K (fun _ _ => True) a

variable {K : Contract E σ} {P : σ → Exit α → Prop} {post : σ → Exit β → Prop} {a b : σ}
  {r r' : Routine E α}

lemma Abides.handle {f : Exit α → Routine E β} (first : r.Abides K P a)
    (rest : ∀ b x, P b x → (f x).Abides K post b) : (r.handle f).Abides K post a := by
  induction first with
  | done holds => exact rest _ _ holds
  | ask allowed _ ih => exact .ask allowed ih
  | await _ ih => exact .await ih

/-- What follows a value; other ends stand. -/
lemma Abides.bind {f : α → Routine E β} (first : r.Abides K P a)
    (rest : ∀ b v, P b (.returned v) → (f v).Abides K post b)
    (fails : ∀ b e, P b (.failed e) → post b (.failed e))
    (stops : ∀ b, P b .cancelled → post b .cancelled) : (r.bind f).Abides K post a := by
  refine first.handle fun b x holds => ?_
  cases x with
  | returned v => exact rest b v holds
  | failed e => exact .done (fails b e holds)
  | cancelled => exact .done (stops b holds)

lemma keeps_done (x : Exit α) : (.done x : Routine E α).Keeps K := fun _ => .done trivial

lemma Keeps.handle {f : Exit α → Routine E β} (first : r.Keeps K) (rest : ∀ x, (f x).Keeps K) :
    (r.handle f).Keeps K :=
  fun a => (first a).handle fun b x _ => rest x b

lemma Keeps.bind {f : α → Routine E β} (first : r.Keeps K) (rest : ∀ v, (f v).Keeps K) :
    (r.bind f).Keeps K :=
  fun a => (first a).bind (fun b v _ => rest v b) (fun _ _ _ => trivial) fun _ _ => trivial

end Routine

/-! ## Histories and the record -/

/-- What is there before and after a history, nobody else having a hand in it. -/
def Threads (view : E.Store → σ) : σ → History E → σ → Prop
  | a, [], b => b = a
  | a, .asked q v :: h, b => q.Tells view a v ∧ Threads view (q.leaves view a) h b
  | a, .awaited _ _ :: h, b => Threads view a h b

lemma threads_append {view : E.Store → σ} {a b : σ} {h h' : History E} :
    Threads view a (h ++ h') b ↔ ∃ m, Threads view a h m ∧ Threads view m h' b := by
  induction h generalizing a with
  | nil => exact ⟨fun threads => ⟨a, rfl, threads⟩, fun ⟨_, same, threads⟩ => same ▸ threads⟩
  | cons e h ih =>
      cases e with
      | asked q v =>
          simp only [List.cons_append, Threads, ih]
          constructor
          · rintro ⟨tells, m, first, rest⟩
            exact ⟨m, ⟨tells, first⟩, rest⟩
          · rintro ⟨m, ⟨tells, first⟩, rest⟩
            exact ⟨tells, m, first, rest⟩
      | awaited s x => exact ih

/-- What a task was waiting for says nothing about the record. -/
lemma threads_told {view : E.Store → σ} {a b : σ} {told h : History E}
    (awaited : ∀ e ∈ told, ∃ s x, e = .awaited s x) (threads : Threads view a h b) :
    Threads view a (told ++ h) b := by
  induction told with
  | nil => exact threads
  | cons e told ih =>
      rw [List.forall_mem_cons] at awaited
      obtain ⟨⟨s, x, rfl⟩, awaited⟩ := awaited
      exact ih awaited

namespace Routine

variable {K : Contract E σ} {post : σ → Exit α → Prop} {a b : σ} {r r' : Routine E α}
  {h : History E}

lemma guarantee_leaves {q : Request E} (allowed : q.Allowed K a) :
    Relation.ReflTransGen K.guarantee a (q.leaves K.view a) := by
  cases q with
  | set s => exact .single allowed
  | act e => exact .refl
  | get => exact .refl
  | leave g => exact .refl
  | start j => exact .refl
  | cancel t => exact .refl
  | cancelling => exact .refl

/-- **A routine that abides by a contract has done so wherever a history leads it**, and goes on
abiding by it. -/
theorem Abides.leads (abides : r.Abides K post a) (still : ∀ a, K.rely a a) (leads : r.Leads h r')
    (threads : Threads K.view a h b) :
    Relation.ReflTransGen K.guarantee a b
      ∧ (∀ j i, Event.asked (.start j) i ∈ h → K.starts j) ∧ r'.Abides K post b := by
  induction leads generalizing a with
  | refl r =>
      cases threads
      exact ⟨.refl, fun j i among => absurd among List.not_mem_nil, abides⟩
  | @ask q k v h r' leads ih =>
      obtain ⟨tells, threads⟩ := threads
      cases abides with
      | ask allowed rest =>
          obtain ⟨steps, starts, left⟩ := ih (rest v tells) threads
          refine ⟨(guarantee_leaves allowed).trans steps, fun j i among => ?_, left⟩
          rcases List.mem_cons.mp among with same | among
          · cases same
            exact allowed
          · exact starts j i among
  | @await s k x h r' leads ih =>
      cases abides with
      | await rest =>
          obtain ⟨steps, starts, left⟩ := ih (rest a (still a) x) threads
          refine ⟨steps, fun j i among => ?_, left⟩
          rcases List.mem_cons.mp among with same | among
          · cases same
          · exact starts j i among

/-- How a routine ends that abides by a contract. -/
lemma Abides.post_of_plays {x : Exit α} (abides : r.Abides K post a) (still : ∀ a, K.rely a a)
    (plays : r.Plays h x) (threads : Threads K.view a h b) : post b x := by
  obtain ⟨-, -, ends⟩ := abides.leads still plays threads
  cases ends with
  | done holds => exact holds

end Routine

end Montage
