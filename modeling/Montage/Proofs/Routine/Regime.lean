import Mathlib.Tactic.Common
import Montage.Proofs.Routine.History

/-!
# Regimes

What a routine may do can depend on what it has done and heard so far.  A regime says which
questions are allowed at each point, and what is known after each reply.

* `Regime` — the rules; `Routine.Obeys` — **a routine obeys a regime and ends as agreed**.
* `Obeys.handle`, `Obeys.bind` — parts of a routine, one after the other; `Obeys.leads` — what is
  left of a routine obeys as well.
* `Routine.Maintains` — a routine obeys, and something stays known.
* `Regime.only` — the same questions at any time; `Routine.Within` — a routine asks for nothing
  else, and **`Within.leads`** — so nothing else happens.  `Regime.still` — nor is anything learnt.
* `Obeys.lift`, `Obeys.relay`, `Obeys.gatherFrom` — notes are no matter of regimes.
-/

namespace Montage

/-- Which questions are allowed, and what becomes known by the replies to them.  `Obeys` goes
through a routine once and says where it may stand afterwards; what a routine obeys, it obeys in any
system. -/
structure Regime (E : Interface) (S : Type) where
  mayAsk : S → Request E → Prop
  /-- What may be known after a reply. -/
  asked : S → (q : Request E) → q.Reply → S → Prop
  mayAwait : S → Suspension E → Prop
  awaited : S → (s : Suspension E) → Exit s.Answer → S → Prop

namespace Routine

variable {E : Interface} {S α β : Type}

/-- A routine obeys a regime from what is known, and ends as agreed. -/
inductive Obeys (R : Regime E S) (post : S → Exit α → Prop) : S → Routine E α → Prop
  | done {a : S} {x : Exit α} (holds : post a x) : Obeys R post a (.done x)
  | ask {a : S} {q : Request E} {k : q.Reply → Routine E α} (may : R.mayAsk a q)
      (rest : ∀ v b, R.asked a q v b → Obeys R post b (k v)) : Obeys R post a (.ask q k)
  | await {a : S} {s : Suspension E} {k : Exit s.Answer → Routine E α} (may : R.mayAwait a s)
      (rest : ∀ x b, R.awaited a s x b → Obeys R post b (k x)) : Obeys R post a (.await s k)

variable {R : Regime E S} {P post : S → Exit α → Prop} {Q : S → Exit β → Prop} {a b : S}
  {r r' : Routine E α}

/-- A routine that ends with more known ends with less known. -/
lemma Obeys.mono (obeys : r.Obeys R P a) (weaker : ∀ b x, P b x → post b x) :
    r.Obeys R post a := by
  induction obeys with
  | done holds => exact .done (weaker _ _ holds)
  | ask may _ ih => exact .ask may ih
  | await may _ ih => exact .await may ih

/-! ## Parts of routines -/

/-- A routine and what handles its outcome obey a regime if each does, the second from whatever the
first ends with. -/
lemma Obeys.handle {f : Exit α → Routine E β} (first : r.Obeys R P a)
    (rest : ∀ b x, P b x → (f x).Obeys R Q b) : (r.handle f).Obeys R Q a := by
  induction first with
  | done holds => exact rest _ _ holds
  | ask may _ ih => exact .ask may ih
  | await may _ ih => exact .await may ih

/-- What follows a value; other ends stand. -/
lemma Obeys.bind {f : α → Routine E β} (first : r.Obeys R P a)
    (rest : ∀ b v, P b (.returned v) → (f v).Obeys R Q b)
    (fails : ∀ b e, P b (.failed e) → Q b (.failed e))
    (stops : ∀ b, P b .cancelled → Q b .cancelled) : (r.bind f).Obeys R Q a := by
  refine first.handle fun b x holds => ?_
  cases x with
  | returned v => exact rest b v holds
  | failed e => exact .done (fails b e holds)
  | cancelled => exact .done (stops b holds)

/-- A request obeys a regime if it may be made and what follows each reply obeys. -/
lemma obeys_ask_iff {q : Request E} {k : q.Reply → Routine E α} :
    (Routine.ask q k).Obeys R post a
      ↔ R.mayAsk a q ∧ ∀ v b, R.asked a q v b → (k v).Obeys R post b := by
  constructor
  · rintro ⟨⟩
    exact ⟨by assumption, by assumption⟩
  · exact fun ⟨may, rest⟩ => .ask may rest

/-- So it is with waiting, and each outcome of the wait. -/
lemma obeys_await_iff {s : Suspension E} {k : Exit s.Answer → Routine E α} :
    (Routine.await s k).Obeys R post a
      ↔ R.mayAwait a s ∧ ∀ x b, R.awaited a s x b → (k x).Obeys R post b := by
  constructor
  · rintro ⟨⟩
    exact ⟨by assumption, by assumption⟩
  · exact fun ⟨may, rest⟩ => .await may rest

/-- Something is done behind a gate, and the place given up. -/
lemma obeys_within {g : E.Gate} {I O : S → Prop} (may : R.mayAwait a (.enter g))
    (enters : ∀ b, R.awaited a (.enter g) (.returned ()) b → r.Obeys R (fun c _ => I c) b)
    (fails : ∀ x b, x ≠ .returned () → R.awaited a (.enter g) x b → O b)
    (leaves : ∀ b, I b → R.mayAsk b (.leave g) ∧ ∀ c, R.asked b (.leave g) () c → O c) :
    (within g r).Obeys R (fun b _ => O b) a := by
  refine .await may fun x b awaited => ?_
  cases x with
  | failed e => exact .done (fails (.failed e) b nofun awaited)
  | cancelled => exact .done (fails .cancelled b nofun awaited)
  | returned u =>
      refine (enters b awaited).handle fun c x known => ?_
      obtain ⟨may, after⟩ := leaves c known
      exact .ask may fun _ d asked => .done (after d asked)

/-! ## Where histories lead -/

/-- What may be known after a history, if each of its replies is taken as the regime says. -/
inductive Follows (R : Regime E S) : S → History E → S → Prop
  | refl (a : S) : Follows R a [] a
  | asked {a b c : S} {q : Request E} {v : q.Reply} {h : History E} (here : R.asked a q v b)
      (rest : Follows R b h c) : Follows R a (.asked q v :: h) c
  | awaited {a b c : S} {s : Suspension E} {x : Exit s.Answer} {h : History E}
      (here : R.awaited a s x b) (rest : Follows R b h c) : Follows R a (.awaited s x :: h) c

/-- What is left of a routine obeys from what is known by then. -/
lemma Obeys.leads {h : History E} (obeys : r.Obeys R post a) (leads : r.Leads h r')
    (follows : Follows R a h b) : r'.Obeys R post b := by
  induction leads generalizing a with
  | refl r =>
      cases follows
      exact obeys
  | ask _ ih =>
      cases follows with
      | asked here rest => exact ih ((obeys_ask_iff.mp obeys).2 _ _ here) rest
  | await _ ih =>
      cases follows with
      | awaited here rest => exact ih ((obeys_await_iff.mp obeys).2 _ _ here) rest

/-! ## Routines that keep something known -/

/-- A routine obeys, and what is known at its start is known again at its end. -/
def Maintains (R : Regime E S) (I : S → Prop) (r : Routine E α) : Prop :=
  ∀ a, I a → r.Obeys R (fun b _ => I b) a

variable {I : S → Prop}

/-- At its end a routine maintains anything. -/
lemma maintains_done (x : Exit α) : (.done x : Routine E α).Maintains R I :=
  fun _ known => .done known

/-- Two routines maintain an invariant one after the other, however the first ends. -/
lemma Maintains.handle {f : Exit α → Routine E β} (first : r.Maintains R I)
    (rest : ∀ x, (f x).Maintains R I) : (r.handle f).Maintains R I :=
  fun a known => (first a known).handle fun b x => rest x b

/-- So they do where the second is only reached with a value. -/
lemma Maintains.bind {f : α → Routine E β} (first : r.Maintains R I)
    (rest : ∀ v, (f v).Maintains R I) : (r.bind f).Maintains R I :=
  fun a known => (first a known).bind (fun b v => rest v b) (fun _ _ => id) fun _ => id

/-- A request maintains an invariant that allows it and that no reply breaks. -/
lemma maintains_ask {q : Request E} {k : q.Reply → Routine E α} (may : ∀ a, I a → R.mayAsk a q)
    (keeps : ∀ a v b, I a → R.asked a q v b → I b) (rest : ∀ v, (k v).Maintains R I) :
    (.ask q k : Routine E α).Maintains R I :=
  fun a known => .ask (may a known) fun v b asked => rest v b (keeps a v b known asked)

/-- So does a wait. -/
lemma maintains_await {s : Suspension E} {k : Exit s.Answer → Routine E α}
    (may : ∀ a, I a → R.mayAwait a s) (keeps : ∀ a x b, I a → R.awaited a s x b → I b)
    (rest : ∀ x, (k x).Maintains R I) : (.await s k : Routine E α).Maintains R I :=
  fun a known => .await (may a known) fun x b awaited => rest x b (keeps a x b known awaited)

end Routine

/-! ## Regimes that remember nothing -/

/-- Certain questions and suspensions, and no others. -/
def Regime.only {E : Interface} (asks : Request E → Prop) (awaits : Suspension E → Prop) :
    Regime E Unit where
  mayAsk _ q := asks q
  asked _ _ _ _ := True
  mayAwait _ s := awaits s
  awaited _ _ _ _ := True

/-- The same questions whatever is known, and nothing is learnt. -/
def Regime.still {E : Interface} (S : Type) (asks : Request E → Prop)
    (awaits : Suspension E → Prop) : Regime E S where
  mayAsk _ q := asks q
  asked a _ _ b := b = a
  mayAwait _ s := awaits s
  awaited a _ _ b := b = a

/-- A certain question, or a certain suspension, with its reply. -/
def Event.Within {E : Interface} (asks : Request E → Prop) (awaits : Suspension E → Prop) :
    Event E → Prop
  | .asked q _ => asks q
  | .awaited s _ => awaits s

namespace Routine

variable {E : Interface} {α : Type} {asks : Request E → Prop} {awaits : Suspension E → Prop}
  {r r' : Routine E α} {h : History E}

/-- A routine asks for nothing else, in whatever order and however often it asks. -/
abbrev Within (asks : Request E → Prop) (awaits : Suspension E → Prop) (r : Routine E α) : Prop :=
  r.Maintains (.only asks awaits) fun _ => True

/-- **A history has only such questions and suspensions in it**, and so has what is left. -/
theorem Within.leads (within : r.Within asks awaits) (leads : r.Leads h r') :
    (∀ e ∈ h, e.Within asks awaits) ∧ r'.Within asks awaits := by
  induction leads with
  | refl r => exact ⟨List.forall_mem_nil _, within⟩
  | ask _ ih =>
      obtain ⟨may, rest⟩ := obeys_ask_iff.mp (within () trivial)
      obtain ⟨later, left⟩ := ih fun _ _ => rest _ _ trivial
      exact ⟨List.forall_mem_cons.mpr ⟨may, later⟩, left⟩
  | await _ ih =>
      obtain ⟨may, rest⟩ := obeys_await_iff.mp (within () trivial)
      obtain ⟨later, left⟩ := ih fun _ _ => rest _ _ trivial
      exact ⟨List.forall_mem_cons.mpr ⟨may, later⟩, left⟩

/-- A routine stays within what it may do if its first request and what follows do. -/
lemma within_ask {q : Request E} {k : q.Reply → Routine E α} (may : asks q)
    (rest : ∀ v, (k v).Within asks awaits) : (Routine.ask q k).Within asks awaits :=
  maintains_ask (fun _ _ => may) (fun _ _ _ _ _ => trivial) rest

/-- So it is with a wait. -/
lemma within_await {s : Suspension E} {k : Exit s.Answer → Routine E α} (may : awaits s)
    (rest : ∀ x, (k x).Within asks awaits) : (Routine.await s k).Within asks awaits :=
  maintains_await (fun _ _ => may) (fun _ _ _ _ _ => trivial) rest

/-- More may be asked for. -/
lemma Within.mono {asks' : Request E → Prop} {awaits' : Suspension E → Prop}
    (within : r.Within asks awaits) (more : ∀ q, asks q → asks' q)
    (more' : ∀ s, awaits s → awaits' s) : r.Within asks' awaits' := by
  induction r with
  | done x => exact maintains_done x
  | ask q k ih =>
      obtain ⟨may, rest⟩ := obeys_ask_iff.mp (within () trivial)
      exact within_ask (more q may) fun v => ih v fun _ _ => rest v () trivial
  | await s k ih =>
      obtain ⟨may, rest⟩ := obeys_await_iff.mp (within () trivial)
      exact within_await (more' s may) fun x => ih x fun _ _ => rest x () trivial

/-- Where everything is allowed nothing is amiss. -/
lemma within_anything (r : Routine E α) : r.Within (fun _ => True) fun _ => True := by
  induction r with
  | done x => exact maintains_done x
  | ask q k ih => exact within_ask trivial ih
  | await s k ih => exact within_await trivial ih

/-- A routine that stays within what it may do obeys a regime that never learns anything. -/
lemma Within.still {S : Type} (within : r.Within asks awaits) (a : S) :
    r.Obeys (.still S asks awaits) (fun b _ => b = a) a := by
  induction r with
  | done x => exact .done rfl
  | ask q k ih =>
      obtain ⟨may, rest⟩ := obeys_ask_iff.mp (within () trivial)
      refine .ask may ?_
      rintro v _ rfl
      exact ih v fun _ _ => rest v () trivial
  | await s k ih =>
      obtain ⟨may, rest⟩ := obeys_await_iff.mp (within () trivial)
      refine .await may ?_
      rintro x _ rfl
      exact ih x fun _ _ => rest x () trivial

end Routine

/-! ## Notes -/

section Notes

variable {E : Interface} {S N N' α : Type}

/-- The same regime where notes may be made at any time. -/
def Regime.noting (N : Type) (R : Regime E S) : Regime (E.noting N) S where
  mayAsk a
    | .act (.inl _) => True
    | .act (.inr e) => R.mayAsk a (.act e)
    | .get => R.mayAsk a .get
    | .set s => R.mayAsk a (.set s)
    | .leave g => R.mayAsk a (.leave g)
    | .start j => R.mayAsk a (.start j)
    | .cancel t => R.mayAsk a (.cancel t)
    | .cancelling => R.mayAsk a .cancelling
  asked a
    | .act (.inl _), _, b => b = a
    | .act (.inr e), v, b => R.asked a (.act e) v b
    | .get, v, b => R.asked a .get v b
    | .set s, v, b => R.asked a (.set s) v b
    | .leave g, v, b => R.asked a (.leave g) v b
    | .start j, v, b => R.asked a (.start j) v b
    | .cancel t, v, b => R.asked a (.cancel t) v b
    | .cancelling, v, b => R.asked a .cancelling v b
  mayAwait a
    | .wait w => R.mayAwait a (.wait w)
    | .enter g => R.mayAwait a (.enter g)
    | .join j t => R.mayAwait a (.join j t)
    | .watch j t => R.mayAwait a (.watch j t)
  awaited a
    | .wait w, x, b => R.awaited a (.wait w) x b
    | .enter g, x, b => R.awaited a (.enter g) x b
    | .join j t, x, b => R.awaited a (.join j t) x b
    | .watch j t, x, b => R.awaited a (.watch j t) x b

namespace Routine

variable {R : Regime E S} {post : S → Exit α → Prop} {I : S → Prop} {a : S}

/-- A note changes nothing of what is known. -/
lemma obeys_note (n : N) :
    (note n : Routine (E.noting N) Unit).Obeys (R.noting N) (fun b _ => b = a) a :=
  .ask trivial fun _ _ same => .done same

/-- A note maintains any invariant. -/
lemma maintains_note (n : N) : (note n : Routine (E.noting N) Unit).Maintains (R.noting N) I :=
  fun _ known => (obeys_note n).mono fun _ _ same => same ▸ known

/-- A routine obeys a regime also where notes can be made. -/
lemma Obeys.lift {r : Routine E α} (obeys : r.Obeys R post a) (N : Type) :
    (r.lift : Routine (E.noting N) α).Obeys (R.noting N) post a := by
  induction obeys with
  | done holds => exact .done holds
  | @ask a q k may _ ih =>
      cases q with
      | act e => exact .ask (R := R.noting N) (q := .act (Sum.inr e)) may ih
      | get => exact .ask (R := R.noting N) (q := .get) may ih
      | set s => exact .ask (R := R.noting N) (q := .set s) may ih
      | leave g => exact .ask (R := R.noting N) (q := .leave g) may ih
      | start j => exact .ask (R := R.noting N) (q := .start j) may ih
      | cancel t => exact .ask (R := R.noting N) (q := .cancel t) may ih
      | cancelling => exact .ask (R := R.noting N) (q := .cancelling) may ih
  | @await a s k may _ ih =>
      cases s with
      | wait w => exact .await (R := R.noting N) (s := .wait w) may ih
      | enter g => exact .await (R := R.noting N) (s := .enter g) may ih
      | join j t => exact .await (R := R.noting N) (s := .join j t) may ih
      | watch j t => exact .await (R := R.noting N) (s := .watch j t) may ih

/-- It does not matter for a regime what is noted. -/
lemma Obeys.relay {r : Routine (E.noting N) α} (obeys : r.Obeys (R.noting N) post a)
    (f : N → N') : (r.relay f).Obeys (R.noting N') post a := by
  induction obeys with
  | done holds => exact .done holds
  | @ask a q k may _ ih =>
      cases q with
      | act e =>
          cases e with
          | inl n => exact .ask (R := R.noting N') (q := .act (Sum.inl (f n))) trivial ih
          | inr e => exact .ask (R := R.noting N') (q := .act (Sum.inr e)) may ih
      | get => exact .ask (R := R.noting N') (q := .get) may ih
      | set s => exact .ask (R := R.noting N') (q := .set s) may ih
      | leave g => exact .ask (R := R.noting N') (q := .leave g) may ih
      | start j => exact .ask (R := R.noting N') (q := .start j) may ih
      | cancel t => exact .ask (R := R.noting N') (q := .cancel t) may ih
      | cancelling => exact .ask (R := R.noting N') (q := .cancelling) may ih
  | @await a s k may _ ih =>
      cases s with
      | wait w => exact .await (R := R.noting N') (s := .wait w) may ih
      | enter g => exact .await (R := R.noting N') (s := .enter g) may ih
      | join j t => exact .await (R := R.noting N') (s := .join j t) may ih
      | watch j t => exact .await (R := R.noting N') (s := .watch j t) may ih

/-- A routine whose notes are collected always ends with a value. -/
lemma Obeys.gatherFrom {r : Routine (E.noting N) α} (obeys : r.Obeys (R.noting N) post a)
    (notes : List N) : (r.gatherFrom notes).Obeys R
      (fun b x => ∃ ns y, x = .returned (ns, y) ∧ post b y) a := by
  induction obeys generalizing notes with
  | done holds => exact .done ⟨_, _, rfl, holds⟩
  | @ask a q k may _ ih =>
      cases q with
      | act e =>
          cases e with
          | inl n => exact ih () a rfl (n :: notes)
          | inr e => exact .ask (R := R) (q := .act e) may fun v b asked => ih v b asked notes
      | get => exact .ask (R := R) (q := .get) may fun v b asked => ih v b asked notes
      | set s => exact .ask (R := R) (q := .set s) may fun v b asked => ih v b asked notes
      | leave g => exact .ask (R := R) (q := .leave g) may fun v b asked => ih v b asked notes
      | start j => exact .ask (R := R) (q := .start j) may fun v b asked => ih v b asked notes
      | cancel t => exact .ask (R := R) (q := .cancel t) may fun v b asked => ih v b asked notes
      | cancelling => exact .ask (R := R) (q := .cancelling) may fun v b asked => ih v b asked notes
  | @await a s k may _ ih =>
      cases s with
      | wait w => exact .await (R := R) (s := .wait w) may fun x b awaited => ih x b awaited notes
      | enter g => exact .await (R := R) (s := .enter g) may fun x b awaited => ih x b awaited notes
      | join j t => exact .await (R := R) (s := .join j t) may fun x b awaited => ih x b awaited notes
      | watch j t => exact .await (R := R) (s := .watch j t) may fun x b awaited => ih x b awaited notes

/-- What follows a question that has nothing to do with notes asks for nothing else either. -/
lemma within_question {asks : Request E → Prop} {awaits : Suspension E → Prop} {q : Request E}
    {k : q.Reply → Routine (E.noting N) α}
    (within : (((Interpretation.lift N E).onRequest q).bind k).Maintains
      ((Regime.only asks awaits).noting N) fun _ => True) (v : q.Reply) :
    (k v).Maintains ((Regime.only asks awaits).noting N) fun _ => True := by
  intro a _
  cases q <;> exact (obeys_ask_iff.mp (within a trivial)).2 v a trivial

/-- A suspension that has nothing to do with notes is one of those that may be awaited. -/
lemma within_suspension {asks : Request E → Prop} {awaits : Suspension E → Prop}
    {s : Suspension E} {k : Exit s.Answer → Routine (E.noting N) α}
    (within : (((Interpretation.lift N E).onSuspension s).handle k).Maintains
      ((Regime.only asks awaits).noting N) fun _ => True) :
    awaits s ∧ ∀ x, (k x).Maintains ((Regime.only asks awaits).noting N) fun _ => True := by
  cases s <;> exact ⟨(obeys_await_iff.mp (within () trivial)).1,
    fun x a _ => (obeys_await_iff.mp (within a trivial)).2 x a trivial⟩

/-- Nor where notes may be made besides. -/
lemma maintains_anything (r : Routine (E.noting N) α) :
    r.Maintains ((Regime.only (fun _ => True) fun _ => True).noting N) fun _ => True := by
  induction r with
  | done x => exact maintains_done x
  | ask q k ih =>
      refine maintains_ask (fun _ _ => ?_) (fun _ _ _ _ _ => trivial) ih
      cases q with
      | act a => cases a <;> trivial
      | _ => trivial
  | await s k ih =>
      refine maintains_await (fun _ _ => ?_) (fun _ _ _ _ _ => trivial) ih
      cases s <;> trivial

/-- A routine that maintains an invariant does so where notes can be made. -/
lemma Maintains.lift {r : Routine E α} (maintains : r.Maintains R I) (N : Type) :
    (r.lift : Routine (E.noting N) α).Maintains (R.noting N) I :=
  fun a known => (maintains a known).lift N

/-- It does not matter for an invariant what is noted. -/
lemma Maintains.relay {r : Routine (E.noting N) α} (maintains : r.Maintains (R.noting N) I)
    (f : N → N') : (r.relay f).Maintains (R.noting N') I :=
  fun a known => (maintains a known).relay f

end Routine

end Notes

end Montage
