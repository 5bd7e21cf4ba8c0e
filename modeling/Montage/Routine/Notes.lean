import Montage.Routine.Basic

/-!
# Routines that report

A routine may tell its caller how far it is.  Such a note is an effect with no reply, so a caller
can listen, convert it, or ignore it, and **no listener changes what the routine does**.

* `Interface.noting` — an interface with notes of a given kind besides.
* `Routine.lift` — a routine that happens to make no notes.
* `Routine.relay` — the same routine, its notes converted.
* `Routine.gather` — the same routine, its notes collected.
-/

namespace Montage

/-- An interface with notes besides.  A note is an effect without an answer that is of interest, so
it neither fails nor suspends. -/
def Interface.noting (N : Type) (E : Interface) : Interface :=
  { E with
    Act := N ⊕ E.Act
    Val := Sum.elim (fun _ => Unit) E.Val }

namespace Routine

variable {E : Interface} {N M α : Type}

/-- Makes a note. -/
def note (n : N) : Routine (E.noting N) Unit := ask (.act (.inl n)) fun _ => done (.returned ())

/-- The questions that have nothing to do with notes. -/
def Interpretation.lift (N : Type) (E : Interface) : Interpretation E (E.noting N) where
  onRequest
    | .act a => act (E := E.noting N) (.inr a)
    | .get => get (E := E.noting N)
    | .set s => set (E := E.noting N) s
    | .leave g => ask (E := E.noting N) (.leave g) fun u => done (.returned u)
    | .start j => start (E := E.noting N) j
    | .cancel t => cancelTask (E := E.noting N) t
    | .cancelling => cancelling (E := E.noting N)
  onSuspension
    | .wait w => wait (E := E.noting N) w
    | .enter g => await (E := E.noting N) (.enter g) done
    | .join j t => join (E := E.noting N) j t
    | .watch j t => watch (E := E.noting N) j t

/-- A routine without notes where notes could be made; it makes none. -/
def lift (r : Routine E α) : Routine (E.noting N) α := r.interpret (.lift N E)

instance : MonadLift (Routine E) (Routine (E.noting N)) := ⟨lift⟩

/-- Every question as it is, notes converted. -/
def Interpretation.relay (E : Interface) (f : N → M) :
    Interpretation (E.noting N) (E.noting M) where
  onRequest
    | .act (.inl n) => note (f n)
    | .act (.inr a) => (Interpretation.lift M E).onRequest (.act a)
    | .get => (Interpretation.lift M E).onRequest .get
    | .set s => (Interpretation.lift M E).onRequest (.set s)
    | .leave g => (Interpretation.lift M E).onRequest (.leave g)
    | .start j => (Interpretation.lift M E).onRequest (.start j)
    | .cancel t => (Interpretation.lift M E).onRequest (.cancel t)
    | .cancelling => (Interpretation.lift M E).onRequest .cancelling
  onSuspension
    | .wait w => (Interpretation.lift M E).onSuspension (.wait w)
    | .enter g => (Interpretation.lift M E).onSuspension (.enter g)
    | .join j t => (Interpretation.lift M E).onSuspension (.join j t)
    | .watch j t => (Interpretation.lift M E).onSuspension (.watch j t)

/-- The same routine, its notes converted; what one part of the program notes as a number is told by
another as a report. -/
def relay (f : N → M) (r : Routine (E.noting N) α) : Routine (E.noting M) α :=
  r.interpret (.relay E f)

/-- Collects notes, the latest first; answers with all of them in order, and with how the routine
ended. -/
def gatherFrom (notes : List N) : Routine (E.noting N) α → Routine E (List N × Exit α)
  | .done x => .done (.returned (notes.reverse, x))
  | .ask (.act (.inl n)) k => gatherFrom (n :: notes) (k ())
  | .ask (.act (.inr a)) k => .ask (.act a) fun v => gatherFrom notes (k v)
  | .ask .get k => .ask .get fun v => gatherFrom notes (k v)
  | .ask (.set s) k => .ask (.set s) fun v => gatherFrom notes (k v)
  | .ask (.leave g) k => .ask (.leave g) fun v => gatherFrom notes (k v)
  | .ask (.start j) k => .ask (.start j) fun v => gatherFrom notes (k v)
  | .ask (.cancel t) k => .ask (.cancel t) fun v => gatherFrom notes (k v)
  | .ask .cancelling k => .ask .cancelling fun v => gatherFrom notes (k v)
  | .await (.wait w) k => .await (.wait w) fun x => gatherFrom notes (k x)
  | .await (.enter g) k => .await (.enter g) fun x => gatherFrom notes (k x)
  | .await (.join j t) k => .await (.join j t) fun x => gatherFrom notes (k x)
  | .await (.watch j t) k => .await (.watch j t) fun x => gatherFrom notes (k x)

/-- A routine with its notes in order, and how it ended. -/
def gather (r : Routine (E.noting N) α) : Routine E (List N × Exit α) := gatherFrom [] r

end Routine

end Montage
