import Montage.Proofs.Binary64.Rounding
import Montage.Proofs.Routine.Interruption
import Montage.Proofs.Studio.Executions
import Montage.Proofs.Studio.Spares
import Montage.Proofs.Text.Encoding

/-!
# A program that was started has ended

A rendering that comes to an end has heard of the end of its program, whatever the program wrote
and wherever a request to stop came in: it has waited for the end, or it has stopped the program.
What comes of it is a matter of the code that the program ends with.  There is one exception: **a
reported time beyond all numbers breaks the reading**, and the program goes on unobserved.

* `Report.Excessive` — such a report; `Tool.fault?_eq_none_iff` — nothing else can be wrong with
  lines that are not too long.
* `Tool.HasExited`, `Tool.Reads` — what is known of the end of a program.
* `obeys_reading`, `obeys_stop`, `obeys_guarding` — the parts of a rendering, a request to stop
  coming in at any place; `Tool.Attended` — all that can come of it.
* **`Tool.run_ends`**, with **`Tool.exceeding_left_running`** — the exception at work.
-/

namespace Montage

open Routine

/-! ## Reports beyond all numbers -/

namespace Report

/-- A line reports a time that is beyond all numbers. -/
def Excessive (line : ByteArray) : Prop :=
  ∃ n, microseconds? (Text.lossyChars line) = some n ∧ Binary64.leastExcess * 1000000 ≤ n

/-- A time is at fault if and only if it is beyond all numbers. -/
lemma processedSeconds_eq_error {line : ByteArray} {f : Fault} :
    processedSeconds (Text.lossyChars line) = .error f
      ↔ Excessive line ∧ f = .quotientTooLarge := by
  unfold processedSeconds Excessive
  cases microseconds? (Text.lossyChars line) with
  | none => simp
  | some n =>
      have seconds : (Binary64.ofRatio? n 1000000).map some = .error f
          ↔ Binary64.ofRatio? n (1000000 : Nat) = .error f := by
        cases Binary64.ofRatio? n 1000000 <;> simp [Except.map]
      simp only [seconds, Binary64.ofRatio?_eq_error (by decide : 0 < 1000000), Option.some.injEq,
        exists_eq_left']

end Report

namespace Tool

/-- A rendering whose progress is measured has reported a time that is beyond all numbers. -/
def Overdone (duration : Option Binary64) (channels : Channels) : Prop :=
  (measurable duration).isSome ∧ ∃ line ∈ channels.output, Report.Excessive line

/-- Only a time can be wrong with a line that is not too long. -/
lemma lineFault?_eq_some {duration : Option Binary64} {line : ByteArray} {f : Fault}
    (fits : overrun? line = none) : lineFault? duration line = some f
      ↔ duration.isSome ∧ Report.Excessive line ∧ f = .quotientTooLarge := by
  rw [lineFault?, fits, Option.none_or, ← Report.processedSeconds_eq_error]
  unfold reportFault?
  cases duration with
  | none => simp
  | some d => cases Report.processedSeconds (Text.lossyChars line) <;> simp

section Fit

variable {duration : Option Binary64} {channels : Channels}
  (fit : ∀ line ∈ channels.output ++ channels.errors, overrun? line = none)

include fit

/-- Where no line is too long, only the progress can break a rendering. -/
lemma fault?_of_fit :
    fault? duration channels = channels.output.findSome? (lineFault? (measurable duration)) := by
  have errors : channels.errors.findSome? overrun? = none :=
    List.findSome?_eq_none_iff.mpr (List.forall_mem_append.mp fit).2
  rw [fault?, errors, Option.or_none]

/-- Such a rendering breaks exactly when a line tells of a time that is too large. -/
lemma fault?_eq_none_iff : fault? duration channels = none ↔ ¬ Overdone duration channels := by
  rw [fault?_of_fit fit, List.findSome?_eq_none_iff]
  constructor
  · rintro fine ⟨measured, line, among, excessive⟩
    have fault := (lineFault?_eq_some (fit line (List.mem_append_left _ among))).mpr
      ⟨measured, excessive, rfl⟩
    cases (fine line among).symm.trans fault
  · intro fine line among
    by_contra broken
    obtain ⟨f, fault⟩ := Option.ne_none_iff_exists'.mp broken
    obtain ⟨measured, excessive, -⟩ :=
      (lineFault?_eq_some (fit line (List.mem_append_left _ among))).mp fault
    exact fine ⟨measured, line, among, excessive⟩

lemma fault?_eq_some {f : Fault} (fault : fault? duration channels = some f) :
    Overdone duration channels ∧ f = .quotientTooLarge := by
  rw [fault?_of_fit fit] at fault
  obtain ⟨line, among, fault⟩ := List.exists_of_findSome?_eq_some fault
  obtain ⟨measured, excessive, same⟩ :=
    (lineFault?_eq_some (fit line (List.mem_append_left _ among))).mp fault
  exact ⟨⟨measured, line, among, excessive⟩, same⟩

end Fit

/-! ## The end of a program -/

/-- A reply that tells that a program has ended. -/
inductive Exits (p : ProcessId) : Event Studio → Prop
  | exit (code : Int) : Exits p (.awaited (.wait (.exit p)) (.returned code))
  | notRunning : Exits p (.asked (.act (.isRunning p)) false)

/-- It is known that a program has ended. -/
def HasExited (p : ProcessId) (h : History Studio) : Prop := ∃ e ∈ h, Exits p e

/-- A program has ended in one part of a history or in the other. -/
lemma hasExited_append {p : ProcessId} {a b : History Studio} :
    HasExited p (a ++ b) ↔ HasExited p a ∨ HasExited p b := by
  simp only [HasExited, List.mem_append, or_and_right, exists_or]

lemma hasExited_snoc {p : ProcessId} {e : Event Studio} (exits : Exits p e) (a : History Studio) :
    HasExited p (a ++ [e]) := ⟨e, List.mem_append_right a List.mem_cons_self, exits⟩

/-- More has been heard, but nothing of the end of a program. -/
def Reads (p : ProcessId) (a b : History Studio) : Prop := ∃ l, b = a ++ l ∧ ¬ HasExited p l

namespace Reads

variable {p : ProcessId} {a b c : History Studio}

lemma refl (p : ProcessId) (a : History Studio) : Reads p a a :=
  ⟨[], (List.append_nil a).symm, fun ⟨_, among, _⟩ => List.not_mem_nil among⟩

/-- To hear of anything but the end of the program is to read on. -/
lemma one {e : Event Studio} (other : ¬ Exits p e) : Reads p a (a ++ [e]) :=
  ⟨[e], rfl, fun ⟨_, among, exits⟩ => other (List.mem_singleton.mp among ▸ exits)⟩

lemma trans (first : Reads p a b) (second : Reads p b c) : Reads p a c := by
  obtain ⟨l, rfl, none⟩ := first
  obtain ⟨l', rfl, none'⟩ := second
  exact ⟨l ++ l', List.append_assoc a l l',
    fun exits => (hasExited_append.mp exits).elim none none'⟩

lemma mem {e : Event Studio} (reads : Reads p a b) (among : e ∈ a) : e ∈ b := by
  obtain ⟨l, rfl, -⟩ := reads
  exact List.mem_append_left l among

/-- Reading does not wait for the end of the program. -/
lemma not_hasExited (reads : Reads p a b) (running : ¬ HasExited p a) : ¬ HasExited p b := by
  obtain ⟨l, rfl, none⟩ := reads
  exact fun exits => (hasExited_append.mp exits).elim running none

end Reads

/-! ## Reading -/

/-- A part of what a program writes has been read, and something may be wrong with it. -/
def HasRead (p : ProcessId) (a : History Studio) (f : Option Fault) (b : History Studio)
    (x : Exit Unit) : Prop := Reads p a b ∧ x = .orFault f

variable {p : ProcessId} {a : History Studio}

/-- One part after the other. -/
lemma HasRead.next {E : Interface} {R : Regime E (History Studio)} {first rest : Routine E Unit}
    {f g : Option Fault} (one : first.Obeys R (OrStopped (HasRead p a f)) a)
    (more : ∀ b, ¬ stopped b → rest.Obeys R (OrStopped (HasRead p b g)) b) :
    (first.bind fun _ => rest).Obeys R (OrStopped (HasRead p a (f.or g))) a := by
  refine one.unlessStopped fun b x calm ⟨reads, same⟩ => ?_
  subst same
  cases f with
  | some f => exact .done (.inr ⟨calm, reads, rfl⟩)
  | none =>
      refine (more b calm).mono fun c y ends => ?_
      exact ends.imp_right fun ⟨calm', later, same⟩ => ⟨calm', reads.trans later, same⟩

/-- To take a line is to read on; a line that is too long breaks. -/
lemma obeys_takeLine (line : ByteArray) (calm : ¬ stopped a) :
    (takeLine p line).Obeys (.remembering Tolerable)
      (OrStopped (HasRead p a (overrun? line))) a := by
  refine (obeys_wait (E := Studio) (.line p) calm).unlessStopped ?_
  rintro _ _ calm' ⟨u, rfl, rfl⟩
  have reads : Reads p a (a ++ [.awaited (.wait (.line p)) (.returned u)]) := .one nofun
  dsimp only [stopWith]
  cases overrun? line with
  | some f => exact .done (.inr ⟨calm', reads, rfl⟩)
  | none => exact .done (.inr ⟨calm', reads, rfl⟩)

/-- The error output is read to its end, or to the first line that is too long. -/
lemma obeys_followErrors (errors : List ByteArray) (calm : ¬ stopped a) :
    (followErrors p errors).Obeys (.remembering Tolerable)
      (OrStopped (HasRead p a (errors.findSome? overrun?))) a := by
  induction errors generalizing a with
  | nil => exact .done (.inr ⟨calm, .refl p a, rfl⟩)
  | cons line rest ih =>
      rw [findSome?_cons_or]
      exact HasRead.next (obeys_takeLine line calm) fun b calm' => ih calm'

/-- The output is read to its end, or to the first line that breaks. -/
lemma obeys_followOutput (duration : Option Binary64) (last : Binary64) (lines : List ByteArray)
    (calm : ¬ stopped a) :
    (followOutput p duration last lines).Obeys ((Regime.remembering Tolerable).noting Binary64)
      (OrStopped (HasRead p a (lines.findSome? (lineFault? duration)))) a := by
  induction lines generalizing a last with
  | nil => exact .done (.inr ⟨calm, .refl p a, rfl⟩)
  | cons line rest ih =>
      rw [findSome?_cons_or, lineFault?, Option.or_assoc]
      refine HasRead.next ((obeys_takeLine line calm).lift Binary64) fun b calm' => ?_
      cases duration with
      | none => exact ih last calm'
      | some d =>
          rw [reportFault?_eq d last line]
          dsimp only
          cases Report.newMaximum? d last line with
          | error f => exact .done (.inr ⟨calm', .refl p b, rfl⟩)
          | ok percent =>
              cases percent with
              | none => exact ih last calm'
              | some percent =>
                  refine .ask trivial fun _ c same => ?_
                  obtain rfl : c = b := same
                  exact ih percent calm'

/-- A program has been read to its end, unless something was wrong with what it wrote. -/
inductive WasRead (p : ProcessId) (duration : Option Binary64) (channels : Channels)
    (a : History Studio) : History Studio → Exit Int → Prop
  | unread {b : History Studio} {f : Fault} (fault : fault? duration channels = some f)
      (reads : Reads p a b) : WasRead p duration channels a b (.failed (.unexpected f))
  | ended {b : History Studio} {code : Int} (read : fault? duration channels = none)
      (reads : Reads p a b) : WasRead p duration channels a
        (b ++ [.awaited (.wait (.exit p)) (.returned code)]) (.returned code)

/-- Both are read, and what comes out is the first fault if there is one. -/
lemma obeys_reading (duration : Option Binary64) (channels : Channels) (calm : ¬ stopped a) :
    (reading p duration channels).Obeys ((Regime.remembering Tolerable).noting Binary64)
      (OrStopped (WasRead p duration channels a)) a := by
  refine (obeys_followOutput _ 0 channels.output calm).unlessStopped ?_
  rintro b _ calm ⟨output, rfl⟩
  cases read : channels.output.findSome? (lineFault? (measurable duration)) with
  | some f => exact .done (.inr ⟨calm, .unread (by rw [fault?, read]; rfl) output⟩)
  | none =>
      refine ((obeys_followErrors channels.errors calm).lift Binary64).unlessStopped ?_
      rintro c _ calm ⟨errors, rfl⟩
      have fault : fault? duration channels = channels.errors.findSome? overrun? := by
        rw [fault?, read, Option.none_or]
      cases read' : channels.errors.findSome? overrun? with
      | some f => exact .done (.inr ⟨calm, .unread (fault.trans read') (output.trans errors)⟩)
      | none =>
          refine ((obeys_wait (E := Studio) (.exit p) calm).lift Binary64).mono ?_
          rintro d x (told | ⟨calm, code, rfl, rfl⟩)
          · exact .inl told
          · exact .inr ⟨calm, .ended (fault.trans read') (output.trans errors)⟩

/-! ## Stopping -/

/-- A program that is stopped has ended then. -/
lemma obeys_stop (told : stopped a) :
    (stop p).Obeys (.remembering Tolerable)
      (fun b x => x = .returned () ∧ stopped b ∧ HasExited p b) a := by
  refine .ask trivial fun running b ⟨known, _⟩ => ?_
  subst known
  have told := stopped_append_left told [.asked (.act (.isRunning p)) running]
  cases running with
  | false => exact .done ⟨rfl, told, hasExited_snoc .notRunning a⟩
  | true =>
      refine .ask trivial fun u b ⟨known, _⟩ => ?_
      subst known
      have told := stopped_append_left told [.asked (.act (.kill p)) u]
      refine (obeys_wait_of_stopped (E := Studio) (.exit p) told).handle ?_
      rintro _ _ ⟨code, rfl, rfl⟩
      exact .done ⟨rfl, stopped_append_left told _, hasExited_snoc (.exit code) _⟩

/-- A program has been stopped, or no request to stop has come and it has gone as agreed. -/
def OrHalted {α : Type} (p : ProcessId) (post : History Studio → Exit α → Prop) (h : History Studio)
    (x : Exit α) : Prop :=
  stopped h ∧ HasExited p h ∧ x = .cancelled ∨ ¬ stopped h ∧ post h x

/-- Whoever is told to stop stops the program; any other end stands. -/
lemma obeys_orHalted {E : Interface} {α : Type} {R : Regime E (History Studio)} {r : Routine E α}
    {halt : Routine E Unit} {f : Exit α → Routine E α} {post : History Studio → Exit α → Prop}
    (obeys : r.Obeys R (OrStopped post) a)
    (halts : ∀ b, stopped b →
      halt.Obeys R (fun c x => x = .returned () ∧ stopped c ∧ HasExited p c) b)
    (cancelled : f .cancelled = halt.bind fun _ => .done .cancelled)
    (other : ∀ b x, post b x → f x = .done x) :
    (r.handle f).Obeys R (OrHalted p post) a := by
  refine obeys.handle ?_
  rintro b x (⟨told, rfl⟩ | ⟨calm, holds⟩)
  · rw [cancelled]
    refine (halts b told).handle ?_
    rintro c _ ⟨rfl, told, exited⟩
    exact .done (.inl ⟨told, exited, rfl⟩)
  · rw [other b x holds]
    exact .done (.inr ⟨calm, holds⟩)

/-- Who has connected to the program has its channels, or has stopped it. -/
lemma obeys_attach (calm : ¬ stopped a) :
    (attach p).Obeys (.remembering Tolerable)
      (OrHalted p fun b x => ∃ channels, x = .returned channels
        ∧ b = a ++ [.awaited (.wait (.attach p)) (.returned channels)]) a := by
  refine obeys_orHalted (obeys_wait (E := Studio) (.attach p) calm) (fun b => obeys_stop) rfl ?_
  rintro b _ ⟨channels, rfl, -⟩
  rfl

/-- Who guards a program stops it before the cancellation goes on. -/
lemma obeys_guarding {α : Type} {r : NotingRoutine Binary64 α}
    {post : History Studio → Exit α → Prop}
    (obeys : r.Obeys ((Regime.remembering Tolerable).noting Binary64) (OrStopped post) a)
    (never : ∀ b, ¬ post b .cancelled) :
    (guarding p r).Obeys ((Regime.remembering Tolerable).noting Binary64) (OrHalted p post) a := by
  refine obeys_orHalted obeys (fun b told => (obeys_stop told).lift Binary64) rfl ?_
  intro b x holds
  cases x with
  | returned v => rfl
  | failed e => rfl
  | cancelled => exact absurd holds (never b)

/-! ## A rendering -/

/-- What is done with a program that has started. -/
def attend (p : ProcessId) (duration : Option Binary64) : NotingRoutine Binary64 Unit := do
  let channels ← Routine.lift (attach p)
  let code ← guarding p (reading p duration channels)
  if code ≠ 0 then Routine.refuse (.execution (.exitCode code (diagnostics channels.errors)))

/-- What has come of a program that has started, given all that has been heard since. -/
inductive Attended (p : ProcessId) (duration : Option Binary64) (h : History Studio) :
    Exit Unit → Prop
  | halted (told : stopped h) (exited : HasExited p h) : Attended p duration h .cancelled
  | unread {channels : Channels} {f : Fault} (calm : ¬ stopped h)
      (attached : .awaited (.wait (.attach p)) (.returned channels) ∈ h)
      (fault : fault? duration channels = some f) (running : ¬ HasExited p h) :
      Attended p duration h (.failed (.unexpected f))
  | ended {channels : Channels} {code : Int} (calm : ¬ stopped h)
      (attached : .awaited (.wait (.attach p)) (.returned channels) ∈ h)
      (read : fault? duration channels = none)
      (exited : .awaited (.wait (.exit p)) (.returned code) ∈ h) :
      Attended p duration h (ending code channels.errors)

/-- From its start on, a program is read, waited for, or stopped. -/
lemma obeys_attend (duration : Option Binary64) :
    (attend p duration).Obeys ((Regime.remembering Tolerable).noting Binary64)
      (Attended p duration) [] := by
  refine ((obeys_attach not_stopped_nil).lift Binary64).handle ?_
  rintro a _ (⟨told, exited, rfl⟩ | ⟨calm, channels, rfl, rfl⟩)
  · exact .done (.halted told exited)
  have running : ¬ HasExited p ([] ++ [.awaited (.wait (.attach p)) (.returned channels)]) :=
    Reads.not_hasExited (.one nofun) fun ⟨_, among, _⟩ => List.not_mem_nil among
  have attached : Event.awaited (E := Studio) (.wait (.attach p)) (.returned channels)
      ∈ ([] : History Studio) ++ [.awaited (.wait (.attach p)) (.returned channels)] :=
    List.mem_append_right _ List.mem_cons_self
  refine (obeys_guarding (obeys_reading duration channels calm) nofun).handle ?_
  rintro b x (⟨told, exited, rfl⟩ | ⟨calm, was⟩)
  · exact .done (.halted told exited)
  · cases was with
    | unread fault reads =>
        exact .done (.unread calm (reads.mem attached) fault (reads.not_hasExited running))
    | @ended c code read reads =>
        exact obeys_ending (.ended calm (List.mem_append_left _ (reads.mem attached)) read
          (List.mem_append_right _ List.mem_cons_self))

section Plays

variable {binary : String} {arguments : List String} {directory : Option Path}
  {duration : Option Binary64} {h : History Studio} {notes : List Binary64} {y : Exit Unit}
  (plays : (run binary arguments directory duration).gather.Plays
    (.asked (.act (.spawn (binary :: arguments) directory)) (Except.ok p) :: h)
    (.returned (notes, y)))
  (tolerable : Tolerable h)

include plays tolerable

/-- What is agreed on holds of every history. -/
lemma attended_of_plays : Attended p duration h y := by
  cases plays with
  | ask rest => exact (obeys_attend duration).of_plays_gather (fun _ _ => .of_append) rest tolerable

/-- A rendering with a fault leaves its program as it is. -/
lemma not_hasExited_of_unexpected {f : Fault} (broken : y = .failed (.unexpected f)) :
    ¬ HasExited p h := by
  have attended := attended_of_plays plays tolerable
  cases attended with
  | halted => cases broken
  | unread _ _ _ running => exact running
  | ended =>
      unfold ending at broken
      split at broken <;> cases broken

end Plays

/-- Lines of error output as one text. -/
def wording (lines : List ByteArray) : String :=
  let text := "\n".intercalate (lines.map keptLine)
  if text = "" then "No error output" else text

/-- What is kept of the error output. -/
lemma diagnostics_eq (errors : List ByteArray) :
    ∃ kept, kept <:+ errors ∧ kept.length = min 40 errors.length
      ∧ diagnostics errors = wording kept := by
  refine ⟨errors.drop (errors.length - tailLength), List.drop_suffix _ _, ?_, rfl⟩
  rw [List.length_drop, tailLength]
  omega

/-- **How a rendering ends whose program has started.**  One that is told to stop has stopped its
program.  Any other has waited for its end; it returns if and only if the code is zero, and repeats
the last lines of the error output if not.  Only a time beyond all numbers, where times are looked
at, breaks it: then nothing is known of the end of the program. -/
theorem run_ends {binary : String} {arguments : List String} {directory : Option Path}
    {duration : Option Binary64} {h : History Studio} {notes : List Binary64} {y : Exit Unit}
    (plays : (run binary arguments directory duration).gather.Plays
      (.asked (.act (.spawn (binary :: arguments) directory)) (Except.ok p) :: h)
      (.returned (notes, y)))
    (tolerable : Tolerable h)
    (fit : ∀ channels, .awaited (.wait (.attach p)) (.returned channels) ∈ h →
      ∀ line ∈ channels.output ++ channels.errors, overrun? line = none) :
    stopped h ∧ y = .cancelled ∧ HasExited p h
    ∨ ¬ stopped h ∧ ∃ channels, .awaited (.wait (.attach p)) (.returned channels) ∈ h
      ∧ (Overdone duration channels ∧ y = .failed (.unexpected .quotientTooLarge) ∧ ¬ HasExited p h
        ∨ ¬ Overdone duration channels ∧ HasExited p h
          ∧ ∃ code, .awaited (.wait (.exit p)) (.returned code) ∈ h ∧ (y = .returned () ↔ code = 0)
            ∧ (code ≠ 0 → ∃ kept, kept <:+ channels.errors
              ∧ kept.length = min 40 channels.errors.length
              ∧ y = .failed (.expected (.execution (.exitCode code (wording kept)))))) := by
  have attended := attended_of_plays plays tolerable
  cases attended with
  | halted told exited => exact .inl ⟨told, rfl, exited⟩
  | @unread channels f calm attached fault running =>
      obtain ⟨overdone, rfl⟩ := fault?_eq_some (fit channels attached) fault
      exact .inr ⟨calm, channels, attached, .inl ⟨overdone, rfl, running⟩⟩
  | @ended channels code calm attached read exited =>
      have fine := (fault?_eq_none_iff (fit channels attached)).mp read
      refine .inr ⟨calm, channels, attached,
        .inr ⟨fine, ⟨_, exited, .exit code⟩, code, exited, ?_, ?_⟩⟩
      · unfold ending
        split
        · exact iff_of_true rfl ‹_›
        · exact iff_of_false nofun ‹_›
      · intro broken
        obtain ⟨kept, suffix, length, text⟩ := diagnostics_eq channels.errors
        exact ⟨kept, suffix, length, by rw [ending, if_neg broken, text]⟩

/-! ## Samples -/

/-- Surroundings in which a program writes something and ends with a code. -/
def oneProgram (channels : Channels) (code : Int) : Replies Studio :=
  { oneWorkspace (.ok []) (.ok "video".toUTF8) with
    onSuspension
      | .wait (.attach _) => .returned channels
      | .wait (.exit _) => .returned code
      | s => (oneWorkspace (.ok []) (.ok "video".toUTF8)).onSuspension s }

variable {channels : Channels} {code : Int}

lemma answered_of_oneProgram {e : Event Studio} (gave : (oneProgram channels code).Gave e) :
    e.Answered := by
  cases gave with
  | asked q => trivial
  | awaited s =>
      cases s with
      | wait w => cases w <;> exact ⟨_, rfl⟩
      | enter g => rfl
      | join j t =>
          cases j
          exact nofun
      | watch j t =>
          cases j
          exact nofun

/-- Nobody is told to stop in such surroundings, unless an end is waited for. -/
lemma stops_eq_false {e : Event Studio} (gave : (oneProgram channels code).Gave e)
    (alone : e.Within (fun _ => True) fun s => s.passesOn = false) : e.stops = false := by
  cases gave with
  | asked q => rfl
  | awaited s =>
      cases s with
      | wait w => cases w <;> rfl
      | enter g => rfl
      | join j t => cases alone
      | watch j t =>
          cases j
          rfl

/-- A rendering joins nobody. -/
lemma within_run (binary : String) (arguments : List String) (directory : Option Path)
    (duration : Option Binary64) :
    (run binary arguments directory duration).gather.Within (fun _ => True)
      fun s => s.passesOn = false := by
  intro a _
  have spares : (Regime.only (E := Studio) (fun _ => True) fun s => s.passesOn = false).Spares
      (fun _ => True) (fun _ => True) fun _ => True :=
    ⟨fun _ _ => ⟨trivial, fun _ _ _ => trivial⟩, fun _ _ _ _ => ⟨trivial, fun _ _ _ => trivial⟩,
      fun _ _ _ _ => ⟨rfl, fun _ _ _ => trivial⟩⟩
  exact ((obeys_run spares attends_all (fun _ => trivial) trivial
    fun _ _ _ => trivial).gatherFrom []).mono fun _ _ _ => trivial

/-- What comes of a rendering that nobody stops. -/
def calmEnd (duration : Option Binary64) (channels : Channels) (code : Int) : Exit Unit :=
  match fault? duration channels with
  | some f => .failed (.unexpected f)
  | none => ending code channels.errors

/-- A rendering in such surroundings, that nobody stops. -/
lemma exists_runs (channels : Channels) (code : Int) (duration : Option Binary64) :
    ∃ h notes, (run "ffmpeg" [] none duration).gather.Plays
        (.asked (.act (.spawn ["ffmpeg"] none)) (Except.ok 0) :: h)
        (.returned (notes, calmEnd duration channels code))
      ∧ Tolerable h ∧ ¬ stopped h
      ∧ ∀ c, .awaited (.wait (.attach 0)) (.returned c) ∈ h → c = channels := by
  have plays := plays_play (oneProgram channels code) (run "ffmpeg" [] none duration).gather
  have gave : ∀ e ∈ ((run "ffmpeg" [] none duration).gather.play (oneProgram channels code)).1,
      (oneProgram channels code).Gave e := fun _ => gave_of_mem_play
  generalize ((run "ffmpeg" [] none duration).gather.play (oneProgram channels code)).1 = heard
    at plays gave
  generalize ((run "ffmpeg" [] none duration).gather.play (oneProgram channels code)).2 = x
    at plays
  have alone := ((within_run "ffmpeg" [] none duration).leads plays).1
  have quiet : ∀ e ∈ heard, ¬ e.stops = true := fun e among =>
    Bool.eq_false_iff.mp (stops_eq_false (gave e among) (alone e among))
  cases plays with
  | @ask _ _ started h _ rest =>
      rw [List.forall_mem_cons] at gave quiet
      obtain ⟨first, later⟩ := gave
      cases first
      have tolerable : Tolerable h :=
        ⟨fun e among => .inl (answered_of_oneProgram (later e among)),
          Nat.le_trans (Nat.le_of_eq (List.countP_eq_zero.mpr quiet.2)) (Nat.zero_le 1)⟩
      have calm : ¬ stopped h := fun ⟨e, among, told⟩ => quiet.2 e among told
      have only : ∀ c, .awaited (.wait (.attach 0)) (.returned c) ∈ h → c = channels := by
        intro c attached
        cases later _ attached
        rfl
      obtain ⟨notes, y, rfl, attended⟩ :=
        ((obeys_attend duration).gatherFrom []).of_plays (fun _ _ => .of_append) rest tolerable
      have ends : y = calmEnd duration channels code := by
        cases attended with
        | halted told => exact absurd told calm
        | unread _ attached fault => rw [calmEnd, ← only _ attached, fault]
        | @ended _ c _ attached read exited =>
            have same : c = code := by
              cases later _ exited
              rfl
            rw [calmEnd, ← only _ attached, read, same]
      exact ⟨h, notes, .ask (ends ▸ rest), tolerable, calm, only⟩

/-- A program that complains … -/
def complaining : Channels where
  output := ["out_time_us=1000000\n".toUTF8]
  errors := ["no such filter\n".toUTF8, "failed \n".toUTF8]

/-- … has ended when its words are repeated. -/
theorem run_ends_sample :
    ∃ h notes, (run "ffmpeg" [] none (some 5)).gather.Plays
        (.asked (.act (.spawn ["ffmpeg"] none)) (Except.ok 0) :: h)
        (.returned (notes,
          .failed (.expected (.execution (.exitCode 3 "no such filter\nfailed")))))
      ∧ Tolerable h
      ∧ (∀ channels, .awaited (.wait (.attach 0)) (.returned channels) ∈ h →
        ∀ line ∈ channels.output ++ channels.errors, overrun? line = none)
      ∧ HasExited 0 h := by
  have ends : calmEnd (some 5) complaining 3
      = .failed (.expected (.execution (.exitCode 3 "no such filter\nfailed"))) := by decide +kernel
  obtain ⟨h, notes, plays, tolerable, calm, only⟩ := exists_runs complaining 3 (some 5)
  rw [ends] at plays
  have short : ∀ line ∈ complaining.output ++ complaining.errors, overrun? line = none := by
    decide +kernel
  have fit : ∀ channels, .awaited (.wait (.attach 0)) (.returned channels) ∈ h →
      ∀ line ∈ channels.output ++ channels.errors, overrun? line = none :=
    fun channels attached => only channels attached ▸ short
  refine ⟨h, notes, plays, tolerable, fit, ?_⟩
  rcases run_ends plays tolerable fit with
    ⟨told, -⟩ | ⟨-, _, -, ⟨-, same, -⟩ | ⟨-, exited, -⟩⟩
  · exact absurd told calm
  · cases same
  · exact exited

/-- A program that reports a time of three hundred and twenty digits … -/
def exceeding : Channels where
  output := ["out_time_us=1000000\n".toUTF8,
    ("out_time_us=" ++ String.ofList (List.replicate 320 '1') ++ "\n").toUTF8]

lemma overdone_exceeding : Overdone (some 5) exceeding := by
  have text : "out_time_us=" ++ String.ofList (List.replicate 320 '1') ++ "\n"
      = String.ofList ("out_time_us=".toList ++ List.replicate 320 '1' ++ ['\n']) := by
    rw [String.ofList_append, String.ofList_append, String.ofList_toList]
  refine ⟨by decide +kernel, _, List.mem_cons_of_mem _ List.mem_cons_self,
    Text.ofDigits 10 (List.replicate 320 1), ?_, by decide +kernel⟩
  rw [text, Text.lossyChars_utf8]
  decide +kernel

/-- … **is left running, and its rendering breaks**, although it would end with no error. -/
theorem exceeding_left_running :
    ∃ h notes, (run "ffmpeg" [] none (some 5)).gather.Plays
        (.asked (.act (.spawn ["ffmpeg"] none)) (Except.ok 0) :: h)
        (.returned (notes, .failed (.unexpected .quotientTooLarge)))
      ∧ Tolerable h ∧ ¬ stopped h
      ∧ (∀ channels, .awaited (.wait (.attach 0)) (.returned channels) ∈ h →
        ∀ line ∈ channels.output ++ channels.errors, overrun? line = none)
      ∧ ¬ HasExited 0 h := by
  have short : ∀ line ∈ exceeding.output ++ exceeding.errors, overrun? line = none := by
    decide +kernel
  have ends : calmEnd (some 5) exceeding 0 = .failed (.unexpected .quotientTooLarge) := by
    obtain ⟨f, fault⟩ := Option.ne_none_iff_exists'.mp fun none =>
      (fault?_eq_none_iff short).mp none overdone_exceeding
    rw [calmEnd, fault, (fault?_eq_some short fault).2]
  obtain ⟨h, notes, plays, tolerable, calm, only⟩ := exists_runs exceeding 0 (some 5)
  rw [ends] at plays
  exact ⟨h, notes, plays, tolerable, calm,
    fun channels attached => only channels attached ▸ short,
    not_hasExited_of_unexpected plays tolerable rfl⟩

end Tool

end Montage
