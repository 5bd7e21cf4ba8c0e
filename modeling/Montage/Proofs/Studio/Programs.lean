import Mathlib.Tactic.Common
import Montage.Proofs.Routine.Outcomes
import Montage.Studio.Tool

/-!
# What comes of programs

A program that is run is refused, or it is started, read to its end, and ends with a code.  What it
writes can be too much for the reader.

* `Tool.fault?` — what is wrong with what a program has written.
* `Tool.Ran` — what comes of a rendering, given what is heard of it; **`Tool.delivers_run`**.
* `Tool.delivers_collect` — what comes of a program that is asked something.
-/

namespace Montage

/-- The end of a step that has no value: none, or a fault. -/
def Exit.orFault : Option Fault → Exit Unit
  | some f => .failed (.unexpected f)
  | none => .returned ()

namespace Routine

/-- One step without a value after the other. -/
lemma Delivers.orFault {E : Interface} {R : Regime E Unit} {r rest : Routine E Unit}
    {f g : Option Fault} (first : r.Delivers R fun x => x = .orFault f)
    (second : f = none → rest.Delivers R fun x => x = .orFault g) :
    (r.bind fun _ => rest).Delivers R fun x => x = .orFault (f.or g) := by
  refine first.handle fun x same => ?_
  subst same
  cases f with
  | some f => exact delivers_done rfl
  | none => exact second rfl

end Routine

open Routine

variable {P : Event Studio → Prop} (answered : ∀ e, P e → e.Answered)

namespace Tool

/-! ## Lines -/

/-- What is wrong with the time that a line reports, if it is looked at. -/
def reportFault? (duration : Option Binary64) (line : ByteArray) : Option Fault :=
  match duration, Report.processedSeconds (Text.lossyChars line) with
  | some _, .error f => some f
  | _, _ => none

/-- What is wrong with a line of output. -/
def lineFault? (duration : Option Binary64) (line : ByteArray) : Option Fault :=
  (overrun? line).or (reportFault? duration line)

/-- What is wrong with what a program has written. -/
def fault? (duration : Option Binary64) (channels : Channels) : Option Fault :=
  (channels.output.findSome? (lineFault? (measurable duration))).or
    (channels.errors.findSome? overrun?)

/-- A time that is looked at is at fault whatever has come before. -/
lemma reportFault?_eq (d last : Binary64) (line : ByteArray) :
    reportFault? (some d) line = match Report.newMaximum? d last line with
      | .error f => some f
      | .ok _ => none := by
  unfold reportFault? Report.newMaximum?
  cases Report.processedSeconds (Text.lossyChars line) with
  | error f => rfl
  | ok seconds => cases seconds <;> rfl

include answered in
lemma delivers_takeLine (p : ProcessId) (line : ByteArray) :
    (takeLine p line).Delivers (.hearing P) fun x => x = .orFault (overrun? line) := by
  refine (delivers_wait answered (.line p)).andThen fun _ _ => ?_
  cases overrun? line <;> exact delivers_done rfl

/-- The first thing that is wrong with some lines. -/
lemma findSome?_cons_or (f : ByteArray → Option Fault) (line : ByteArray)
    (rest : List ByteArray) : (line :: rest).findSome? f = (f line).or (rest.findSome? f) := by
  rw [List.findSome?_cons]
  cases f line <;> rfl

include answered in
lemma delivers_followOutput (p : ProcessId) (duration : Option Binary64) (last : Binary64)
    (lines : List ByteArray) :
    (followOutput p duration last lines).Delivers ((Regime.hearing P).noting Binary64)
      fun x => x = .orFault (lines.findSome? (lineFault? duration)) := by
  induction lines generalizing last with
  | nil => exact delivers_done rfl
  | cons line rest ih =>
      rw [findSome?_cons_or, lineFault?, Option.or_assoc]
      refine (delivers_takeLine answered p line).lift.orFault fun _ => ?_
      cases duration with
      | none => exact ih last
      | some d =>
          rw [reportFault?_eq d last line]
          dsimp only
          cases Report.newMaximum? d last line with
          | error f => exact delivers_done rfl
          | ok percent =>
              cases percent with
              | none => exact ih last
              | some percent => exact (delivers_note percent).andThen fun _ _ => ih percent

include answered in
lemma delivers_followErrors (p : ProcessId) (errors : List ByteArray) :
    (followErrors p errors).Delivers (.hearing P)
      fun x => x = .orFault (errors.findSome? overrun?) := by
  induction errors with
  | nil => exact delivers_done rfl
  | cons line rest ih =>
      rw [findSome?_cons_or]
      exact (delivers_takeLine answered p line).orFault fun _ => ih

/-! ## Rendering -/

/-- What is done with a program that writes until it ends. -/
def reading (p : ProcessId) (duration : Option Binary64) (channels : Channels) :
    NotingRoutine Binary64 Int := do
  followOutput p (measurable duration) 0 channels.output
  Routine.lift (followErrors p channels.errors)
  Routine.lift (Studio.exitOf p)

/-- What becomes of a rendering that cannot be started. -/
def refusal (binary : String) : SpawnProblem → Failure
  | .os e =>
    if e.number = OsError.notFoundNumber then .expected (.engineLoad (.notFound binary (.os e)))
    else .unexpected (.os e)
  | problem => .unexpected problem.fault

/-- What becomes of a rendering that has ended. -/
def ending (code : Int) (errors : List ByteArray) : Exit Unit :=
  if code = 0 then .returned () else .failed (.expected (.execution (.exitCode code
    (diagnostics errors))))

/-- The last step of a rendering. -/
lemma obeys_ending {S : Type} {R : Regime (Studio.noting Binary64) S} {post : S → Exit Unit → Prop}
    {a : S} {code : Int} {errors : List ByteArray} (holds : post a (ending code errors)) :
    Obeys R post a (if code ≠ 0 then
      Routine.refuse (.execution (.exitCode code (diagnostics errors))) else pure ()) := by
  unfold ending at holds
  split
  · rename_i broken
    rw [if_neg broken] at holds
    exact .done holds
  · rename_i fine
    rw [if_pos (not_not.mp fine)] at holds
    exact .done holds

/-- What comes of a rendering, given what is heard of it. -/
inductive Ran (P : Event Studio → Prop) (binary : String) (arguments : List String)
    (directory : Option Path) (duration : Option Binary64) : Exit Unit → Prop
  | unspawned {problem : SpawnProblem}
      (refused :
        P (.asked (.act (.spawn (binary :: arguments) directory)) (Except.error problem))) :
      Ran P binary arguments directory duration (.failed (refusal binary problem))
  | unread {p : ProcessId} {channels : Channels} {f : Fault}
      (spawned : P (.asked (.act (.spawn (binary :: arguments) directory)) (Except.ok p)))
      (attached : P (.awaited (.wait (.attach p)) (.returned channels)))
      (fault : fault? duration channels = some f) :
      Ran P binary arguments directory duration (.failed (.unexpected f))
  | ended {p : ProcessId} {channels : Channels} {code : Int}
      (spawned : P (.asked (.act (.spawn (binary :: arguments) directory)) (Except.ok p)))
      (attached : P (.awaited (.wait (.attach p)) (.returned channels)))
      (read : fault? duration channels = none)
      (exited : P (.awaited (.wait (.exit p)) (.returned code))) :
      Ran P binary arguments directory duration (ending code channels.errors)

include answered in
lemma delivers_attach (p : ProcessId) : (attach p).Delivers (.hearing P)
    (Exit.Returns fun channels => P (.awaited (.wait (.attach p)) (.returned channels))) := by
  refine (delivers_wait answered (.attach p)).handle fun x returns => ?_
  obtain ⟨channels, rfl, heard⟩ := returns
  exact delivers_done ⟨channels, rfl, heard⟩

include answered in
/-- **What comes of a rendering.** -/
theorem delivers_run (binary : String) (arguments : List String) (directory : Option Path)
    (duration : Option Binary64) :
    (run binary arguments directory duration).Delivers ((Regime.hearing P).noting Binary64)
      (Ran P binary arguments directory duration) := by
  have spawns : (Studio.spawn (binary :: arguments) directory).Delivers (.hearing P)
      (Exit.Returns fun v => P (.asked (.act (.spawn (binary :: arguments) directory)) v)) :=
    delivers_act _
  refine spawns.lift.andThen fun started spawned => ?_
  cases started with
  | error problem =>
      cases problem with
      | os e =>
          have refused :
              Ran P binary arguments directory duration (.failed (refusal binary (.os e))) :=
            .unspawned spawned
          dsimp only [refusal] at refused ⊢
          split
          · rename_i absent
            rw [if_pos absent] at refused
            exact delivers_done refused
          · rename_i present
            rw [if_neg present] at refused
            exact delivers_done refused
      | nullArgument => exact delivers_done (.unspawned spawned)
      | unencodable p => exact delivers_done (.unspawned spawned)
  | ok p =>
      refine (delivers_attach answered p).lift.andThen fun channels attached => ?_
      have exits : (Studio.exitOf p).Delivers (.hearing P)
          (Exit.Returns fun code => P (.awaited (.wait (.exit p)) (.returned code))) :=
        delivers_wait answered _
      have whole : fault? duration channels
          = (channels.output.findSome? (lineFault? (measurable duration))).or
            (channels.errors.findSome? overrun?) := rfl
      let Read (x : Exit Int) : Prop :=
        (∃ f, fault? duration channels = some f ∧ x = .failed (.unexpected f))
          ∨ fault? duration channels = none
            ∧ x.Returns fun code => P (.awaited (.wait (.exit p)) (.returned code))
      have reads : (reading p duration channels).Delivers ((Regime.hearing P).noting Binary64)
          Read := by
        refine (delivers_followOutput answered p _ 0 _).handle fun x same => ?_
        subst same
        cases output : channels.output.findSome? (lineFault? (measurable duration)) with
        | some f => exact delivers_done (.inl ⟨f, by rw [whole, output]; rfl, rfl⟩)
        | none =>
            refine (delivers_followErrors answered p _).lift.handle fun x same => ?_
            subst same
            cases errors : channels.errors.findSome? overrun? with
            | some f => exact delivers_done (.inl ⟨f, by rw [whole, output, errors]; rfl, rfl⟩)
            | none =>
                refine exits.lift.mono fun x returns => .inr ⟨?_, returns⟩
                rw [whole, output, errors]
                rfl
      have guarded : (guarding p (reading p duration channels)).Delivers
          ((Regime.hearing P).noting Binary64) Read := by
        refine reads.handle fun x ends => ?_
        cases x with
        | returned code => exact delivers_done ends
        | failed e => exact delivers_done ends
        | cancelled =>
            rcases ends with ⟨_, -, same⟩ | ⟨-, _, same, -⟩ <;> cases same
      refine guarded.handle fun x ends => ?_
      rcases ends with ⟨f, fault, rfl⟩ | ⟨read, code, rfl, exited⟩
      · exact delivers_done (.unread spawned attached fault)
      · exact obeys_ending (.ended spawned attached read exited)

section Ran

variable {binary : String} {arguments : List String} {directory : Option Path}
  {duration : Option Binary64}

/-- What keeps a program from rendering is no refusal of the form. -/
lemma isRefusal_of_ran {e : ExportFailure}
    (ran : Ran P binary arguments directory duration (.failed (.expected e))) :
    e.kind.isRefusal = false := by
  generalize same : (.failed (.expected e) : Exit Unit) = x at ran
  cases ran with
  | @unspawned problem refused =>
      cases problem with
      | os error =>
          unfold refusal at same
          dsimp only at same
          split at same <;> cases same
          rfl
      | nullArgument => cases same
      | unencodable p => cases same
  | unread => cases same
  | ended =>
      unfold ending at same
      split at same <;> cases same
      rfl

lemma not_ran_cancelled : ¬ Ran P binary arguments directory duration .cancelled := by
  intro ran
  generalize same : (.cancelled : Exit Unit) = x at ran
  cases ran with
  | unspawned => cases same
  | unread => cases same
  | ended =>
      unfold ending at same
      split at same <;> cases same

end Ran

/-! ## Questions -/

/-- What comes of a program that is asked something. -/
def Collects (P : Event Studio → Prop) (command : List String) :
    Except SpawnProblem Collected → Prop
  | .error problem => P (.asked (.act (.spawn command none)) (Except.error problem))
  | .ok _ => True

include answered in
lemma delivers_collect (command : List String) :
    (collect command).Delivers (.hearing P) (Exit.Returns (Collects P command)) := by
  have spawns : (Studio.spawn command none).Delivers (.hearing P)
      (Exit.Returns fun v => P (.asked (.act (.spawn command none)) v)) := delivers_act _
  refine spawns.andThen fun started spawned => ?_
  cases started with
  | error problem => exact delivers_done ⟨_, rfl, spawned⟩
  | ok p =>
      refine (delivers_attach answered p).andThen fun _ _ => ?_
      exact (delivers_wait answered _).andThen fun c _ => delivers_done ⟨.ok c, rfl, trivial⟩

end Tool

end Montage
