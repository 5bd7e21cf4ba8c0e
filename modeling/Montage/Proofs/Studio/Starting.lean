import Mathlib.Tactic.Common
import Montage.Proofs.Studio.Files
import Montage.Rehearsal.Performance

/-!
# Renderings that are about to start

An export does a great deal before its program is started.  What matters in the end is the command,
the directory, and the files that the program will find there.

* `Scene.Starts` — **a scene comes to start a command**, with certain files on the disk.
* `Scene.Starts.handle`, `Scene.Starts.relay` — what a part of a routine starts, the whole starts.
* `Scene.Starts.within` — the same behind a gate.
* `Tool.starts_run` — the command of a rendering.
* `Performance.starts_of_scene` — **what starts in a scene starts in a performance**.
-/

namespace Montage

variable {N N' α β : Type} {capacity : StudioGate → Nat}

/-- Files under these paths, one for each content. -/
def Host.Finds (h : Host) (paths : List Path) (contents : List ByteArray) : Prop :=
  List.Forall₂ (fun path content => h.disk.read h.here path = .ok content) paths contents

namespace Scene

/-- A scene comes to start a command in a directory, and each of these files is found by then. -/
def Starts (capacity : StudioGate → Nat) (c : Scene (Host.machine.noting N) α)
    (command : List String) (directory : Path) (paths : List Path) (contents : List ByteArray) :
    Prop :=
  ∃ (h : Host) (s : EngineState) (i : StudioGate → Nat)
    (k : Except SpawnProblem ProcessId → NotingRoutine N α),
    Reaches (Host.machine.noting N) capacity c
      ⟨h, s, i, .ask (.act (.inr (.spawn command (some directory)))) k⟩
    ∧ h.Finds paths contents

variable {c d : Scene (Host.machine.noting N) α} {command : List String} {directory : Path}
variable {paths : List Path} {contents : List ByteArray}

lemma Starts.after (h : d.Starts capacity command directory paths contents)
    (before : Reaches (Host.machine.noting N) capacity c d) :
    c.Starts capacity command directory paths contents := by
  obtain ⟨host, s, i, k, reaches, found⟩ := h
  exact ⟨host, s, i, k, before.trans reaches, found⟩

/-- A part that comes to a value, and what follows. -/
lemma Reaches.starts {h h' : Host} {s s' : EngineState} {i i' : StudioGate → Nat}
    {r : NotingRoutine N β} {a : β}
    (part : Reaches (Host.machine.noting N) capacity ⟨h, s, i, r⟩
      ⟨h', s', i', .done (.returned a)⟩)
    {f : β → NotingRoutine N α}
    (rest : Starts capacity ⟨h', s', i', f a⟩ command directory paths contents) :
    Starts capacity ⟨h, s, i, r.bind f⟩ command directory paths contents :=
  rest.after (part.bind .refl)

/-- The same where the part makes no notes. -/
lemma Reaches.lift_starts {h h' : Host} {s s' : EngineState} {i i' : StudioGate → Nat}
    {r : StudioRoutine β} {a : β}
    (part : Reaches Host.machine capacity ⟨h, s, i, r⟩ ⟨h', s', i', .done (.returned a)⟩)
    {f : β → NotingRoutine N α}
    (rest : Starts capacity ⟨h', s', i', f a⟩ command directory paths contents) :
    Starts capacity ⟨h, s, i, (Routine.lift r).bind f⟩ command directory paths contents :=
  Reaches.starts (part.lift N) rest

/-- What a part of a routine starts, the whole starts. -/
lemma Starts.handle (h : c.Starts capacity command directory paths contents)
    (f : Exit α → NotingRoutine N β) :
    (c.handle f).Starts capacity command directory paths contents := by
  obtain ⟨host, s, i, k, reaches, found⟩ := h
  exact ⟨host, s, i, fun v => (k v).handle f, reaches.handle f, found⟩

/-- Notes make no difference to what is started. -/
lemma Starts.relay (h : c.Starts capacity command directory paths contents) (f : N → N') :
    (c.relay f).Starts capacity command directory paths contents := by
  obtain ⟨host, s, i, k, reaches, found⟩ := h
  exact ⟨host, s, i, fun v => (k v).relay f, reaches.relay f, found⟩

/-! ## Gates -/

/-- A place behind a gate is taken when it is free. -/
lemma Starts.within {h : Host} {s : EngineState} {i : StudioGate → Nat} {g : StudioGate}
    {r : NotingRoutine N α} (free : i g < capacity g)
    (behind : Starts capacity ⟨h, s, occupy i g, r⟩ command directory paths contents) :
    Starts capacity ⟨h, s, i, Routine.within (E := Studio.noting N) g r⟩ command directory
      paths contents :=
  (behind.handle fun x => .ask (.leave g) fun _ => .done x).after (.single (.enter free))

end Scene

open Scene

/-- Running a program begins with its start. -/
lemma Tool.starts_run {h : Host} {s : EngineState} {i : StudioGate → Nat}
    {paths : List Path} {contents : List ByteArray} (found : h.Finds paths contents)
    (binary : String) (arguments : List String) (directory : Path) (duration : Option Binary64) :
    Starts capacity ⟨h, s, i, Tool.run binary arguments (some directory) duration⟩
      (binary :: arguments) directory paths contents :=
  ⟨h, s, i, _, .refl, found⟩

/-! ## Performances -/

namespace Performance

variable {settings : Settings}

/-- Called on a host with nobody else around, a routine comes to start a command in a directory, and
each of these files is found by then: a scene gets that far, and a schedule of the performance does
the same. -/
def Starts (settings : Settings) (h : Host) (s : EngineState) (r : NotingRoutine N α)
    (command : List String) (directory : Path) (paths : List Path) (contents : List ByteArray) :
    Prop :=
  ∃ (h' : Host) (s' : EngineState) (i : StudioGate → Nat)
    (k : Except SpawnProblem ProcessId → StudioRoutine (List N × Exit α)),
    Reaches Host.machine (studioProgram settings (List N × Exit α)).capacity
      ⟨h, s, fun _ => 0, r.gather⟩
      ⟨h', s', i, .ask (.act (.spawn command (some directory))) k⟩
    ∧ (∃ schedule queue,
      ({ world := h, store := s } : Performance settings (List N × Exit α)).follow
          (.call r.gather :: .turn 0 :: schedule)
        = Scene.turn (.call r.gather : Origin (studioProgram settings (List N × Exit α)))
            ⟨h', s', i, .ask (.act (StudioAct.spawn command (some directory))) k⟩ queue)
    ∧ h'.Finds paths contents

/-- **What starts in a scene starts in a performance.** -/
lemma starts_of_scene {h : Host} {s : EngineState} {r : NotingRoutine N α} {command : List String}
    {directory : Path} {paths : List Path} {contents : List ByteArray}
    (starts : Scene.Starts (studioProgram settings (List N × Exit α)).capacity
      ⟨h, s, fun _ => 0, r⟩ command directory paths contents) :
    Starts settings h s r command directory paths contents := by
  obtain ⟨h', s', i, k, reaches, found⟩ := starts
  obtain ⟨notes, gathered⟩ := reaches.gather []
  have followed := Reaches.follow
    (o := (.call r.gather : Origin (studioProgram settings (List N × Exit α)))) gathered [0]
  exact ⟨h', s', i, fun v => (k v).gatherFrom notes, gathered, followed, found⟩

end Performance

end Montage
