import Mathlib.Tactic.Common
import Montage.Proofs.Disk.Slots
import Montage.Proofs.Routine.Scene
import Montage.Rehearsal.Host

/-!
# Files of the studio

What a routine finds when it asks a host for the creation of a file, or writes to one.

* `Host.onDisk` — a host with another disk, everything else being the same.
* `Studio.reaches_createFile`, `Studio.reaches_appendFile`, `Studio.reaches_writeFile` — **a file
  that may be written is written**, and the routine goes on.
-/

namespace Montage

open Scene

/-- A host with another disk. -/
def Host.onDisk (h : Host) (disk : Disk) : Host := { h with disk }

@[simp] lemma Host.onDisk_disk (h : Host) (disk : Disk) : (h.onDisk disk).disk = disk := rfl

@[simp] lemma Host.onDisk_onDisk (h : Host) (disk disk' : Disk) :
    (h.onDisk disk).onDisk disk' = h.onDisk disk' := rfl

/-- A new directory under a name that nothing has. -/
lemma Host.makeTemporary_eq {h : Host} {path directory : Path} {beginning : String} {d : Disk}
    (fresh : h.freshPath path beginning (h.disk.nodes.length + 1) = directory)
    (made : h.disk.makeDirectory h.here directory = .ok d) :
    h.makeTemporary path beginning = (.ok directory, h.onDisk d) := by
  unfold makeTemporary
  generalize h.freshPath path beginning (h.disk.nodes.length + 1) = found at fresh
  subst fresh
  dsimp only
  generalize h.disk.makeDirectory h.here found = result at made
  subst made
  rfl

namespace Studio

variable {h : Host} {s : EngineState} {i : StudioGate → Nat} {capacity : StudioGate → Nat}
variable {path : Path} {place : Place} {content : ByteArray}

lemma reaches_act {α : Type} {a : StudioAct} {k : a.Val → StudioRoutine α} {v : a.Val} {h' : Host}
    (reply : Host.act 0 a h = (v, h')) :
    Reaches Host.machine capacity ⟨h, s, i, .ask (.act a) k⟩ ⟨h', s, i, k v⟩ := by
  have step : Scene.Step Host.machine capacity ⟨h, s, i, .ask (.act a) k⟩
      ⟨(Host.act 0 a h).2, s, i, k (Host.act 0 a h).1⟩ := .act
  rw [reply] at step
  exact .single step

/-- The reply to a suspension, held or not. -/
lemma reaches_wait {α : Type} {w : StudioWait} {k : Exit w.Ans → StudioRoutine α} {v : w.Ans}
    {h' : Host} (reply : Host.answer 0 w (h.begin 0 w) = (v, h')) :
    Reaches Host.machine capacity ⟨h, s, i, .await (.wait w) k⟩ ⟨h', s, i, k (.returned v)⟩ := by
  have begun : Host.wait 0 w h
      = if (h.begin 0 w).holds 0 w then (none, h.begin 0 w) else (some v, h') := by
    rw [Host.wait, reply]
  cases held : (h.begin 0 w).holds 0 w with
  | false =>
      rw [held] at begun
      exact .single (.wait begun)
  | true =>
      rw [held] at begun
      have step : Scene.Step Host.machine capacity ⟨h, s, i, .await (.wait w) k⟩
          ⟨(Host.answer 0 w (h.begin 0 w)).2, s, i,
            k (.returned (Host.answer 0 w (h.begin 0 w)).1)⟩ := .release begun
      rw [reply] at step
      exact .single step

lemma reaches_pause :
    Reaches Host.machine capacity ⟨h, s, i, pause⟩ ⟨h, s, i, .done (.returned ())⟩ :=
  reaches_wait (w := .pause) rfl

lemma reaches_nextPiece :
    Reaches Host.machine capacity ⟨h, s, i, nextPiece⟩ ⟨h, s, i, .done (.returned ())⟩ :=
  reaches_wait (w := .piece) rfl

/-! ## Operations on paths -/

/-- A path whose text has bytes and no null can be handed over. -/
lemma pathFault?_eq_none
    (encodable : Text.Alphabet.fileNames.problem? 0 (Text.codes path.text.toList) = none)
    (null : '\x00' ∉ path.text.toList) : pathFault? path = none := by
  simp [pathFault?, SpawnProblem.ofText?, encodable, null]

/-- What happens at once on a path that can be handed over. -/
lemma reaches_atOnce {α : Type} {a : StudioAct} {same : a.Val = Except OsError α} {v : a.Val}
    {x : α} {h' : Host} (encodable : pathFault? path = none) (reply : Host.act 0 a h = (v, h'))
    (good : same ▸ v = .ok x) :
    Reaches Host.machine capacity ⟨h, s, i, atOnce path a same⟩
      ⟨h', s, i, .done (.returned x)⟩ := by
  have routine : atOnce path a same = (perform a).bind fun v => orFault (same ▸ v) := by
    unfold atOnce
    rw [encodable]
    rfl
  have ending : orFault (same ▸ v) = .done (.returned x) := by
    rw [good]
    rfl
  have asked : Reaches Host.machine capacity ⟨h, s, i, perform a⟩
      ⟨h', s, i, .done (.returned v)⟩ := reaches_act reply
  rw [routine]
  refine asked.bind ?_
  rw [ending]
  exact .refl

/-- What takes time on a path that can be handed over. -/
lemma reaches_inTime {α : Type} {w : StudioWait} {same : w.Ans = Except OsError α} {v : w.Ans}
    {x : α} {h' : Host} (encodable : pathFault? path = none)
    (reply : Host.answer 0 w (h.begin 0 w) = (v, h')) (good : same ▸ v = .ok x) :
    Reaches Host.machine capacity ⟨h, s, i, inTime path w same⟩
      ⟨h', s, i, .done (.returned x)⟩ := by
  have routine : inTime path w same
      = pause.bind fun _ => (wait w).bind fun v => orFault (same ▸ v) := by
    unfold inTime
    rw [encodable]
    rfl
  have ending : orFault (same ▸ v) = .done (.returned x) := by
    rw [good]
    rfl
  have asked : Reaches Host.machine capacity ⟨h, s, i, wait w⟩ ⟨h', s, i, .done (.returned v)⟩ :=
    reaches_wait reply
  rw [routine]
  refine reaches_pause.bind (asked.bind ?_)
  rw [ending]
  exact .refl

/-! ### Directories -/

lemma reaches_makeDirectories {d : Disk} (encodable : pathFault? path = none)
    (made : h.disk.makeDirectories h.here path = .ok d) :
    Reaches Host.machine capacity ⟨h, s, i, makeDirectories path⟩
      ⟨h.onDisk d, s, i, .done (.returned ())⟩ := by
  have reply : Host.act 0 (.makeDirectories path) h = (.ok (), h.onDisk d) := by
    rw [Host.act, Host.makeDirectories, made]
    rfl
  exact reaches_atOnce encodable reply rfl

lemma reaches_makeTemporary {d : Disk} {beginning : String} {directory : Path}
    (encodable : pathFault? path = none)
    (fresh : h.freshPath path beginning (h.disk.nodes.length + 1) = directory)
    (made : h.disk.makeDirectory h.here directory = .ok d) :
    Reaches Host.machine capacity ⟨h, s, i, makeTemporary path beginning⟩
      ⟨h.onDisk d, s, i, .done (.returned directory)⟩ := by
  have makes := Host.makeTemporary_eq fresh made
  have reply : Host.act 0 (.makeTemporary path beginning) h = (.ok directory, h.onDisk d) := makes
  exact reaches_atOnce encodable reply rfl

/-! ### Files -/

/-- A new file has nothing in it. -/
lemma reaches_createFile (encodable : pathFault? path = none)
    (room : h.disk.HasRoom h.here path place) :
    Reaches Host.machine capacity ⟨h, s, i, createFile path⟩
      ⟨h.onDisk (h.disk.put place (.file ByteArray.empty)), s, i, .done (.returned ())⟩ := by
  have reply : Host.act 0 (.createFile path) h
      = (.ok (), h.onDisk (h.disk.put place (.file ByteArray.empty))) := by
    rw [Host.act, room.write]
    rfl
  exact reaches_atOnce encodable reply rfl

/-- What is appended to a file comes after what it holds. -/
lemma reaches_appendFile (encodable : pathFault? path = none)
    (holds : h.disk.Holds h.here path place content) (more : ByteArray) :
    Reaches Host.machine capacity ⟨h, s, i, appendFile path more⟩
      ⟨h.onDisk (h.disk.put place (.file (content ++ more))), s, i, .done (.returned ())⟩ := by
  have reply : Host.answer 0 (.append path more) h
      = (.ok (), h.onDisk (h.disk.put place (.file (content ++ more)))) := by
    rw [Host.answer, holds.append]
    rfl
  exact reaches_inTime encodable reply rfl

lemma reaches_writeFile (encodable : pathFault? path = none)
    (room : h.disk.HasRoom h.here path place) (content : ByteArray) :
    Reaches Host.machine capacity ⟨h, s, i, writeFile path content⟩
      ⟨h.onDisk (h.disk.put place (.file content)), s, i, .done (.returned ())⟩ := by
  have reply : Host.answer 0 (.write path content) h
      = (.ok (), h.onDisk (h.disk.put place (.file content))) := by
    rw [Host.answer, room.write]
    rfl
  exact reaches_inTime encodable reply rfl

/-! ## The files of an export -/

/-- A directory where the files of a timeline can be written. -/
structure Takes (h : Host) (directory : Path) (t : Timeline) : Prop where
  encodable : ∀ name ∈ t.inputNames, pathFault? (directory.child name) = none
  room : ∀ name ∈ t.inputNames, ∃ place, h.disk.HasRoom h.here (directory.child name) place

/-- Every file of a timeline has a slot of its own. -/
lemma Takes.exists_slots {directory : Path} {t : Timeline} (takes : Takes h directory t)
    {contents : List ByteArray} (length : contents.length = t.inputNames.length) :
    ∃ slots : List Slot, slots.map Slot.path = t.inputNames.map directory.child
      ∧ slots.map Slot.content = contents ∧ h.disk.Open h.here slots
      ∧ ∀ slot ∈ slots, pathFault? slot.path = none := by
  have isName : ∀ name ∈ t.inputNames, Path.IsName name := fun _ => isName_of_mem_fileNames
  obtain ⟨slots, paths, kept, opened⟩ :=
    Disk.exists_slots length (nodup_fileNames _ _) isName takes.room
  refine ⟨slots, paths, kept, opened, fun slot hs => ?_⟩
  have below : slot.path ∈ t.inputNames.map directory.child := paths ▸ List.mem_map_of_mem hs
  obtain ⟨name, hn, path⟩ := List.mem_map.mp below
  rw [← path]
  exact takes.encodable name hn

end Studio

end Montage
