import Mathlib.Tactic.Common
import Montage.Disk.Basic
import Montage.Proofs.Steps

/-!
# Files on a disk

A path leads through directories to a place, and writing a file changes what is at one place.  So
paths keep leading where they led, and **what is read under other paths stays what it was**.

* `Disk.HasRoom`, `Disk.Holds` — a path may be written to; a path leads to a file.
* `Disk.HasRoom.write`, `Disk.Holds.append`, `Disk.Holds.read` — the operations on such paths.
* `Disk.HasRoom.put`, `Disk.Holds.put` — what another file changes.
* `Disk.read_eq_ok`, `Disk.read_write` — what is read.
* `Disk.Holds.makeDirectory`, `Disk.Holds.makeDirectoriesWithin` — new directories change no file.
-/

namespace Montage

deriving instance DecidableEq for Disk

namespace Disk

variable {d : Disk} {here : Place} {path : Path} {place other : Place} {node : DiskNode}

/-! ## Places -/

/-- What is kept is found where it was. -/
lemma lookup_filter {nodes : List (Place × DiskNode)} {p : Place → Bool} (kept : p other = true) :
    (nodes.filter fun n => p n.1).lookup other = nodes.lookup other := by
  induction nodes with
  | nil => rfl
  | cons n rest ih =>
      obtain ⟨place, node⟩ := n
      by_cases same : other = place
      · subst same
        rw [List.filter_cons_of_pos (by exact kept), List.lookup_cons, List.lookup_cons, ih]
      · rw [List.filter_cons, List.lookup_cons, beq_false_of_ne same]
        split
        · rw [List.lookup_cons, beq_false_of_ne same, ih]
        · exact ih

/-- What is put at a place is there … -/
lemma node?_put_self (h : place ≠ []) : (d.put place node).node? place = some node := by
  simp [node?, put, h]

/-- … and all other places are as before. -/
lemma node?_put_of_ne (h : other ≠ place) : (d.put place node).node? other = d.node? other := by
  simp only [node?, put, List.lookup_cons, beq_false_of_ne h,
    lookup_filter (p := fun p => decide (p ≠ place)) (decide_eq_true h)]

/-! ## Paths keep leading where they led -/

/-- A step leads on from a directory only, back or further down. -/
lemma walk_cons_eq_ok {start last : Place} {part : String} {rest : List String} :
    d.walk start (part :: rest) = .ok last
      ↔ d.node? start = some .directory
        ∧ ((part = ".." ∧ d.walk start.dropLast rest = .ok last)
          ∨ (part ≠ ".." ∧ Text.byteCount part ≤ nameLimit
            ∧ d.walk (start ++ [part]) rest = .ok last)) := by
  rw [walk]
  cases d.node? start with
  | none => simp
  | some found =>
      cases found with
      | file content => simp
      | directory =>
          by_cases up : part = ".."
          · simp [up]
          · by_cases long : nameLimit < Text.byteCount part
            · simp [up, long, Nat.not_le_of_lt long]
            · simp [up, long, Nat.le_of_not_lt long]

/-- Nothing that a path leads through is a place where a file may be put. -/
lemma walk_put (free : d.node? place ≠ some .directory) {start : Place} {parts : List String}
    {last : Place} (h : d.walk start parts = .ok last) :
    (d.put place node).walk start parts = .ok last := by
  induction parts generalizing start with
  | nil => exact h
  | cons part rest ih =>
      obtain ⟨directory, step⟩ := walk_cons_eq_ok.mp h
      have apart : start ≠ place := by
        rintro rfl
        exact free directory
      refine walk_cons_eq_ok.mpr ⟨by rw [node?_put_of_ne apart, directory], ?_⟩
      rcases step with ⟨up, further⟩ | ⟨down, short, further⟩
      · exact .inl ⟨up, ih further⟩
      · exact .inr ⟨down, short, ih further⟩

/-- A path leads somewhere when it is not too long and each step of it does. -/
lemma resolve_eq_ok :
    d.resolve here path = .ok place
      ↔ Text.byteCount path.text < pathLimit
        ∧ d.walk (if path.isAbsolute then [] else here) path.parts = .ok place := by
  unfold resolve
  split
  · rename_i long
    simp [Nat.not_lt_of_le long]
  · rename_i short
    simp [Nat.lt_of_not_le short]

/-- Putting something where no directory is leads no path astray. -/
lemma resolve_put (free : d.node? place ≠ some .directory) {last : Place}
    (h : d.resolve here path = .ok last) : (d.put place node).resolve here path = .ok last := by
  obtain ⟨short, leads⟩ := resolve_eq_ok.mp h
  exact resolve_eq_ok.mpr ⟨short, walk_put free leads⟩

/-! ## Paths that may be written to, and paths that lead to a file -/

/-- A file may be written under a path, at a place. -/
structure HasRoom (d : Disk) (here : Place) (path : Path) (place : Place) : Prop where
  leads : d.resolve here path = .ok place
  free : d.node? place ≠ some .directory
  above : d.node? place = none → d.node? place.dropLast = some .directory

/-- A path leads to a file with a given content; `Holds.read` and `Holds.append` say what this is
good for. -/
structure Holds (d : Disk) (here : Place) (path : Path) (place : Place) (content : ByteArray) :
    Prop where
  leads : d.resolve here path = .ok place
  file : d.node? place = some (.file content)

/-- There is room for a file exactly where the path has a target. -/
lemma hasRoom_iff : d.HasRoom here path place ↔ d.target here path = .ok place := by
  rw [target, bind_eq_ok]
  constructor
  · intro h
    refine ⟨place, h.leads, ?_⟩
    cases hn : d.node? place with
    | none => simp only [h.above hn, pure, Except.pure]
    | some found =>
        cases found with
        | file content => rfl
        | directory => exact absurd hn h.free
  · rintro ⟨target, leads, found⟩
    cases hn : d.node? target with
    | none =>
        rw [hn] at found
        cases above : d.node? target.dropLast with
        | none => rw [above] at found; cases found
        | some node =>
            rw [above] at found
            cases node with
            | file content => cases found
            | directory =>
                cases found
                exact ⟨leads, by rw [hn]; nofun, fun _ => above⟩
    | some node =>
        rw [hn] at found
        cases node with
        | file content =>
            cases found
            exact ⟨leads, by rw [hn]; nofun, by rw [hn]; nofun⟩
        | directory => cases found

/-- There is no room for a file at the root. -/
lemma HasRoom.ne_nil (h : d.HasRoom here path place) : place ≠ [] := by
  rintro rfl
  exact h.free rfl

/-- Where there is room, writing puts the file there. -/
lemma HasRoom.write (h : d.HasRoom here path place) (content : ByteArray) :
    d.write here path content = .ok (d.put place (.file content)) := by
  rw [Disk.write, hasRoom_iff.mp h]
  rfl

/-- A file may be written in place of another one. -/
lemma Holds.hasRoom {content : ByteArray} (h : d.Holds here path place content) :
    d.HasRoom here path place where
  leads := h.leads
  free := by rw [h.file]; nofun
  above := by rw [h.file]; nofun

/-- What is appended to a file comes after what it held. -/
lemma Holds.append {old : ByteArray} (h : d.Holds here path place old) (content : ByteArray) :
    d.append here path content = .ok (d.put place (.file (old ++ content))) := by
  rw [Disk.append, hasRoom_iff.mp h.hasRoom]
  simp only [bind, Except.bind, h.file]
  rfl

/-- What a file holds is read. -/
lemma Holds.read {content : ByteArray} (h : d.Holds here path place content) :
    d.read here path = .ok content := by
  simp [Disk.read, find, h.leads, h.file, bind, Except.bind, pure, Except.pure]

/-! ## What another file changes -/

/-- A file that is put where there is room is held there … -/
lemma HasRoom.holds_put (h : d.HasRoom here path place) (content : ByteArray) :
    (d.put place (.file content)).Holds here path place content :=
  ⟨resolve_put h.free h.leads, node?_put_self h.ne_nil⟩

/-- … and there is still room for it after another file was put. -/
lemma HasRoom.put (h : d.HasRoom here path place) (free : d.node? other ≠ some .directory)
    (content : ByteArray) : (d.put other (.file content)).HasRoom here path place := by
  by_cases same : place = other
  · have file : (d.put place (.file content)).node? place = some (.file content) :=
      node?_put_self h.ne_nil
    rw [same] at file
    refine ⟨resolve_put free h.leads, ?_, ?_⟩ <;> (rw [same, file]; nofun)
  · refine ⟨resolve_put free h.leads, ?_, fun missing => ?_⟩
    · rw [node?_put_of_ne same]
      exact h.free
    · rw [node?_put_of_ne same] at missing
      have above := h.above missing
      have apart : place.dropLast ≠ other := by
        intro below
        rw [below] at above
        exact free above
      rw [node?_put_of_ne apart, above]

/-- **What is read under a path is not changed by a file at another place.** -/
lemma Holds.put {content : ByteArray} (h : d.Holds here path place content)
    (free : d.node? other ≠ some .directory) (apart : place ≠ other) (node : DiskNode) :
    (d.put other node).Holds here path place content :=
  ⟨resolve_put free h.leads, by rw [node?_put_of_ne apart, h.file]⟩

/-- What can be read is a file that the path leads to. -/
lemma read_eq_ok {content : ByteArray} :
    d.read here path = .ok content ↔ ∃ place, d.Holds here path place content := by
  refine ⟨fun read => ?_, fun ⟨place, holds⟩ => holds.read⟩
  rw [Disk.read, bind_eq_ok] at read
  obtain ⟨⟨place, node⟩, found, read⟩ := read
  rw [find, bind_eq_ok] at found
  obtain ⟨place', leads, found⟩ := found
  cases node with
  | directory => cases read
  | file other =>
      cases read
      cases there : d.node? place' with
      | none =>
          rw [there] at found
          cases found
      | some node =>
          rw [there] at found
          cases found
          exact ⟨place, leads, there⟩

/-- What is written under a path can be read there. -/
lemma read_write {d' : Disk} {content : ByteArray} (written : d.write here path content = .ok d') :
    d'.read here path = .ok content := by
  obtain ⟨place, room, same⟩ := bind_eq_ok.mp written
  cases same
  exact ((hasRoom_iff.mpr room).holds_put content).read

/-! ## Directories -/

section Directories

variable {d' : Disk} {p : Path} {content : ByteArray}

/-- A new directory is made where nothing was. -/
lemma makeDirectory_eq_ok : d.makeDirectory here p = .ok d'
    ↔ ∃ place, d.resolve here p = .ok place ∧ d.node? place = none ∧ d' = d.put place .directory := by
  rw [makeDirectory, bind_eq_ok]
  refine exists_congr fun place => and_congr_right fun _ => ?_
  cases d.node? place with
  | none =>
      dsimp only
      rw [pure_eq_ok, eq_comm]
      exact (and_iff_right rfl).symm
  | some node => simp

/-- **Files stay when a directory is made.** -/
lemma Holds.makeDirectory (h : d.Holds here path place content)
    (made : d.makeDirectory here p = .ok d') : d'.Holds here path place content := by
  obtain ⟨other, -, vacant, rfl⟩ := makeDirectory_eq_ok.mp made
  refine h.put ?_ ?_ _
  · rw [vacant]
    nofun
  · rintro rfl
    cases vacant.symm.trans h.file

/-- Making a directory that may be there already leaves files as they are. -/
lemma Holds.ensureDirectory (h : d.Holds here path place content)
    (made : d.ensureDirectory here p = .ok d') : d'.Holds here path place content := by
  rw [Disk.ensureDirectory] at made
  split at made
  · rename_i made'
    cases made
    exact h.makeDirectory made'
  · split at made
    · cases made
      exact h
    · cases made

/-- So does making a directory with those above it. -/
lemma Holds.makeDirectoriesWithin (h : d.Holds here path place content) {depth : Nat}
    (made : d.makeDirectoriesWithin here p depth = .ok d') : d'.Holds here path place content := by
  induction depth generalizing d' p with
  | zero => exact h.ensureDirectory made
  | succ depth ih =>
      rw [Disk.makeDirectoriesWithin] at made
      split at made
      · split at made
        · cases made
        · obtain ⟨above, first, rest⟩ := bind_eq_ok.mp made
          exact (ih first).ensureDirectory rest
      · exact h.ensureDirectory made

end Directories

end Disk

end Montage
