import Mathlib.Tactic.Common
import Montage.Proofs.Disk.Names

/-!
# Files of a directory

A file of a directory is one step further than the directory.  A path to it can be read from
elsewhere, and then it leads there **exactly when the path to the directory does**.

* `Disk.walk_append` — a long way is a way after another one.
* `Disk.resolve_child_eq_ok`, `Disk.resolve_child_iff` — where a file of a directory is found.
* `Disk.resolve_again_ne` — a relative path that does not go up leads further down.
-/

namespace Montage

namespace Disk

variable {d : Disk} {here place : Place}

/-- A long way is a way after another one. -/
lemma walk_append (start : Place) (parts rest : List String) :
    d.walk start (parts ++ rest) = (d.walk start parts).bind fun middle => d.walk middle rest := by
  induction parts generalizing start with
  | nil => rfl
  | cons part parts ih =>
      rw [List.cons_append, walk, walk]
      cases d.node? start with
      | none => rfl
      | some found =>
          cases found with
          | file content => rfl
          | directory =>
              simp only
              split
              · exact ih _
              · split
                · rfl
                · exact ih _

/-- Without a step back a way leads straight down. -/
lemma eq_append_of_walk {start last : Place} {parts : List String} (down : ".." ∉ parts)
    (h : d.walk start parts = .ok last) : last = start ++ parts := by
  induction parts generalizing start with
  | nil =>
      cases h
      rw [List.append_nil]
  | cons part rest ih =>
      obtain ⟨-, ⟨up, -⟩ | ⟨-, -, further⟩⟩ := walk_cons_eq_ok.mp h
      · exact absurd (up ▸ List.mem_cons_self) down
      · rw [ih (fun hm => down (List.mem_cons_of_mem part hm)) further, List.append_assoc]
        rfl

/-- A file of a directory is one step further than the directory. -/
lemma resolve_child_eq_ok {directory : Path} {name : String} (isName : Path.IsName name)
    {file : Place} :
    d.resolve here (directory.child name) = .ok file
      ↔ Text.byteCount (directory.child name).text < pathLimit
        ∧ ∃ above, d.walk (if directory.isAbsolute then [] else here) directory.parts = .ok above
          ∧ d.walk above [name] = .ok file := by
  have root : (directory.child name).isAbsolute = directory.isAbsolute := by
    rw [Path.child_eq isName]
    rfl
  have parts : (directory.child name).parts = directory.parts ++ [name] := by
    rw [Path.child_eq isName]
  rw [resolve_eq_ok, root, parts, walk_append]
  cases d.walk (if directory.isAbsolute then [] else here) directory.parts with
  | error e => simp [Except.bind]
  | ok above => simp [Except.bind]

lemma eq_of_walk_name {name : String} (isName : Path.IsName name) {file : Place}
    (h : d.walk place [name] = .ok file) : file = place ++ [name] :=
  eq_append_of_walk (by simpa using isName.notUp.symm) h

/-- **A file of a directory is found from within it exactly when the directory is.** -/
lemma resolve_child_iff {directory : Path} {name : String} (isName : Path.IsName name)
    (leads : d.resolve here directory = .ok place) {file : Place}
    (saved : d.resolve here (directory.child name) = .ok file) :
    d.resolve place (directory.child name) = .ok file
      ↔ d.resolve place directory = .ok place := by
  obtain ⟨short, walks⟩ := resolve_eq_ok.mp leads
  obtain ⟨shortFile, above, before, last⟩ := (resolve_child_eq_ok isName).mp saved
  obtain rfl : above = place := Except.ok.inj (before.symm.trans walks)
  constructor
  · intro found
    obtain ⟨-, above', before', last'⟩ := (resolve_child_eq_ok isName).mp found
    have same : above ++ [name] = above' ++ [name] := by
      rw [← eq_of_walk_name isName last, ← eq_of_walk_name isName last']
    obtain rfl : above = above' := List.append_cancel_right same
    exact resolve_eq_ok.mpr ⟨short, before'⟩
  · intro again
    exact (resolve_child_eq_ok isName).mpr ⟨shortFile, above, (resolve_eq_ok.mp again).2, last⟩

/-- An absolute path leads to the same place from everywhere. -/
lemma resolve_absolute {path : Path} (absolute : path.isAbsolute = true) (other : Place) :
    d.resolve other path = d.resolve here path := by
  rw [resolve, resolve, absolute]
  rfl

/-- A relative path that does not go up leads further down from where it leads to. -/
lemma resolve_again_ne {path : Path} (relative : path.isAbsolute = false)
    (down : ".." ∉ path.parts) (some : path.parts ≠ []) : d.resolve place path ≠ .ok place := by
  intro again
  have walks := (resolve_eq_ok.mp again).2
  rw [relative] at walks
  exact some (List.self_eq_append_right.mp (eq_append_of_walk down walks))

end Disk

end Montage
