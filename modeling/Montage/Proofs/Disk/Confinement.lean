import Mathlib.Tactic.Common
import Montage.Proofs.Disk.Names

/-!
# What an operation leaves alone

Where a path leads can be read off its parts, on any disk: `..` goes back one step, and every other
part goes one step down.  A disk only decides **whether** the path leads there.  So what an
operation on a path can change is known beforehand.

* `Path.destination` — where a path leads; `Disk.eq_destination` — if it leads anywhere.
* `Path.destination_child` — a name leads one step further down.
* `Disk.SameBeside` — two disks with nothing different outside a place and what is below it.
* **`Disk.sameBeside_write`**, `Disk.sameBeside_unlink`, `Disk.sameBeside_removeTree` — **the
  operations on a path change nothing outside its destination**.
-/

namespace Montage

/-! ## Where paths lead -/

/-- One step from a place. -/
def Place.step (place : Place) (part : String) : Place :=
  if part = ".." then place.dropLast else place ++ [part]

namespace Path

variable {here : Place} {p : Path} {name : String}

/-- The place that a path leads to, if it leads anywhere. -/
def destination (here : Place) (p : Path) : Place :=
  p.parts.foldl Place.step (if p.isAbsolute then [] else here)

/-- **A name leads one step further down.** -/
lemma destination_child (h : IsName name) :
    (p.child name).destination here = p.destination here ++ [name] := by
  have step : ∀ place, Place.step place name = place ++ [name] := fun _ => if_neg h.notUp
  rw [child_eq h, destination, List.foldl_append, List.foldl_cons, List.foldl_nil, step]
  rfl

/-- The other text that is a single part of a path leads one step back. -/
lemma destination_child_up : (p.child "..").destination here = (p.destination here).dropLast := by
  have up : ofText ".." = ⟨.here, [".."]⟩ := rfl
  have child : p.child ".." = { p with parts := p.parts ++ [".."] } := by
    rw [Path.child, up]
    rfl
  rw [child, destination, List.foldl_append]
  rfl

end Path

namespace Disk

variable {d d' d'' : Disk} {here place other : Place} {path : Path} {node : DiskNode}

lemma eq_foldl_of_walk {start : Place} {parts : List String} (h : d.walk start parts = .ok place) :
    place = parts.foldl Place.step start := by
  induction parts generalizing start with
  | nil =>
      cases h
      rfl
  | cons part rest ih =>
      rw [List.foldl_cons, Place.step]
      obtain ⟨-, ⟨up, further⟩ | ⟨down, -, further⟩⟩ := walk_cons_eq_ok.mp h
      · rw [if_pos up]
        exact ih further
      · rw [if_neg down]
        exact ih further

/-- **A path that leads anywhere leads to its destination.** -/
lemma eq_destination (h : d.resolve here path = .ok place) : place = path.destination here :=
  eq_foldl_of_walk (resolve_eq_ok.mp h).2

lemma find_eq_ok (h : d.find here path = .ok (place, node)) :
    place = path.destination here ∧ d.node? place = some node := by
  obtain ⟨found, leads, there⟩ := bind_eq_ok.mp h
  cases hn : d.node? found with
  | none =>
      rw [hn] at there
      cases there
  | some node' =>
      rw [hn] at there
      cases there
      exact ⟨eq_destination leads, hn⟩

/-- What is read under a path is what is at its destination. -/
lemma node?_of_read {content : ByteArray} (h : d.read here path = .ok content) :
    d.node? (path.destination here) = some (.file content) := by
  obtain ⟨place, holds⟩ := read_eq_ok.mp h
  rw [← eq_destination holds.leads]
  exact holds.file

/-! ## What stays the same -/

/-- Nothing is different outside a place and what is below it. -/
def SameBeside (place : Place) (d d' : Disk) : Prop :=
  ∀ other, ¬ place <+: other → d'.node? other = d.node? other

lemma SameBeside.refl (place : Place) (d : Disk) : SameBeside place d d := fun _ _ => rfl

lemma SameBeside.trans (first : SameBeside place d d') (rest : SameBeside place d' d'') :
    SameBeside place d d'' :=
  fun other outside => (rest other outside).trans (first other outside)

lemma sameBeside_put (place : Place) (node : DiskNode) : SameBeside place d (d.put place node) :=
  fun other outside => node?_put_of_ne fun (same : other = place) =>
    outside (same ▸ List.prefix_rfl)

/-- Places that are cleared. -/
lemma sameBeside_clear {p : Place → Bool} (below : ∀ other, p other = true → place <+: other) :
    SameBeside place d (d.clear p) := by
  intro other outside
  have kept : (!p other) = true := by
    rw [Bool.not_eq_true']
    exact Bool.eq_false_iff.mpr fun cleared => outside (below other cleared)
  simp only [node?, clear, lookup_filter (p := fun n => !p n) kept]

lemma prefix_of_isBelow (h : isBelow place other = true) : place <+: other := by
  rw [isBelow, Bool.and_eq_true, beq_iff_eq] at h
  exact List.prefix_iff_eq_take.mpr h.2.symm

lemma isBelow_of_append_prefix {name : String} (h : place ++ [name] <+: other) :
    isBelow place other = true := by
  have shorter := h.length_le
  rw [List.length_append, List.length_singleton] at shorter
  rw [isBelow, Bool.and_eq_true, beq_iff_eq, decide_eq_true_eq]
  exact ⟨shorter, (List.prefix_iff_eq_take.mp ((List.prefix_append _ _).trans h)).symm⟩

/-! ## The operations -/

/-- **Writing a file changes nothing outside.** -/
lemma sameBeside_write {content : ByteArray} (h : d.write here path content = .ok d') :
    SameBeside (path.destination here) d d' := by
  obtain ⟨place, target, same⟩ := bind_eq_ok.mp h
  cases same
  rw [← eq_destination (hasRoom_iff.mpr target).leads]
  exact sameBeside_put place _

/-- **Nor does deleting a file**, … -/
lemma sameBeside_unlink (h : d.unlink here path = .ok d') :
    SameBeside (path.destination here) d d' := by
  rw [unlink] at h
  split at h
  · cases h
  · obtain ⟨⟨place, node⟩, found, same⟩ := bind_eq_ok.mp h
    cases node with
    | directory => cases same
    | file content =>
        cases same
        rw [← (find_eq_ok found).1]
        exact sameBeside_clear fun other cleared => eq_of_beq cleared ▸ List.prefix_rfl

/-- … and removing a directory with everything in it, whatever comes of that. -/
lemma sameBeside_removeTree : SameBeside (path.destination here) d (d.removeTree here path).2 := by
  unfold removeTree
  split
  · exact .refl _ d
  · exact .refl _ d
  · rename_i place found
    rw [← (find_eq_ok found).1]
    have emptied : SameBeside place d (d.clear (isBelow place)) :=
      sameBeside_clear fun _ => prefix_of_isBelow
    dsimp only
    split
    · exact emptied
    · rename_i found'
      -- the path leads to the same place as before
      refine emptied.trans ?_
      rw [(find_eq_ok found).1, ← (find_eq_ok found').1]
      exact sameBeside_clear fun other cleared => eq_of_beq cleared ▸ List.prefix_rfl

end Disk

end Montage
