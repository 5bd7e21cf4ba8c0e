import Mathlib.Data.List.Forall2
import Mathlib.Data.List.Nodup
import Mathlib.Tactic.Common
import Montage.Proofs.Disk.Names

/-!
# Many files on a disk

Files are stored one after the other.  When all of them go to different places, each is found as it
was written, whatever was written after it.

* `Slot`, `Disk.Open` — a file that is to be stored; slots that may be filled in any order.
* `Disk.fill` — the disk after all of them, and `Disk.Open.holds_fill` — **what it holds**.
* `Disk.exists_slots` — the slots for files with different names below one path.
-/

namespace Montage

/-- A file that is to be stored: the path it is written under, the place where that leads, and what
is written. -/
structure Slot where
  path : Path
  place : Place
  content : ByteArray

namespace Disk

variable {d : Disk} {here : Place}

/-- Slots at different places where files may be written.  That the places differ is what keeps one
file from taking the place of another. -/
structure Open (d : Disk) (here : Place) (slots : List Slot) : Prop where
  room : ∀ s ∈ slots, d.HasRoom here s.path s.place
  apart : (slots.map Slot.place).Nodup

/-- The disk after all slots have been filled. -/
def fill (d : Disk) : List Slot → Disk
  | [] => d
  | s :: rest => fill (d.put s.place (.file s.content)) rest

/-! ## Filling -/

/-- What is written last at a place stays. -/
lemma put_put (place : Place) (old new : DiskNode) :
    (d.put place old).put place new = d.put place new := by
  simp [put, List.filter_filter]

lemma Open.head {s : Slot} {rest : List Slot} (h : d.Open here (s :: rest)) :
    d.HasRoom here s.path s.place :=
  h.room s List.mem_cons_self

/-- Once a slot is filled the others may still be filled. -/
lemma Open.tail {s : Slot} {rest : List Slot} (h : d.Open here (s :: rest)) :
    (d.put s.place (.file s.content)).Open here rest where
  room r hr := (h.room r (List.mem_cons_of_mem _ hr)).put h.head.free s.content
  apart := (List.nodup_cons.mp h.apart).2

lemma Open.notMem {s : Slot} {rest : List Slot} (h : d.Open here (s :: rest)) :
    ∀ r ∈ rest, s.place ≠ r.place := by
  intro r hr same
  refine (List.nodup_cons.mp h.apart).1 ?_
  rw [same]
  exact List.mem_map_of_mem hr

/-- A file at another place outlasts the filling. -/
lemma Holds.fill {path : Path} {place : Place} {content : ByteArray} {slots : List Slot}
    (h : d.Holds here path place content) (room : d.Open here slots)
    (apart : ∀ s ∈ slots, place ≠ s.place) : (d.fill slots).Holds here path place content := by
  induction slots generalizing d with
  | nil => exact h
  | cons s rest ih =>
      have later : ∀ r ∈ rest, place ≠ r.place := fun r hr => apart r (List.mem_cons_of_mem _ hr)
      exact ih (h.put room.head.free (apart s List.mem_cons_self) _) room.tail later

/-- **Every slot holds what was to be stored.** -/
lemma Open.holds_fill {slots : List Slot} (h : d.Open here slots) :
    ∀ s ∈ slots, (d.fill slots).Holds here s.path s.place s.content := by
  induction slots generalizing d with
  | nil => nofun
  | cons s rest ih =>
      intro r hr
      rcases List.mem_cons.mp hr with rfl | hr
      · exact (h.head.holds_put r.content).fill h.tail h.notMem
      · exact ih h.tail r hr

/-- What is read after the filling. -/
lemma Open.read_fill {slots : List Slot} (h : d.Open here slots) :
    List.Forall₂ (fun path content => (d.fill slots).read here path = .ok content)
      (slots.map Slot.path) (slots.map Slot.content) := by
  rw [List.forall₂_map_left_iff, List.forall₂_map_right_iff, List.forall₂_same]
  exact fun s hs => (h.holds_fill s hs).read

/-! ## Names below a path -/

/-- Files with different names below one path have slots of their own. -/
lemma exists_slots {parent : Path} {names : List String} {contents : List ByteArray}
    (length : contents.length = names.length) (distinct : names.Nodup)
    (isName : ∀ name ∈ names, Path.IsName name)
    (room : ∀ name ∈ names, ∃ place, d.HasRoom here (parent.child name) place) :
    ∃ slots : List Slot, slots.map Slot.path = names.map parent.child
      ∧ slots.map Slot.content = contents ∧ d.Open here slots := by
  induction names generalizing contents with
  | nil =>
      obtain rfl := List.eq_nil_of_length_eq_zero length
      exact ⟨[], rfl, rfl, ⟨nofun, List.nodup_nil⟩⟩
  | cons name names ih =>
      obtain ⟨content, contents, rfl⟩ := List.exists_cons_of_length_eq_add_one length
      obtain ⟨fresh, distinct⟩ := List.nodup_cons.mp distinct
      have first := isName name List.mem_cons_self
      have others := fun n hn => isName n (List.mem_cons_of_mem name hn)
      obtain ⟨place, here'⟩ := room name List.mem_cons_self
      obtain ⟨slots, paths, kept, opened⟩ := ih (Nat.succ.inj length) distinct others
        fun n hn => room n (List.mem_cons_of_mem _ hn)
      refine ⟨⟨parent.child name, place, content⟩ :: slots, ?_, ?_, ?_, ?_⟩
      · rw [List.map_cons, List.map_cons, paths]
      · rw [List.map_cons, kept]
      · intro s hs
        rcases List.mem_cons.mp hs with rfl | hs
        · exact here'
        · exact opened.room s hs
      · refine List.nodup_cons.mpr ⟨?_, opened.apart⟩
        intro hp
        obtain ⟨s, hs, same⟩ := List.mem_map.mp hp
        have below : s.path ∈ names.map parent.child := paths ▸ List.mem_map_of_mem hs
        obtain ⟨other, ho, path⟩ := List.mem_map.mp below
        have theirs := opened.room s hs
        rw [← path] at theirs
        refine HasRoom.ne_of_child first (others other ho) here' theirs ?_ same.symm
        rintro rfl
        exact fresh ho

end Disk

end Montage
