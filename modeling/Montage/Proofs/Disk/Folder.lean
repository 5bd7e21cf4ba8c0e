import Mathlib.Tactic.Common
import Montage.Proofs.Disk.Children

/-!
# A directory of one's own

Whoever has a directory for itself writes files in it one after the other, while others write
elsewhere.  The path to the directory may lead through places that others use, so it has to lead
there still.

* `Disk.Folder` — a path leads to a directory, and files are found in it.
* `Disk.Spares` — **others leave a directory alone**: it is found where it was, with all that is in
  it.
* `Folder.spared`, `Folder.write`, `Folder.append` — what the directory holds then.
* `Disk.Stocked` — a directory holds certain files and nothing else; `Stocked.spared`,
  `Stocked.write`, and **`Folder.within`** — what a program that runs in it finds.
-/

namespace Montage.Disk

variable {d d' : Disk} {here own : Place} {directory : Path} {name : String}
  {files : List (String × ByteArray)} {content old : ByteArray}

/-- A path leads to a directory, and files are found in it under their names. -/
structure Folder (d : Disk) (here own : Place) (directory : Path)
    (files : List (String × ByteArray)) : Prop where
  leads : d.resolve here directory = .ok own
  isDirectory : d.node? own = some .directory
  holds : ∀ f ∈ files, d.Holds here (directory.child f.1) (own ++ [f.1]) f.2

/-- Others leave a directory alone: its path leads where it led, and all below it is as it was. -/
structure Spares (here own : Place) (directory : Path) (d d' : Disk) : Prop where
  leads : d'.resolve here directory = .ok own
  same : ∀ place, own <+: place → d'.node? place = d.node? place

/-! ## Names in a directory -/

/-- A name in a directory leads to one place. -/
lemma eq_of_leads_child (isName : Path.IsName name) (leads : d.resolve here directory = .ok own)
    {place : Place} (found : d.resolve here (directory.child name) = .ok place) :
    place = own ++ [name] := by
  obtain ⟨-, above, before, last⟩ := (resolve_child_eq_ok isName).mp found
  obtain rfl : above = own := Except.ok.inj (before.symm.trans (resolve_eq_ok.mp leads).2)
  exact eq_of_walk_name isName last

/-- Where a name leads is a matter of the directory alone. -/
lemma resolve_child_of_spares (isName : Path.IsName name)
    (leads : d.resolve here directory = .ok own) (spares : Spares here own directory d d')
    {place : Place} (found : d.resolve here (directory.child name) = .ok place) :
    d'.resolve here (directory.child name) = .ok place := by
  obtain ⟨short, above, before, last⟩ := (resolve_child_eq_ok isName).mp found
  obtain rfl : above = own := Except.ok.inj (before.symm.trans (resolve_eq_ok.mp leads).2)
  refine (resolve_child_eq_ok isName).mpr ⟨short, above, (resolve_eq_ok.mp spares.leads).2, ?_⟩
  obtain ⟨there, step⟩ := walk_cons_eq_ok.mp last
  rw [← spares.same above (List.prefix_refl above)] at there
  exact walk_cons_eq_ok.mpr ⟨there, step⟩

/-! ## What a directory holds -/

namespace Folder

/-- Some of the files are found as well. -/
lemma mono (folder : d.Folder here own directory files) {some : List (String × ByteArray)}
    (sub : some ⊆ files) : d.Folder here own directory some :=
  ⟨folder.leads, folder.isDirectory, fun f among => folder.holds f (sub among)⟩

/-- **What others do elsewhere changes nothing in a directory.** -/
lemma spared (folder : d.Folder here own directory files) (isName : ∀ f ∈ files, Path.IsName f.1)
    (spares : Spares here own directory d d') : d'.Folder here own directory files where
  leads := spares.leads
  isDirectory := (spares.same own (List.prefix_refl own)).trans folder.isDirectory
  holds f among := by
    obtain ⟨found, file⟩ := folder.holds f among
    exact ⟨resolve_child_of_spares (isName f among) folder.leads spares found,
      (spares.same _ (List.prefix_append own [f.1])).trans file⟩

/-- A file more in a directory. -/
lemma put (folder : d.Folder here own directory files) (fresh : name ∉ files.map Prod.fst)
    (room : d.HasRoom here (directory.child name) (own ++ [name])) (content : ByteArray) :
    (d.put (own ++ [name]) (.file content)).Folder here own directory
      ((name, content) :: files) where
  leads := resolve_put room.free folder.leads
  isDirectory := by
    rw [node?_put_of_ne (by simp)]
    exact folder.isDirectory
  holds f among := by
    rcases List.mem_cons.mp among with rfl | among
    · exact room.holds_put content
    · refine (folder.holds f among).put room.free ?_ _
      intro same
      have : f.1 = name := by simpa using same
      exact fresh (this ▸ List.mem_map_of_mem among)

/-- A name in a directory may be written to at one place. -/
lemma hasRoom (folder : d.Folder here own directory files) (isName : Path.IsName name)
    {place : Place} (target : d.target here (directory.child name) = .ok place) :
    d.HasRoom here (directory.child name) (own ++ [name]) := by
  have room := hasRoom_iff.mpr target
  rwa [← eq_of_leads_child isName folder.leads room.leads]

lemma write (folder : d.Folder here own directory files) (isName : Path.IsName name)
    (fresh : name ∉ files.map Prod.fst)
    (written : d.write here (directory.child name) content = .ok d') :
    d'.Folder here own directory ((name, content) :: files) := by
  obtain ⟨place, target, -⟩ := bind_eq_ok.mp written
  have room := folder.hasRoom isName target
  cases written.symm.trans (room.write content)
  exact folder.put fresh room content

/-- What is appended to a file comes after what it holds. -/
lemma append (folder : d.Folder here own directory ((name, old) :: files))
    (fresh : name ∉ files.map Prod.fst)
    (appended : d.append here (directory.child name) content = .ok d') :
    d'.Folder here own directory ((name, old ++ content) :: files) := by
  have holds := folder.holds _ List.mem_cons_self
  cases appended.symm.trans (holds.append content)
  exact (folder.mono (List.subset_cons_self _ _)).put fresh holds.hasRoom _

/-- **A file of a directory is found from within it by its name alone.** -/
lemma within (folder : d.Folder here own directory files) (isName : Path.IsName name)
    (among : (name, content) ∈ files) : d.Holds own (Path.ofText name) (own ++ [name]) content := by
  obtain ⟨found, file⟩ := folder.holds _ among
  obtain ⟨-, above, -, last⟩ := (resolve_child_eq_ok isName).mp found
  obtain rfl : above = own := (List.append_cancel_right (eq_of_walk_name isName last)).symm
  have short : Text.byteCount name ≤ nameLimit := by
    rcases (walk_cons_eq_ok.mp last).2 with ⟨up, -⟩ | ⟨-, short, -⟩
    · exact absurd up isName.notUp
    · exact short
  have text : (Path.ofText name).text = name := by simp [isName.ofText_eq, Path.text, Path.rootText]
  refine ⟨resolve_eq_ok.mpr ⟨?_, ?_⟩, file⟩
  · rw [text]
    exact Nat.lt_of_le_of_lt short (by decide)
  · simpa [isName.ofText_eq, Path.isAbsolute] using last

end Folder

/-! ## Nothing but these files -/

/-- A directory holds certain files and nothing else, not even below other directories in it. -/
structure Stocked (d : Disk) (here own : Place) (directory : Path)
    (files : List (String × ByteArray)) : Prop extends Folder d here own directory files where
  only : ∀ place, own <+: place → place ≠ own → d.node? place ≠ none →
    ∃ f ∈ files, place = own ++ [f.1]

namespace Stocked

lemma spared (stocked : d.Stocked here own directory files) (isName : ∀ f ∈ files, Path.IsName f.1)
    (spares : Spares here own directory d d') : d'.Stocked here own directory files where
  toFolder := stocked.toFolder.spared isName spares
  only place below apart there := by
    rw [spares.same place below] at there
    exact stocked.only place below apart there

lemma write (stocked : d.Stocked here own directory files) (isName : Path.IsName name)
    (fresh : name ∉ files.map Prod.fst)
    (written : d.write here (directory.child name) content = .ok d') :
    d'.Stocked here own directory ((name, content) :: files) where
  toFolder := stocked.toFolder.write isName fresh written
  only place below apart there := by
    obtain ⟨target, leads, -⟩ := bind_eq_ok.mp written
    have room := stocked.hasRoom isName leads
    cases written.symm.trans (room.write content)
    by_cases here : place = own ++ [name]
    · exact ⟨(name, content), List.mem_cons_self, here⟩
    · rw [node?_put_of_ne here] at there
      obtain ⟨f, among, same⟩ := stocked.only place below apart there
      exact ⟨f, List.mem_cons_of_mem _ among, same⟩

end Stocked

end Montage.Disk
