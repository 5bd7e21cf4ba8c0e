import Mathlib.Tactic.Common
import Montage.Proofs.Disk.Children
import Montage.Proofs.Disk.Confinement

/-!
# Directories

Where a path leads is a matter of directories only.  A disk gets new ones without losing anything,
and once a path leads to one, making it again does nothing.

* `Disk.Directories` — every directory of one disk is one of another; `walk_of_way`,
  `walk_of_directories` — then paths lead where they led.
* `Disk.Rooted` — a path leads to a directory; **`rooted_of_makeDirectories`**,
  **`Rooted.makeDirectories_eq`** — so it does once the directory is made, and never more is made.
* `Disk.Opens` — nothing is different but that there are new directories; `Disk.Paves` — and these
  are on the way of a path.
* `Disk.Cleared` — nothing is left at a place and below it.
-/

namespace Montage

namespace Disk

variable {d d' d'' : Disk} {here place : Place} {path : Path} {name : String}

/-- Every directory of one disk is one of another.  It is all that a path needs to lead where it led
(`walk_of_directories`), so files do not come into it. -/
def Directories (d d' : Disk) : Prop :=
  ∀ place, d.node? place = some .directory → d'.node? place = some .directory

/-- Every directory of a disk is one of that disk. -/
lemma Directories.refl (d : Disk) : Directories d d := fun _ => id

/-- Having all directories of another disk goes on from disk to disk. -/
lemma Directories.trans (first : Directories d d') (rest : Directories d' d'') :
    Directories d d'' := fun place there => rest place (first place there)

/-- Putting a directory somewhere takes none away. -/
lemma directories_put (d : Disk) (place : Place) : Directories d (d.put place .directory) := by
  intro other there
  by_cases new : other = place
  · subst new
    by_cases top : other = []
    · subst top
      rfl
    · exact node?_put_self top
  · rwa [node?_put_of_ne new]

/-- **A path leads where it led** as long as no directory on the way is gone. -/
lemma walk_of_way {start last : Place} {parts : List String} (leads : d.walk start parts = .ok last)
    (kept : ∀ beginning, beginning <+: parts →
      d.node? (beginning.foldl Place.step start) = some .directory →
      d'.node? (beginning.foldl Place.step start) = some .directory) :
    d'.walk start parts = .ok last := by
  induction parts generalizing start with
  | nil => exact leads
  | cons part rest ih =>
      obtain ⟨directory, step⟩ := walk_cons_eq_ok.mp leads
      have later : ∀ {next}, Place.step start part = next → ∀ beginning, beginning <+: rest →
          d.node? (beginning.foldl Place.step next) = some .directory →
          d'.node? (beginning.foldl Place.step next) = some .directory := by
        rintro _ rfl beginning earlier
        exact kept (part :: beginning) ((List.prefix_cons_inj part).mpr earlier)
      refine walk_cons_eq_ok.mpr ⟨kept [] List.nil_prefix directory, ?_⟩
      rcases step with ⟨up, further⟩ | ⟨down, short, further⟩
      · exact .inl ⟨up, ih further (later (if_pos up))⟩
      · exact .inr ⟨down, short, ih further (later (if_neg down))⟩

/-- A walk that succeeds still does when there are more directories. -/
lemma walk_of_directories (more : Directories d d') {start last : Place} {parts : List String}
    (leads : d.walk start parts = .ok last) : d'.walk start parts = .ok last :=
  walk_of_way leads fun _ _ => more _

/-- So does a path. -/
lemma resolve_of_directories (more : Directories d d') (leads : d.resolve here path = .ok place) :
    d'.resolve here path = .ok place := by
  obtain ⟨short, walks⟩ := resolve_eq_ok.mp leads
  exact resolve_eq_ok.mpr ⟨short, walk_of_directories more walks⟩

/-- A path with two names at its end leads through a directory. -/
lemma above_of_resolve {rest : List String} {last : String}
    (leads : d.resolve here path = .ok place)
    (parts : path.parts = rest ++ [name, last]) (isName : Path.IsName name)
    (isLast : Path.IsName last) :
    ∃ above, place = above ++ [name, last] ∧ d.node? (above ++ [name]) = some .directory := by
  have walks := (resolve_eq_ok.mp leads).2
  rw [parts, walk_append] at walks
  cases first : d.walk (if path.isAbsolute then [] else here) rest with
  | error p =>
      rw [first] at walks
      cases walks
  | ok above =>
      rw [first] at walks
      rcases (walk_cons_eq_ok.mp walks).2 with ⟨up, -⟩ | ⟨-, -, further⟩
      · exact absurd up isName.notUp
      · refine ⟨above, ?_, (walk_cons_eq_ok.mp further).1⟩
        rw [eq_of_walk_name isLast further, List.append_assoc]
        rfl

/-! ## Paths that lead to a directory -/

/-- A path leads to a directory.  It is so once the directory has been made
(`rooted_of_makeDirectories`), and then it is never made again (`Rooted.makeDirectories_eq`). -/
structure Rooted (d : Disk) (here : Place) (path : Path) : Prop where
  leads : d.walk (if path.isAbsolute then [] else here) path.parts = .ok (path.destination here)
  there : d.node? (path.destination here) = some .directory

/-- The places on the way of a path, and the one at its end. -/
def OnTheWay (here : Place) (path : Path) (place : Place) : Prop :=
  ∃ parts, parts <+: path.parts ∧ place = { path with parts := parts }.destination here

/-- The destination of a path is on the way to it. -/
lemma onTheWay_destination (here : Place) (path : Path) :
    OnTheWay here path (path.destination here) := ⟨path.parts, List.prefix_rfl, rfl⟩

/-- There are directories all the way. -/
lemma Rooted.onTheWay (rooted : d.Rooted here path) (on : OnTheWay here path place) :
    d.node? place = some .directory := by
  obtain ⟨beginning, earlier, rfl⟩ := on
  have all : ∀ {parts : List String} {start last : Place}, d.walk start parts = .ok last →
      d.node? last = some .directory → ∀ {beginning}, beginning <+: parts →
      d.node? (beginning.foldl Place.step start) = some .directory := by
    intro parts
    induction parts with
    | nil =>
        rintro start _ ⟨⟩ there beginning earlier
        rwa [List.prefix_nil.mp earlier]
    | cons part rest ih =>
        intro start last leads there beginning earlier
        obtain ⟨directory, step⟩ := walk_cons_eq_ok.mp leads
        rcases List.prefix_cons_iff.mp earlier with rfl | ⟨beginning, rfl, later⟩
        · exact directory
        · rw [List.foldl_cons, Place.step]
          rcases step with ⟨up, further⟩ | ⟨down, -, further⟩
          · rw [if_pos up]
            exact ih further there later
          · rw [if_neg down]
            exact ih further there later
  exact all rooted.leads rooted.there earlier

/-- A directory stays where it is as long as all directories on the way to it do. -/
lemma Rooted.of_way (rooted : d.Rooted here path)
    (kept : ∀ place, OnTheWay here path place → d.node? place = some .directory →
      d'.node? place = some .directory) : d'.Rooted here path :=
  ⟨walk_of_way rooted.leads fun beginning earlier => kept _ ⟨beginning, earlier, rfl⟩,
    kept _ (onTheWay_destination here path) rooted.there⟩

/-- A directory stays where it is when no directory is lost. -/
lemma Rooted.of_directories (rooted : d.Rooted here path) (more : Directories d d') :
    d'.Rooted here path := rooted.of_way fun place _ => more place

/-- A directory that was found is there, with all above it. -/
lemma rooted_of_find (found : d.find here path = .ok (place, .directory)) : d.Rooted here path := by
  obtain ⟨rfl, there⟩ := find_eq_ok found
  obtain ⟨place, leads, -⟩ := bind_eq_ok.mp found
  obtain rfl := eq_destination leads
  exact ⟨(resolve_eq_ok.mp leads).2, there⟩

/-- What `isDirectory` calls a directory is one, with all above it. -/
lemma rooted_of_isDirectory (is : d.isDirectory here path = .ok true) : d.Rooted here path := by
  unfold isDirectory at is
  split at is
  · rename_i place found
    exact rooted_of_find found
  · cases is
  · cases is
  · cases is

/-- Where a directory is, none is made. -/
lemma Rooted.makeDirectory_ne (rooted : d.Rooted here path) :
    (∀ d', d.makeDirectory here path ≠ .ok d') ∧ d.makeDirectory here path ≠ .error .notFound := by
  have leads : ∀ place, d.resolve here path = .ok place → d.node? place = some .directory := by
    intro place leads
    rw [eq_destination leads]
    exact rooted.there
  constructor
  · intro d' made
    obtain ⟨place, found, vacant, -⟩ := makeDirectory_eq_ok.mp made
    cases vacant.symm.trans (leads place found)
  · intro missing
    unfold makeDirectory resolve at missing
    split at missing
    · cases missing
    · rcases bind_eq_error.mp missing with lost | ⟨place, found, there⟩
      · cases rooted.leads.symm.trans lost
      · cases rooted.leads.symm.trans found
        rw [rooted.there] at there
        cases there

/-- **Making a directory that is there does nothing.** -/
lemma Rooted.makeDirectories_eq (rooted : d.Rooted here path)
    (made : d.makeDirectories here path = .ok d') : d' = d := by
  obtain ⟨never, found⟩ := rooted.makeDirectory_ne
  have ensured : ∀ {d'}, d.ensureDirectory here path = .ok d' → d' = d := by
    intro d' made
    unfold ensureDirectory at made
    split at made
    · rename_i made'
      exact absurd made' (never _)
    · split at made
      · exact (Except.ok.inj made).symm
      · cases made
  unfold makeDirectories at made
  cases depth : path.parts.length with
  | zero =>
      rw [depth] at made
      exact ensured made
  | succ n =>
      rw [depth, makeDirectoriesWithin] at made
      split at made
      · rename_i missing
        exact absurd missing found
      · exact ensured made

/-- A directory that has been made is there. -/
lemma rooted_of_makeDirectory (made : d.makeDirectory here path = .ok d') :
    d'.Rooted here path := by
  obtain ⟨place, leads, vacant, rfl⟩ := makeDirectory_eq_ok.mp made
  obtain rfl := eq_destination leads
  have below : path.destination here ≠ [] := fun top => by
    rw [top] at vacant
    cases vacant
  exact ⟨walk_put (by rw [vacant]; nofun) (resolve_eq_ok.mp leads).2, node?_put_self below⟩

/-- A directory that was made is there. -/
lemma rooted_of_ensureDirectory (made : d.ensureDirectory here path = .ok d') :
    d'.Rooted here path := by
  unfold ensureDirectory at made
  split at made
  · rename_i made'
    cases made
    exact rooted_of_makeDirectory made'
  · split at made
    · rename_i is
      cases made
      refine rooted_of_isDirectory ?_
      cases found : d.isDirectory here path with
      | error p =>
          rw [found] at is
          cases is
      | ok answer =>
          rw [found] at is
          cases is
          rfl
    · cases made

/-- **Once a directory is made a path leads to it.** -/
lemma rooted_of_makeDirectories (made : d.makeDirectories here path = .ok d') :
    d'.Rooted here path := by
  unfold makeDirectories at made
  generalize path.parts.length = depth at made
  cases depth with
  | zero => exact rooted_of_ensureDirectory made
  | succ depth =>
      rw [makeDirectoriesWithin] at made
      split at made
      · split at made
        · cases made
        · obtain ⟨above, -, rest⟩ := bind_eq_ok.mp made
          exact rooted_of_ensureDirectory rest
      · exact rooted_of_ensureDirectory made

/-- A directory is made below one that is there. -/
lemma makeDirectory_child (isName : Path.IsName name)
    (made : d.makeDirectory here (path.child name) = .ok d') :
    d.Rooted here path ∧ d.node? (path.destination here ++ [name]) = none
      ∧ d' = d.put (path.destination here ++ [name]) .directory := by
  obtain ⟨place, leads, vacant, rfl⟩ := makeDirectory_eq_ok.mp made
  obtain ⟨-, above, before, last⟩ := (resolve_child_eq_ok isName).mp leads
  obtain rfl : above = path.destination here := eq_foldl_of_walk before
  obtain rfl := eq_of_walk_name isName last
  exact ⟨⟨before, (walk_cons_eq_ok.mp last).1⟩, vacant, rfl⟩

/-! ## New directories -/

/-- Nothing is different but that there are new directories, at certain places. -/
def Opens (among : Place → Prop) (d d' : Disk) : Prop :=
  ∀ place, d'.node? place = d.node? place
    ∨ d.node? place = none ∧ d'.node? place = some .directory ∧ among place

variable {among : Place → Prop}

/-- A disk differs from itself by no new directory. -/
lemma Opens.refl (d : Disk) : Opens among d d := fun _ => .inl rfl

/-- It does not matter if the new directories are looked for in more places. -/
lemma Opens.mono {among' : Place → Prop} (opens : Opens among d d')
    (more : ∀ place, among place → among' place) : Opens among' d d' :=
  fun place => (opens place).imp_right fun ⟨vacant, there, new⟩ => ⟨vacant, there, more _ new⟩

/-- New directories and then some more are new directories. -/
lemma Opens.trans (first : Opens among d d') (rest : Opens among d' d'') : Opens among d d'' := by
  intro place
  rcases rest place with same | ⟨vacant, there, new⟩
  · rw [same]
    exact first place
  · rcases first place with same | ⟨-, there', -⟩
    · exact .inr ⟨same ▸ vacant, there, new⟩
    · cases vacant.symm.trans there'

/-- Where nothing changes but that there are new directories, none is lost. -/
lemma Opens.directories (opens : Opens among d d') : Directories d d' := by
  intro place there
  rcases opens place with same | ⟨vacant, -⟩
  · rw [same, there]
  · cases vacant.symm.trans there

/-- Making a directory changes nothing but the place its path leads to. -/
lemma opens_makeDirectory (made : d.makeDirectory here path = .ok d')
    (new : among (path.destination here)) : Opens among d d' := by
  obtain ⟨place, leads, vacant, rfl⟩ := makeDirectory_eq_ok.mp made
  obtain rfl := eq_destination leads
  intro other
  by_cases here : other = path.destination here
  · subst here
    refine .inr ⟨vacant, node?_put_self fun top => ?_, new⟩
    rw [top] at vacant
    cases vacant
  · exact .inl (node?_put_of_ne here)

/-- Nor does making a directory where there may be one already. -/
lemma opens_ensureDirectory (made : d.ensureDirectory here path = .ok d')
    (new : among (path.destination here)) : Opens among d d' := by
  unfold ensureDirectory at made
  split at made
  · rename_i made'
    cases made
    exact opens_makeDirectory made' new
  · split at made
    · cases made
      exact .refl d
    · cases made

/-- **What is made is a directory to which a beginning of the path leads.** -/
lemma opens_makeDirectoriesWithin {depth : Nat}
    (made : d.makeDirectoriesWithin here path depth = .ok d')
    (new : ∀ parts, parts <+: path.parts → among ({ path with parts := parts }.destination here)) :
    Opens among d d' := by
  induction depth generalizing d' path with
  | zero => exact opens_ensureDirectory made (new _ List.prefix_rfl)
  | succ depth ih =>
      rw [makeDirectoriesWithin] at made
      split at made
      · split at made
        · cases made
        · obtain ⟨above, first, rest⟩ := bind_eq_ok.mp made
          have earlier := ih first fun parts beginning =>
            new parts (beginning.trans (List.dropLast_prefix _))
          exact earlier.trans (opens_ensureDirectory rest (new _ List.prefix_rfl))
      · exact opens_ensureDirectory made (new _ List.prefix_rfl)

/-- A path that does not go up leads down all the way. -/
lemma foldl_step_of_down {parts : List String} (down : ".." ∉ parts) (start : Place) :
    parts.foldl Place.step start = start ++ parts := by
  induction parts generalizing start with
  | nil => exact (List.append_nil start).symm
  | cons part rest ih =>
      have apart : part ≠ ".." := fun same => down (same ▸ List.mem_cons_self)
      have step : Place.step start part = start ++ [part] := if_neg apart
      have down : ".." ∉ rest := fun later => down (List.mem_cons_of_mem _ later)
      rw [List.foldl_cons, step, ih down, List.append_assoc, List.singleton_append]

/-- So nothing on its way is below its end. -/
lemma OnTheWay.above (on : OnTheWay here path place) (down : ".." ∉ path.parts) :
    place <+: path.destination here := by
  obtain ⟨parts, beginning, rfl⟩ := on
  have down' : ".." ∉ parts := fun up => down (beginning.subset up)
  rw [Path.destination, Path.destination, foldl_step_of_down down, foldl_step_of_down down']
  exact (List.prefix_append_right_inj _).mpr beginning

/-- A way is made: there are new directories on it, unless it was there already. -/
def Paves (here : Place) (path : Path) (d d' : Disk) : Prop :=
  Opens (fun place => OnTheWay here path place ∧ ¬ d.Rooted here path) d d'

/-- **Making directories makes a way.** -/
lemma paves_makeDirectories (made : d.makeDirectories here path = .ok d') :
    Paves here path d d' := by
  by_cases rooted : d.Rooted here path
  · rw [rooted.makeDirectories_eq made]
    exact .refl d
  · exact opens_makeDirectoriesWithin made fun parts beginning => ⟨⟨parts, beginning, rfl⟩, rooted⟩

/-! ## What is gone -/

/-- Nothing is left at a place and below it. -/
def Cleared (place : Place) (d : Disk) : Prop := ∀ other, place <+: other → d.node? other = none

/-- Nothing is different but what is gone; this is what deletions make of a disk, also those that
fail halfway (`shrinks_removeTree`). -/
def Shrinks (d d' : Disk) : Prop :=
  ∀ place, d'.node? place = d.node? place ∨ d'.node? place = none

/-- Nothing is new on a disk compared with itself. -/
lemma Shrinks.refl (d : Disk) : Shrinks d d := fun _ => .inl rfl

/-- What gets smaller twice is smaller. -/
lemma Shrinks.trans (first : Shrinks d d') (rest : Shrinks d' d'') : Shrinks d d'' := by
  intro place
  rcases rest place with same | gone
  · rw [same]
    exact first place
  · exact .inr gone

/-- A node that a filter drops is not found. -/
lemma lookup_filter_of_not {nodes : List (Place × DiskNode)} {p : Place → Bool}
    (out : p place = false) : (nodes.filter fun n => p n.1).lookup place = none := by
  rw [List.lookup_eq_none_iff]
  intro n kept
  obtain ⟨-, holds⟩ := List.mem_filter.mp kept
  refine bne_iff_ne.mpr fun (same : place = n.1) => ?_
  rw [← same, out] at holds
  cases holds

/-- After clearing, the places that were meant are empty and the others are as before. -/
lemma node?_clear {p : Place → Bool} (below : place ≠ []) :
    (d.clear p).node? place = if p place then none else d.node? place := by
  have nonempty : place.isEmpty = false := by simpa using below
  simp only [node?, clear, nonempty, Bool.false_eq_true, if_false]
  cases out : p place with
  | true => exact lookup_filter_of_not (p := fun n => !p n) (by rw [out]; rfl)
  | false => exact lookup_filter (p := fun n => !p n) (by rw [out]; rfl)

/-- Clearing places brings nothing new. -/
lemma shrinks_clear {p : Place → Bool} : Shrinks d (d.clear p) := by
  intro place
  by_cases top : place = []
  · rw [top]
    exact .inl rfl
  · rw [node?_clear top]
    split
    · exact .inr rfl
    · exact .inl rfl

/-- Neither does removing a tree, also where it fails halfway. -/
lemma shrinks_removeTree : Shrinks d (d.removeTree here path).2 := by
  unfold removeTree
  split
  · exact .refl d
  · exact .refl d
  · dsimp only
    split
    · exact shrinks_clear
    · exact shrinks_clear.trans shrinks_clear

/-- **What is removed is gone with everything in it.** -/
lemma cleared_removeTree (below : path.destination here ≠ [])
    (removed : (d.removeTree here path).1 = .ok ()) :
    Cleared (path.destination here) (d.removeTree here path).2 := by
  unfold removeTree at removed ⊢
  split at removed
  · cases removed
  · cases removed
  · rename_i place found
    dsimp only at removed ⊢
    split at removed
    · cases removed
    · rename_i place' node found'
      obtain rfl := (find_eq_ok found).1
      obtain rfl := (find_eq_ok found').1
      intro other lower
      have nonempty : other ≠ [] := fun top => below (List.prefix_nil.mp (top ▸ lower))
      rw [node?_clear nonempty]
      split
      · rfl
      · rename_i apart
        have apart : other ≠ path.destination here := fun same => apart (beq_iff_eq.mpr same)
        obtain ⟨rest, rfl⟩ := lower
        cases rest with
        | nil => exact absurd (List.append_nil _) apart
        | cons part rest =>
            have inside : path.destination here ++ [part]
                <+: path.destination here ++ part :: rest := ⟨rest, by simp⟩
            rw [node?_clear nonempty, if_pos (Disk.isBelow_of_append_prefix inside)]

end Disk

end Montage
