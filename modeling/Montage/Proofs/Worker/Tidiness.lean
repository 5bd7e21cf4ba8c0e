import Mathlib.Logic.Function.Basic
import Mathlib.Tactic.Common
import Montage.Proofs.Studio.Premises
import Montage.Proofs.Worker.Lodging

/-!
# Many requests on one disk

The directories of all requests lie beside each other.  A request works in its own one only, so what
is on the disk besides is what was there before, whatever the others do; and once a directory is
removed, nothing tells that it was ever there.

* `Worker.Allotted`, `Worker.Sole` — a directory that was made for a request, and one that no other
  directory can be taken for.
* `Worker.Tidy` — the disk while requests are at work.
* `Tidy.paves`, `Tidy.opened`, `Tidy.worked`, `Tidy.removed` — it stays tidy, whatever a request
  does; **`Worker.tidy_after`** — so it does after every entry.
* `Worker.Confined` — an entry that changes nothing but its request's own directory.
-/

namespace Montage

open Disk

/-! ## Directories of requests -/

namespace Worker

variable {here place : Place} {root directory other : Path} {d₀ d d' : Disk} {name : String}

/-- A directory that was made for a request where nothing was. -/
structure Allotted (here : Place) (root : Path) (d₀ : Disk) (directory : Path) : Prop where
  named : ∃ name, Path.IsName name ∧ directory = root.child name
  /-- The way to the directory of all requests does not lead through it. -/
  aside : ∀ place, OnTheWay here root place → ¬ directory.destination here <+: place
  vacant : ∀ place, directory.destination here <+: place → d₀.node? place = none

/-- A directory is there, and no other on the disk has its name, wherever it may be. -/
structure Sole (here : Place) (d : Disk) (directory : Path) : Prop where
  there : d.node? (directory.destination here) = some .directory
  only : ∀ place, d.node? place = some .directory →
    place.getLast? = (directory.destination here).getLast? → place = directory.destination here

lemma Allotted.eq_of_prefix (own : Allotted here root d₀ directory)
    (own' : Allotted here root d₀ other) (below : directory.destination here <+: place)
    (below' : other.destination here <+: place) : directory = other := by
  obtain ⟨a, isName, rfl⟩ := own.named
  obtain ⟨b, isName', rfl⟩ := own'.named
  rw [Path.destination_child isName] at below
  rw [Path.destination_child isName'] at below'
  have same := (List.prefix_of_prefix_length_le below below' (by simp)).eq_of_length (by simp)
  rw [List.append_cancel_left_eq, List.singleton_inj] at same
  rw [same]

lemma Allotted.below (own : Allotted here root d₀ directory) : directory.destination here ≠ [] := by
  obtain ⟨a, isName, rfl⟩ := own.named
  rw [Path.destination_child isName]
  exact List.concat_ne_nil _ _

/-- The same directories make the same names sole. -/
lemma Sole.of_sameDirectories (sole : Sole here d directory) (same : SameDirectories d d') :
    Sole here d' directory :=
  ⟨(same _).mpr sole.there, fun place there => sole.only place ((same place).mp there)⟩

/-- Nothing else has a name that occurs nowhere. -/
lemma sole_put (isName : Path.IsName name)
    (fresh : ∀ place, name ∈ place → d.node? place = none) :
    Sole here (d.put ((root.child name).destination here) .directory) (root.child name) := by
  rw [Path.destination_child isName]
  refine ⟨?_, fun place there same => ?_⟩
  · rw [Path.destination_child isName, node?_put_self (List.concat_ne_nil _ _)]
  · rw [Path.destination_child isName] at same ⊢
    by_contra other
    rw [node?_put_of_ne other, fresh place (List.mem_of_getLast? (same.trans (by simp)))] at there
    cases there

/-- A directory stays sole when one with another name is made. -/
lemma Sole.put (sole : Sole here d directory) (isName : Path.IsName name)
    (other : name ∉ directory.destination here) :
    Sole here (d.put ((root.child name).destination here) .directory) directory := by
  refine ⟨directories_put _ _ _ sole.there, fun place there same => ?_⟩
  by_cases new : place = (root.child name).destination here
  · rw [new, Path.destination_child isName, List.getLast?_concat] at same
    exact absurd (List.mem_of_getLast? same.symm) other
  · rw [node?_put_of_ne new] at there
    exact sole.only place there same

/-! ## The disk while requests are at work -/

/-- A place that is as it was, or a new directory on the way to where requests have theirs. -/
def Unchanged (here : Place) (root : Path) (d₀ d : Disk) (place : Place) : Prop :=
  d.node? place = d₀.node? place
    ∨ d₀.node? place = none ∧ d.node? place = some .directory
      ∧ OnTheWay here root place ∧ ¬ d₀.Rooted here root

/-- Requests have come so far with their directories, and nothing is different besides. -/
structure Tidy (here : Place) (root : Path) (d₀ : Disk) (stays : TaskId → Stay) (d : Disk) :
    Prop where
  allotted : ∀ i directory, (stays i).directory? = some directory →
    Allotted here root d₀ directory
  rooted : ∀ i directory, (stays i).directory? = some directory → d.Rooted here root
  outside : ∀ place, (∀ i directory, (stays i).directory? = some directory →
    ¬ directory.destination here <+: place) → Unchanged here root d₀ d place
  sole : ∀ i directory, stays i = .inside directory → Sole here d directory
  apart : ∀ i j directory, stays i = .inside directory → stays j = .inside directory → i = j

section Tidy

variable {stays : TaskId → Stay} {t i : TaskId}

/-- What holds of everybody after something has happened to one. -/
lemma update_iff (P : Stay → Prop) {s : Stay} :
    P (Function.update stays t s i) ↔ i = t ∧ P s ∨ i ≠ t ∧ P (stays i) := by
  by_cases own : i = t
  · subst own
    simp
  · simp [own]

lemma tidy_start (here : Place) (root : Path) (d₀ : Disk) :
    Tidy here root d₀ (fun _ => .without) d₀ where
  allotted _ _ := nofun
  rooted _ _ := nofun
  outside _ _ := .inl rfl
  sole _ _ := nofun
  apart _ _ _ := nofun

/-- Where nothing is different all is as tidy as before. -/
lemma Tidy.of_same (tidy : Tidy here root d₀ stays d)
    (same : ∀ place, d'.node? place = d.node? place) : Tidy here root d₀ stays d' where
  allotted := tidy.allotted
  rooted i directory stay := (tidy.rooted i directory stay).of_directories fun place there => by
    rwa [same]
  outside place apart := by
    rw [Unchanged, same]
    exact tidy.outside place apart
  sole i directory stay := (tidy.sole i directory stay).of_sameDirectories fun place => by rw [same]
  apart := tidy.apart

/-- **The way is made once**: as long as anyone has a directory it is there. -/
lemma Tidy.paves (tidy : Tidy here root d₀ stays d) (paves : d.Paves here root d') :
    Tidy here root d₀ stays d' := by
  by_cases rooted : d.Rooted here root
  · refine tidy.of_same fun place => ?_
    rcases paves place with same | ⟨-, -, -, unrooted⟩
    · exact same
    · exact absurd rooted unrooted
  · have nobody : ∀ i directory, (stays i).directory? ≠ some directory := fun i directory stay =>
      rooted (tidy.rooted i directory stay)
    have all : ∀ place, Unchanged here root d₀ d place := fun place =>
      tidy.outside place fun i directory stay => absurd stay (nobody i directory)
    have unrooted : ¬ d₀.Rooted here root := fun rooted₀ =>
      rooted (rooted₀.of_directories (Opens.directories all))
    have opens : d.Opens (fun place => OnTheWay here root place ∧ ¬ d₀.Rooted here root) d' :=
      Opens.mono paves fun place new => ⟨new.1, unrooted⟩
    exact {
      allotted := tidy.allotted
      rooted := fun i directory stay => absurd stay (nobody i directory)
      outside := fun place _ => Opens.trans all opens place
      sole := fun i directory stay => absurd (by rw [stay]; rfl) (nobody i directory)
      apart := tidy.apart }

/-- A new directory is nobody's, and was nobody's before. -/
lemma Tidy.allots (tidy : Tidy here root d₀ stays d) (rooted : d.Rooted here root)
    (isName : Path.IsName name)
    (free : ∀ place, (root.child name).destination here <+: place → d.node? place = none) :
    Allotted here root d₀ (root.child name) := by
  refine ⟨⟨name, isName, rfl⟩, fun place on below => ?_, fun place below => ?_⟩
  · cases (rooted.onTheWay on).symm.trans (free place below)
  · by_cases old : ∃ i directory, (stays i).directory? = some directory
        ∧ directory.destination here <+: place
    · obtain ⟨i, directory, stay, below'⟩ := old
      exact (tidy.allotted i directory stay).vacant place below'
    · rcases tidy.outside place fun i directory stay below' => old ⟨i, directory, stay, below'⟩
        with same | ⟨vacant, -⟩
      · rw [← same, free place below]
      · exact vacant

/-- Whoever has a directory has it under another name. -/
lemma Tidy.elsewhere (tidy : Tidy here root d₀ stays d)
    (fresh : ∀ place, name ∈ place → d.node? place = none) (stay : stays i = .inside directory) :
    name ∉ directory.destination here := fun among => by
  cases (tidy.sole i directory stay).there.symm.trans (fresh _ among)

/-- **A new directory** with a name that occurs nowhere. -/
lemma Tidy.opened (tidy : Tidy here root d₀ stays d) (without : (stays t).directory? = none)
    (isName : Path.IsName name) (made : d.makeDirectory here (root.child name) = .ok d')
    (fresh : ∀ place, name ∈ place → d.node? place = none) :
    Tidy here root d₀ (Function.update stays t (.inside (root.child name))) d' := by
  obtain ⟨rooted, -, rfl⟩ := makeDirectory_child isName made
  rw [← Path.destination_child isName]
  have named : name ∈ (root.child name).destination here := by
    rw [Path.destination_child isName]
    simp
  have allotted := tidy.allots rooted isName fun place below => fresh place (below.subset named)
  refine ⟨fun i directory stay => ?_, fun _ _ _ => rooted.of_directories (directories_put _ _),
    fun place apart => ?_, fun i directory stay => ?_, fun i j directory stay stay' => ?_⟩
  · rcases (update_iff fun s => s.directory? = some directory).mp stay with
      ⟨-, same⟩ | ⟨-, stay⟩
    · cases same
      exact allotted
    · exact tidy.allotted i directory stay
  · have aside : place ≠ (root.child name).destination here := by
      rintro rfl
      exact apart t _ (by rw [Function.update_self]; rfl) List.prefix_rfl
    rw [Unchanged, node?_put_of_ne aside]
    refine tidy.outside place fun i directory stay => apart i directory ?_
    have other : i ≠ t := by
      rintro rfl
      cases without.symm.trans stay
    rwa [Function.update_of_ne other]
  · rcases (update_iff (· = .inside directory)).mp stay with ⟨-, same⟩ | ⟨-, stay⟩
    · cases same
      exact sole_put isName fresh
    · exact (tidy.sole i directory stay).put isName (tidy.elsewhere fresh stay)
  · rcases (update_iff (· = .inside directory)).mp stay with ⟨own, same⟩ | ⟨-, had⟩
    · cases same
      rcases (update_iff (· = .inside _)).mp stay' with ⟨own', -⟩ | ⟨-, had⟩
      · rw [own, own']
      · exact absurd named (tidy.elsewhere fresh had)
    · rcases (update_iff (· = .inside directory)).mp stay' with ⟨-, same⟩ | ⟨-, had'⟩
      · cases same
        exact absurd named (tidy.elsewhere fresh had)
      · exact tidy.apart i j directory had had'

/-- **Work in a directory.** -/
lemma Tidy.worked (tidy : Tidy here root d₀ stays d) (stay : stays t = .inside directory)
    (same : SameDirectories d d') (beside : SameBeside (directory.destination here) d d') :
    Tidy here root d₀ stays d' where
  allotted := tidy.allotted
  rooted i directory stay := (tidy.rooted i directory stay).of_directories fun place =>
    (same place).mpr
  outside place apart := by
    rw [Unchanged, beside place (apart t directory (by rw [stay]; rfl))]
    exact tidy.outside place apart
  sole i directory stay := (tidy.sole i directory stay).of_sameDirectories same
  apart := tidy.apart

/-- **The removal of a directory.** -/
lemma Tidy.removed {v : Except OsError Unit} (tidy : Tidy here root d₀ stays d)
    (stay : stays t = .inside directory) (removed : d.Removed here directory v d') :
    Tidy here root d₀ (Function.update stays t (.removed directory v)) d' := by
  have had : (stays t).directory? = some directory := by
    rw [stay]
    rfl
  have own := tidy.allotted t directory had
  have others : ∀ {i other}, Function.update stays t (.removed directory v) i = .inside other →
      i ≠ t ∧ stays i = .inside other := by
    intro i other stay
    rcases (update_iff (· = .inside other)).mp stay with ⟨-, same⟩ | still
    · cases v <;> cases same
    · exact still
  refine ⟨fun i other has => ?_, fun _ _ _ => ?_, fun place apart => ?_, fun i other stay' => ?_,
    fun i j other stay stay' => tidy.apart i j other (others stay).2 (others stay').2⟩
  · rcases (update_iff fun s => s.directory? = some other).mp has with ⟨-, same⟩ | ⟨-, has⟩
    · cases v with
      | ok u => cases same
      | error e =>
          cases same
          exact own
    · exact tidy.allotted i other has
  · refine (tidy.rooted t directory had).of_way fun place on there => ?_
    rwa [removed.beside place (own.aside place on)]
  · by_cases below : directory.destination here <+: place
    · cases v with
      | error e => exact absurd below (apart t directory (by rw [Function.update_self]; rfl))
      | ok u => exact .inl ((removed.cleared rfl own.below place below).trans
          (own.vacant place below).symm)
    · rw [Unchanged, removed.beside place below]
      refine tidy.outside place fun i other found => ?_
      by_cases here : i = t
      · subst here
        cases had.symm.trans found
        exact below
      · exact apart i other (by rwa [Function.update_of_ne here])
  · obtain ⟨aside, stay'⟩ := others stay'
    have sole := tidy.sole i other stay'
    have own' := tidy.allotted i other (by rw [stay']; rfl)
    have apart : ¬ directory.destination here <+: other.destination here := fun below => by
      cases own.eq_of_prefix own' below List.prefix_rfl
      exact aside (tidy.apart i t directory stay' stay)
    refine ⟨(removed.beside _ apart).trans sole.there, fun place there => sole.only place ?_⟩
    rcases removed.shrinks place with same | gone
    · rw [← same, there]
    · cases gone.symm.trans there

end Tidy

/-! ## What is done inside a directory -/

lemma SameBeside.mono {lower : Place} (beside : SameBeside lower d d') (below : place <+: lower) :
    SameBeside place d d' :=
  fun other outside => beside other fun more => outside (below.trans more)

/-- The last two parts of the path of a video, read from where the program runs. -/
lemma exists_parts_output {settings : Settings} (isName : Path.IsName name)
    (named : directory = (site settings).child name) :
    ∃ rest, (directory.child (directory.child outputName).text).parts
      = rest ++ [name, outputName] := by
  have isOutput : Path.IsName outputName :=
    ⟨by decide, by decide, by decide, List.forall_mem_ne'.mpr (by decide)⟩
  have parts : directory.parts = (site settings).parts ++ [name] := by
    rw [named, Path.child_eq isName]
  have read : Path.ofText (directory.child outputName).text = directory.child outputName := by
    rw [Path.child_eq isOutput]
    refine Path.ofText_text (by simp) ?_
    rw [parts]
    simp only [List.forall_mem_append, List.forall_mem_singleton]
    exact ⟨⟨fun _ => Path.isPart_of_mem_ofText, isName.isPart⟩, isOutput.isPart⟩
  have output : (directory.child outputName).parts
      = (site settings).parts ++ [name, outputName] := by
    rw [Path.child_eq isOutput, parts, List.append_assoc]
    rfl
  rw [Path.child, read, Path.join]
  split
  · exact ⟨(site settings).parts, output⟩
  · refine ⟨directory.parts ++ (site settings).parts, ?_⟩
    rw [output, List.append_assoc]

/-- **A program writes its video into the directory that it works in**, wherever the text that it is
given seems to lead from there: no other directory has that name. -/
lemma sameBeside_of_rendered {settings : Settings} (isName : Path.IsName name)
    (named : directory = (site settings).child name) (sole : Sole here d directory)
    (rendered : d.Rendered here directory (directory.child outputName).text d') :
    SameBeside (directory.destination here) d d' := by
  intro place outside
  by_contra changed
  rcases rendered.changes place changed with below | leads
  · exact outside below
  · obtain ⟨rest, parts⟩ := exists_parts_output isName named
    obtain ⟨above, rfl, there⟩ := above_of_resolve leads parts isName
      ⟨by decide, by decide, by decide, List.forall_mem_ne'.mpr (by decide)⟩
    have same := sole.only _ there (by rw [named, Path.destination_child isName]; simp)
    refine outside ?_
    rw [← same]
    exact ⟨[outputName], by simp⟩

section Inside

variable {settings : Settings} (sole : Sole here d directory)

/-- A file with a name in a directory. -/
lemma works_of_wrote {p : Path} (child : ∃ name, Path.IsName name ∧ p = directory.child name)
    (wrote : d.Wrote here p d') :
    SameDirectories d d' ∧ SameBeside (directory.destination here) d d' := by
  obtain ⟨name, isName, rfl⟩ := child
  refine ⟨wrote.sameDirectories, SameBeside.mono wrote.sameBeside ?_⟩
  rw [Path.destination_child isName]
  exact List.prefix_append _ _

include sole in
/-- **What is done inside a directory changes nothing beside it**, and no directories. -/
lemma works_of_act {a : StudioAct} {v : a.Val}
    (named : ∃ name, Path.IsName name ∧ directory = (site settings).child name)
    (inside : a.Inside directory) (alters : a.Alters here d v d') :
    SameDirectories d d' ∧ SameBeside (directory.destination here) d d' := by
  cases a with
  | createFile p => exact works_of_wrote inside alters
  | spawn command place =>
      obtain ⟨rfl, output⟩ := inside
      obtain ⟨name, isName, named⟩ := named
      change d.Rendered here directory (command.getLastD "") d' at alters
      rw [output] at alters
      exact ⟨alters.directories, sameBeside_of_rendered isName named sole alters⟩
  | isRunning p =>
      obtain rfl : d' = d := alters
      exact ⟨.refl _, .refl _ _⟩
  | kill p =>
      obtain rfl : d' = d := alters
      exact ⟨.refl _, .refl _ _⟩
  | _ => cases inside

lemma works_of_wait {q : StudioWait} {v : q.Ans} (inside : q.Inside directory)
    (alters : q.Alters here d v d') :
    SameDirectories d d' ∧ SameBeside (directory.destination here) d d' := by
  cases q with
  | append p content => exact works_of_wrote inside alters
  | pause | read | attach | line | exit | collect | piece =>
      obtain rfl : d' = d := alters
      exact ⟨.refl _, .refl _ _⟩
  | _ => cases inside

end Inside

/-! ## Entries -/

section Entries

variable {M : Machine Studio} (G : Premises M) {settings : Settings} {stays : TaskId → Stay}
  {t : TaskId} {w : M.State} {record : List (Entry M)}

/-- How far every request has come with its directory. -/
def staying (record : List (Entry M)) (i : TaskId) : Stay := stayOf (entriesOf i record)

lemma staying_concat (record : List (Entry M)) (e : Entry M) : staying (record ++ [e])
    = Function.update (staying record) e.task ((staying record e.task).after e) := by
  funext i
  rw [staying, entriesOf_append]
  by_cases own : i = e.task
  · subst own
    rw [entriesOf_own (List.forall_mem_singleton.mpr rfl), stayOf_concat, Function.update_self]
    rfl
  · rw [entriesOf_other (List.forall_mem_singleton.mpr rfl) own, List.append_nil,
      Function.update_of_ne own]
    rfl

/-- The directory that a request gets with an entry. -/
def given? (e : Entry M) : Option Path :=
  match e.move with
  | .act (.makeTemporary parent beginning) =>
    Except.toOption (M.act e.task (.makeTemporary parent beginning) e.before).1
  | _ => none

/-- A new directory has a name that occurs nowhere. -/
def Fresh (e : Entry M) : Prop :=
  ∀ directory, given? e = some directory →
    ∀ place, directory.name ∈ place → (G.disk e.before).node? place = none

/-- What an entry may change: nothing beside the directory of its own request, which is no other's
at that time.  Apart from that the way to where requests have theirs may be made. -/
inductive Confined (settings : Settings) (stays : TaskId → Stay) (e : Entry M) : Prop
  | nothing (same : G.disk e.after = G.disk e.before)
  | way (paves : (G.disk e.before).Paves G.here (site settings) (G.disk e.after))
  | own {directory : Path} (has : stays e.task = .inside directory ∨ given? e = some directory)
      (alone : ∀ i, i ≠ e.task → stays i ≠ .inside directory)
      (beside : SameBeside (directory.destination G.here) (G.disk e.before) (G.disk e.after))

lemma name_child (isName : Path.IsName name) : (directory.child name).name = name := by
  rw [Path.child_eq isName, Path.name]
  simp

lemma isName_beginning : Path.IsName directoryBeginning :=
  ⟨by decide, by decide, by decide, List.forall_mem_ne'.mpr (by decide)⟩

variable {G}

/-- **A new directory is tidy** if its name is fresh. -/
lemma tidy_makeTemporary (tidy : Tidy G.here (site settings) d₀ stays (G.disk w))
    (stay : stays t = .without)
    (fresh : Fresh G ⟨t, .act (.makeTemporary (site settings) directoryBeginning), w⟩)
    (opened : (G.disk w).Opened G.here (site settings)
      (M.act t (.makeTemporary (site settings) directoryBeginning) w).1
      (G.disk (M.act t (.makeTemporary (site settings) directoryBeginning) w).2)) :
    Tidy G.here (site settings) d₀ (Function.update stays t (Stay.after .without
        (⟨t, .act (.makeTemporary (site settings) directoryBeginning), w⟩ : Entry M)))
        (G.disk (M.act t (.makeTemporary (site settings) directoryBeginning) w).2)
      ∧ Confined G settings stays
        ⟨t, .act (.makeTemporary (site settings) directoryBeginning), w⟩ := by
  obtain ⟨v, reply⟩ : ∃ v : Except OsError Path,
      (M.act t (.makeTemporary (site settings) directoryBeginning) w).1 = v := ⟨_, rfl⟩
  obtain ⟨d', disk⟩ : ∃ d',
      G.disk (M.act t (.makeTemporary (site settings) directoryBeginning) w).2 = d' := ⟨_, rfl⟩
  have comes : Stay.after .without
      (⟨t, .act (.makeTemporary (site settings) directoryBeginning), w⟩ : Entry M) = .opened v :=
    congrArg Stay.opened reply
  have gives : given? (⟨t, .act (.makeTemporary (site settings) directoryBeginning), w⟩ : Entry M)
      = v.toOption := congrArg Except.toOption reply
  rw [reply, disk] at opened
  rw [comes, disk]
  cases opened with
  | failed e =>
      change Tidy _ _ _ (Function.update stays t .without) _ ∧ _
      rw [← stay, Function.update_eq_self]
      exact ⟨tidy, .nothing disk⟩
  | @made name _ isName made =>
      have new : ∀ place, name ∈ place → (G.disk w).node? place = none := by
        have new := fresh _ gives
        rwa [name_child isName] at new
      refine ⟨tidy.opened (by rw [stay]; rfl) isName made new, .own (.inr gives) ?_ ?_⟩
      · intro i _ stay'
        have there := (tidy.sole i _ stay').there
        rw [Path.destination_child isName] at there
        cases there.symm.trans (new _ (by simp))
      · obtain ⟨-, -, same⟩ := makeDirectory_child isName made
        change SameBeside _ _ (G.disk (M.act t _ w).2)
        rw [disk, same, Path.destination_child isName]
        exact sameBeside_put _ _

lemma tidy_act {a : StudioAct} (sane : G.sane w)
    (tidy : Tidy G.here (site settings) d₀ stays (G.disk w))
    (suits : (stays t).Suits settings (.act a)) (fresh : Fresh G ⟨t, .act a, w⟩) :
    Tidy G.here (site settings) d₀ (Function.update stays t ((stays t).after ⟨t, .act a, w⟩))
        (G.disk (M.act t a w).2)
      ∧ Confined G settings stays ⟨t, .act a, w⟩ := by
  have alters := (G.act t a w sane).2
  cases stay : stays t with
  | left directory =>
      rw [stay] at suits
      cases suits
  | gone =>
      rw [stay] at suits
      cases suits
  | inside directory =>
      rw [stay] at suits
      have inside : a.Inside directory := suits
      have own := tidy.allotted t directory (by rw [stay]; rfl)
      obtain ⟨same, beside⟩ :=
        works_of_act (tidy.sole t directory stay) own.named inside alters
      have stays' : Stay.after (.inside directory) (⟨t, .act a, w⟩ : Entry M) = stays t := by
        rw [stay]
        cases a with
        | makeTemporary p b => cases inside
        | _ => rfl
      rw [stays', Function.update_eq_self]
      exact ⟨tidy.worked stay same beside, .own (.inl stay)
        (fun i other stay' => other (tidy.apart i t directory stay' stay)) beside⟩
  | without =>
      rw [stay] at suits
      rcases suits with rfl | rfl
      · have stays' : Stay.after .without
            (⟨t, .act (.makeDirectories (site settings)), w⟩ : Entry M) = stays t := by
          rw [stay]
          rfl
        rw [stays', Function.update_eq_self]
        exact ⟨tidy.paves alters.1, .way alters.1⟩
      · exact tidy_makeTemporary tidy stay fresh (alters isName_beginning)

/-- A wait leaves what it leaves, whenever its reply comes. -/
lemma tidy_answer {q : StudioWait} {v : q.Ans}
    (tidy : Tidy here (site settings) d₀ stays d) (stay : stays t = .inside directory)
    (may : q.Inside directory ∨ q = .removeTree directory) (alters : q.Alters here d v d') :
    Tidy here (site settings) d₀ (Function.update stays t ((stays t).waited q v)) d'
      ∧ SameBeside (directory.destination here) d d' := by
  rcases may with inside | rfl
  · obtain ⟨same, beside⟩ := works_of_wait inside alters
    have stays' : (stays t).waited q v = stays t := by
      cases q with
      | removeTree p => cases inside
      | _ => rfl
    rw [stays', Function.update_eq_self]
    exact ⟨tidy.worked stay same beside, beside⟩
  · exact ⟨tidy.removed stay alters, alters.beside⟩

/-- **The disk stays tidy after every entry that suits a request**, and the entry changes nothing
but the request's own directory. -/
lemma tidy_after {m : Move Studio} (sane : G.sane w)
    (tidy : Tidy G.here (site settings) d₀ stays (G.disk w))
    (suits : (stays t).Suits settings m) (fresh : Fresh G ⟨t, m, w⟩) :
    G.sane (Entry.after ⟨t, m, w⟩)
      ∧ Tidy G.here (site settings) d₀ (Function.update stays t ((stays t).after ⟨t, m, w⟩))
        (G.disk (Entry.after ⟨t, m, w⟩))
      ∧ Confined G settings stays ⟨t, m, w⟩ := by
  have waits : ∀ {q}, m = .begin q ∨ m = .finish q → ∃ directory, stays t = .inside directory
      ∧ (q.Inside directory ∨ q = .removeTree directory) := by
    intro q same
    cases stay : stays t with
    | inside directory =>
        rw [stay] at suits
        rcases same with rfl | rfl <;> exact ⟨directory, rfl, suits⟩
    | _ =>
        rw [stay] at suits
        rcases same with rfl | rfl <;> cases suits
  cases m with
  | act a => exact ⟨(G.act t a w sane).1, tidy_act sane tidy suits fresh⟩
  | begin q =>
      obtain ⟨directory, stay, may⟩ := waits (.inl rfl)
      have alone : ∀ i, i ≠ t → stays i ≠ .inside directory := fun i other stay' =>
        other (tidy.apart i t directory stay' stay)
      obtain ⟨sane', held⟩ := G.held t q w sane
      refine ⟨sane', ?_⟩
      change Tidy G.here (site settings) d₀
        (Function.update stays t ((M.wait t q w).1.elim (stays t) ((stays t).waited q)))
        (G.disk (M.wait t q w).2) ∧ _
      cases reply : (M.wait t q w).1 with
      | none =>
          have same := held reply
          rw [Option.elim_none, Function.update_eq_self, same]
          exact ⟨tidy, .nothing same⟩
      | some v =>
          obtain ⟨tidy', beside⟩ := tidy_answer tidy stay may (G.wait t q w v sane reply)
          exact ⟨tidy', .own (.inl stay) alone beside⟩
  | finish q =>
      obtain ⟨directory, stay, may⟩ := waits (.inr rfl)
      have alone : ∀ i, i ≠ t → stays i ≠ .inside directory := fun i other stay' =>
        other (tidy.apart i t directory stay' stay)
      obtain ⟨sane', alters⟩ := G.release t q w sane
      obtain ⟨tidy', beside⟩ := tidy_answer tidy stay may alters
      exact ⟨sane', tidy', .own (.inl stay) alone beside⟩

end Entries

end Worker

end Montage
