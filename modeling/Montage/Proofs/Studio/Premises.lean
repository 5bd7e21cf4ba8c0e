import Mathlib.Tactic.Common
import Montage.Proofs.Disk.Directories
import Montage.Proofs.Studio.HostFiles

/-!
# Premises

Whoever works on a disk has to know what its operations leave alone: what else is there, and which
directories there are.  A program that writes a video is an operation like the others; it is trusted
to write its video, and whatever it likes in the directory that it works in.

* `Disk.Wrote`, `Disk.Rendered`, `Disk.Opened`, `Disk.Removed` — what comes of an operation.
* `StudioAct.Alters`, `StudioWait.Alters` — what effects of the studio do to a disk.
* `Premises` — surroundings with a disk where effects do just that; **`Host.premises`** — **hosts
  are such surroundings** as long as their programs are tame.
-/

namespace Montage

/-! ## What comes of an operation -/

namespace Disk

variable {d d' d'' : Disk} {here place : Place} {path directory : Path} {name output : String}
  {content : ByteArray}

/-- The same directories are there. -/
def SameDirectories (d d' : Disk) : Prop :=
  ∀ place, d'.node? place = some .directory ↔ d.node? place = some .directory

lemma SameDirectories.refl (d : Disk) : SameDirectories d d := fun _ => .rfl

lemma SameDirectories.trans (first : SameDirectories d d') (rest : SameDirectories d' d'') :
    SameDirectories d d'' := fun place => (rest place).trans (first place)

/-- Where the directories are the same, paths lead to the same places. -/
lemma SameDirectories.resolve (same : SameDirectories d d')
    (leads : d'.resolve here path = .ok place) : d.resolve here path = .ok place :=
  resolve_of_directories (fun place => (same place).mp) leads

/-- A file has been written, or nothing has; a write that fails leaves the disk as it was. -/
def Wrote (here : Place) (path : Path) (d d' : Disk) : Prop :=
  d' = d ∨ ∃ content, d.write here path content = .ok d'

/-- A file that was written lies in a place that had room for it, and nothing else has changed. -/
lemma exists_put_of_write (written : d.write here path content = .ok d') :
    ∃ place, d.HasRoom here path place ∧ d' = d.put place (.file content) := by
  obtain ⟨place, target, same⟩ := bind_eq_ok.mp written
  cases same
  exact ⟨place, hasRoom_iff.mpr target, rfl⟩

/-- What is appended is written after what was there. -/
lemma wrote_append (appended : d.append here path content = .ok d') : Wrote here path d d' := by
  obtain ⟨place, target, same⟩ := bind_eq_ok.mp appended
  cases same
  exact .inr ⟨_, bind_eq_ok.mpr ⟨place, target, rfl⟩⟩

/-- Only what the path leads to is different. -/
lemma Wrote.resolve (wrote : Wrote here path d d') (changed : d'.node? place ≠ d.node? place) :
    d.resolve here path = .ok place := by
  rcases wrote with rfl | ⟨content, written⟩
  · exact absurd rfl changed
  · obtain ⟨target, room, rfl⟩ := exists_put_of_write written
    by_cases here : place = target
    · rw [here]
      exact room.leads
    · exact absurd (node?_put_of_ne here) changed

/-- To write a file changes nothing beside it. -/
lemma Wrote.sameBeside (wrote : Wrote here path d d') :
    SameBeside (path.destination here) d d' := by
  intro other outside
  by_contra changed
  exact outside (eq_destination (wrote.resolve changed) ▸ List.prefix_rfl)

/-- To write a file makes and removes no directory. -/
lemma Wrote.sameDirectories (wrote : Wrote here path d d') : SameDirectories d d' := by
  rcases wrote with rfl | ⟨content, written⟩
  · exact .refl _
  · obtain ⟨target, room, rfl⟩ := exists_put_of_write written
    intro place
    by_cases here : place = target
    · rw [here, node?_put_self room.ne_nil]
      exact iff_of_false nofun room.free
    · rw [node?_put_of_ne here]

/-- What a program that writes a video may have done: it has neither made nor removed a directory,
and what it has changed lies below the one that it works in or is the video. -/
structure Rendered (here : Place) (directory : Path) (output : String) (d d' : Disk) : Prop where
  directories : SameDirectories d d'
  changes : ∀ place, d'.node? place ≠ d.node? place → directory.destination here <+: place
    ∨ d.resolve here (directory.child output) = .ok place

lemma Rendered.refl : Rendered here directory output d d := ⟨.refl d, fun _ => absurd rfl⟩

lemma Rendered.trans (first : Rendered here directory output d d')
    (rest : Rendered here directory output d' d'') : Rendered here directory output d d'' where
  directories := first.directories.trans rest.directories
  changes place changed := by
    by_cases before : d'.node? place = d.node? place
    · rw [← before] at changed
      exact (rest.changes place changed).imp_right first.directories.resolve
    · exact first.changes place before

/-- To write the output is what a rendering may do. -/
lemma Wrote.rendered (wrote : Wrote here (directory.child output) d d') :
    Rendered here directory output d d' :=
  ⟨wrote.sameDirectories, fun _ changed => .inr (wrote.resolve changed)⟩

/-- So is it to write any other file directly below the working directory. -/
lemma Wrote.rendered_of_isName (wrote : Wrote here (directory.child name) d d')
    (isName : Path.IsName name) : Rendered here directory output d d' := by
  refine ⟨wrote.sameDirectories, fun place changed => .inl ?_⟩
  rw [eq_destination (wrote.resolve changed), Path.destination_child isName]
  exact List.prefix_append _ _

/-- A directory with a new name has been made below another one, or nothing has. -/
inductive Opened (here : Place) (parent : Path) (d : Disk) : Except OsError Path → Disk → Prop
  | made {name : String} {d' : Disk} (isName : Path.IsName name)
      (made : d.makeDirectory here (parent.child name) = .ok d') :
      Opened here parent d (.ok (parent.child name)) d'
  | failed (e : OsError) : Opened here parent d (.error e) d

/-- A directory has been removed, with as much of what was in it as could be. -/
structure Removed (here : Place) (path : Path) (d : Disk) (v : Except OsError Unit) (d' : Disk) :
    Prop where
  beside : SameBeside (path.destination here) d d'
  shrinks : Shrinks d d'
  cleared : v = .ok () → path.destination here ≠ [] → Cleared (path.destination here) d'

end Disk

/-! ## Effects of the studio -/

/-- What an effect does to a disk that is seen from a working directory. -/
def StudioAct.Alters (here : Place) (d : Disk) : (a : StudioAct) → a.Val → Disk → Prop
  | .makeDirectory p, _, d' => d' = d ∨ d.makeDirectory here p = .ok d'
  | .makeDirectories p, v, d' => d.Paves here p d' ∧ (v = .ok () → d'.Rooted here p)
  | .makeTemporary parent beginning, v, d' => Path.IsName beginning → d.Opened here parent v d'
  | .createFile p, _, d' => d.Wrote here p d'
  | .spawn command directory, _, d' =>
    d.Rendered here (directory.getD ⟨.slash, here⟩) (command.getLastD "") d'
  | _, _, d' => d' = d

/-- What each of these may do to the disk; all others leave it as it is. -/
def StudioWait.Alters (here : Place) (d : Disk) : (q : StudioWait) → q.Ans → Disk → Prop
  | .write p _, _, d' | .append p _, _, d' => d.Wrote here p d'
  | .unlink p, _, d' => d.SameBeside (p.destination here) d'
  | .removeTree p, v, d' => d.Removed here p v d'
  | .makeWorkspace _ _, _, d' => d.Opens (fun _ => True) d'
  | _, _, d' => d' = d

/-- Surroundings with a disk, and what is known of it whatever is done in them. -/
structure Premises (M : Machine Studio) where
  disk : M.State → Disk
  here : Place
  /-- What is so at any time. -/
  sane : M.State → Prop
  act : ∀ t a w, sane w → sane (M.act t a w).2
    ∧ a.Alters here (disk w) (M.act t a w).1 (disk (M.act t a w).2)
  held : ∀ t q w, sane w → sane (M.wait t q w).2
    ∧ ((M.wait t q w).1 = none → disk (M.wait t q w).2 = disk w)
  wait : ∀ t q w v, sane w → (M.wait t q w).1 = some v →
    q.Alters here (disk w) v (disk (M.wait t q w).2)
  release : ∀ t q w, sane w → sane (M.release t q w).2
    ∧ q.Alters here (disk w) (M.release t q w).1 (disk (M.release t q w).2)

/-! ## Hosts -/

/-- A program that neither makes nor removes directories, and whose other files have names. -/
structure ProgramScript.Tame (script : ProgramScript) : Prop where
  extras : ∀ e ∈ script.extras, Path.IsName e.1
  directories : script.directories = []
  stays : script.removesDirectory = false

namespace Host

variable {h h' h'' : Host} {here : Place} {path directory : Path} {script : ProgramScript}
  {command : List String} {content : ByteArray} {t : TaskId}

/-- A host that is in a certain place, with tame programs and names that are single ones. -/
structure Orderly (here : Place) (h : Host) : Prop where
  stands : h.here = here
  tame : ∀ script ∈ h.renderings.next :: h.renderings.later, script.Tame
  single : ∀ c ∈ h.generated.toList, c ≠ '/'

/-- Nothing is different but the disk and what does not matter to it. -/
structure Alike (h h' : Host) : Prop where
  here : h'.here = h.here
  renderings : h'.renderings = h.renderings
  generated : h'.generated = h.generated

lemma Alike.refl (h : Host) : h.Alike h := ⟨rfl, rfl, rfl⟩

/-- Hosts that differ in their disks only, one after the other. -/
lemma Alike.trans (first : h.Alike h') (rest : h'.Alike h'') : h.Alike h'' :=
  ⟨rest.here.trans first.here, rest.renderings.trans first.renderings,
    rest.generated.trans first.generated⟩

/-- What has to hold of a host for its programs to behave does not depend on the disk. -/
lemma Orderly.of_alike (orderly : h.Orderly here) (alike : h.Alike h') : h'.Orderly here :=
  ⟨alike.here.trans orderly.stands, alike.renderings ▸ orderly.tame,
    alike.generated ▸ orderly.single⟩

/-- Operations on files change nothing but the disk. -/
lemma alike_changing (path : Path) (result : Except DiskProblem Disk) :
    h.Alike (h.changing path result).2 := by
  cases result <;> exact ⟨rfl, rfl, rfl⟩

lemma alike_makeDirectories (path : Path) : h.Alike (h.makeDirectories path).2 := by
  unfold makeDirectories
  split <;> exact ⟨rfl, rfl, rfl⟩

lemma alike_makeTemporary (parent : Path) (beginning : String) :
    h.Alike (h.makeTemporary parent beginning).2 := by
  unfold makeTemporary
  have alike := h.alike_changing (h.freshPath parent beginning (h.disk.nodes.length + 1))
    (h.disk.makeDirectory h.here (h.freshPath parent beginning (h.disk.nodes.length + 1)))
  dsimp only
  split <;> simp_all only

/-! ### Files -/

/-- An operation that writes a file if it succeeds has written it or done nothing. -/
lemma wrote_changing {result : Except DiskProblem Disk}
    (wrote : ∀ d, result = .ok d → h.disk.Wrote h.here path d) :
    h.disk.Wrote h.here path (h.changing path result).2.disk := by
  cases result with
  | error p => exact .inl rfl
  | ok d => exact wrote d rfl

lemma wrote_write (path : Path) (content : ByteArray) : h.disk.Wrote h.here path
    (h.changing path (h.disk.write h.here path content)).2.disk :=
  wrote_changing fun _ written => .inr ⟨content, written⟩

/-! ### Directories -/

/-- To make a directory with all above it leaves what was there, and in the end the directory is
there. -/
lemma paves_makeDirectories (path : Path) :
    h.disk.Paves h.here path (h.makeDirectories path).2.disk
      ∧ ((h.makeDirectories path).1 = .ok () →
        (h.makeDirectories path).2.disk.Rooted h.here path) := by
  unfold makeDirectories
  split
  · rename_i d made
    exact ⟨Disk.paves_makeDirectories made, fun _ => Disk.rooted_of_makeDirectories made⟩
  · exact ⟨.refl _, nofun⟩

/-- What is put after a name that has no slash makes a name. -/
lemma isName_append {beginning ending : String} (isName : Path.IsName beginning)
    (single : ∀ c ∈ ending.toList, c ≠ '/') : Path.IsName (beginning ++ ending) := by
  have ofList : ∀ {text : String}, beginning ++ ending = text →
      beginning.toList ++ ending.toList = text.toList := fun same => by
    rw [← String.toList_append, same]
  obtain ⟨c, cs, chars⟩ := List.exists_cons_of_ne_nil fun none : beginning.toList = [] =>
    isName.nonempty (String.toList_injective none)
  have other : ∀ {text : String}, beginning ≠ text → beginning.toList ≠ text.toList :=
    fun apart same => apart (String.toList_injective same)
  have notHere := other isName.notHere
  have notUp := other isName.notUp
  refine ⟨fun same => ?_, fun same => ?_, fun same => ?_, ?_⟩
  · simpa [chars] using ofList same
  · have same := ofList same
    simp_all
  · have same := ofList same
    cases cs <;> simp_all
  · rw [String.toList_append]
    exact List.forall_mem_append.mpr ⟨isName.noSlash, single⟩

/-- A new name lies directly below the directory that it was made for. -/
lemma exists_freshPath (orderly : h.Orderly here) (parent : Path) {beginning : String}
    (isName : Path.IsName beginning) (attempts : Nat) :
    ∃ name, Path.IsName name ∧ h.freshPath parent beginning attempts = parent.child name := by
  induction attempts generalizing beginning with
  | zero => exact ⟨beginning, isName, rfl⟩
  | succ attempts ih =>
      have longer := isName_append isName orderly.single
      rw [freshPath]
      split
      · exact ih longer
      · exact ⟨_, longer, rfl⟩

/-- A temporary directory is made where nothing was, or nothing is made. -/
lemma opened_makeTemporary (orderly : h.Orderly here) (parent : Path) {beginning : String}
    (isName : Path.IsName beginning) : h.disk.Opened here parent
      (h.makeTemporary parent beginning).1 (h.makeTemporary parent beginning).2.disk := by
  obtain ⟨name, isName, fresh⟩ :=
    exists_freshPath orderly parent isName (h.disk.nodes.length + 1)
  unfold makeTemporary
  rw [fresh]
  have stands := orderly.stands
  dsimp only
  cases made : h.disk.makeDirectory h.here (parent.child name) with
  | error p => exact .failed _
  | ok d =>
      rw [stands] at made
      exact .made isName made

/-! ### Programs -/

/-- An effect of a program on files is one of a program that writes a video. -/
def Effect.Renders (directory : Path) (output : String) (effect : Effect) : Prop :=
  ∀ h : Host, h.Alike (effect h).2 ∧ h.disk.Rendered h.here directory output (effect h).2.disk

lemma wrote_writing (path : Path) (content : ByteArray) (h : Host) :
    h.Alike (writing path content h).2
      ∧ h.disk.Wrote h.here path (writing path content h).2.disk := by
  unfold writing onPath
  cases SpawnProblem.ofText? path.text with
  | some p => exact ⟨.refl h, .inl rfl⟩
  | none => exact ⟨alike_changing path _, wrote_write path content⟩

/-- Whatever a tame script does to the disk is what a rendering may do. -/
lemma renders_effects (tame : script.Tame) :
    ∀ e ∈ effects script command directory, e.Renders directory (command.getLastD "") := by
  intro e among
  simp only [effects, tame.directories, tame.stays, List.mem_append, List.mem_map] at among
  obtain ((⟨f, listed, rfl⟩ | ⟨content, -, rfl⟩) | ⟨_, none, -⟩) | removal := among
  · intro h
    obtain ⟨alike, wrote⟩ := wrote_writing (directory.child f.1) f.2 h
    exact ⟨alike, wrote.rendered_of_isName (tame.extras f listed)⟩
  · intro h
    obtain ⟨alike, wrote⟩ := wrote_writing (directory.child (command.getLastD "")) content h
    exact ⟨alike, wrote.rendered⟩
  · cases none
  · cases removal

/-- So is all of it together, by induction on the effects. -/
lemma renders_undergo {es : List Effect} {output : String}
    (renders : ∀ e ∈ es, e.Renders directory output) (h : Host) :
    h.Alike (h.undergo es).2 ∧ h.disk.Rendered h.here directory output (h.undergo es).2.disk := by
  unfold undergo
  suffices ∀ x : Except SpawnProblem Unit × Host, x.2.Alike (es.foldl (fun x e => e.after x) x).2
      ∧ x.2.disk.Rendered x.2.here directory output (es.foldl (fun x e => e.after x) x).2.disk
    from this (.ok (), h)
  induction es with
  | nil => exact fun _ => ⟨.refl _, .refl⟩
  | cons e rest ih =>
      rintro ⟨result, h⟩
      obtain ⟨here, later⟩ := List.forall_mem_cons.mp renders
      rw [List.foldl_cons]
      cases result with
      | error p => exact ih later (.error p, h)
      | ok u =>
          obtain ⟨alike, rendered⟩ := here h
          obtain ⟨alike', rendered'⟩ := ih later (e h)
          rw [alike.here] at rendered'
          exact ⟨alike.trans alike', rendered.trans rendered'⟩

/-- To take the next script from the cue changes nothing that matters here. -/
lemma orderly_cue (orderly : h.Orderly here) (kind : CommandKind) :
    (h.cue kind).2.Orderly here := by
  cases kind with
  | version => exact ⟨orderly.stands, orderly.tame, orderly.single⟩
  | probe => exact ⟨orderly.stands, orderly.tame, orderly.single⟩
  | rendering =>
      refine ⟨orderly.stands, fun script among => orderly.tame script ?_, orderly.single⟩
      change script ∈ h.renderings.advance.next :: h.renderings.advance.later at among
      unfold Cues.advance at among
      split at among
      · exact among
      · rename_i later
        exact later ▸ List.mem_cons_of_mem _ among

/-- **A tame program writes its video.** -/
lemma rendered_start (orderly : h.Orderly here) (command : List String)
    (directory : Option Path) :
    (h.start command directory).2.Orderly here
      ∧ h.disk.Rendered here (directory.getD ⟨.slash, here⟩) (command.getLastD "")
        (h.start command directory).2.disk := by
  have start : (h.addCommand command).Orderly here := orderly.of_alike ⟨rfl, rfl, rfl⟩
  have cued := orderly_cue start ((h.addCommand command).kindOf command)
  have same := disk_cue (h.addCommand command) ((h.addCommand command).kindOf command)
  have tame : (h.addCommand command).kindOf command = .rendering →
      ((h.addCommand command).cue ((h.addCommand command).kindOf command)).1.Tame := by
    intro kind
    rw [kind]
    exact start.tame _ List.mem_cons_self
  have disk : (h.addCommand command).disk = h.disk := rfl
  rw [disk] at same
  unfold Host.start
  dsimp only
  generalize (h.addCommand command).kindOf command = kind at cued same tame ⊢
  generalize (h.addCommand command).cue kind = c at cued same tame
  obtain ⟨script, h'⟩ := c
  rw [← same.1]
  cases script.refusal with
  | some e => exact ⟨cued, .refl⟩
  | none =>
      dsimp only
      split
      · rename_i rendering
        have renders : ∀ e ∈ effects script command (directory.getD h'.herePath),
            e.Renders (directory.getD h'.herePath) (command.getLastD "") :=
          renders_effects (tame rendering)
        have undergone := renders_undergo renders h'
        have place : h'.herePath = ⟨.slash, here⟩ := by rw [herePath, cued.stands]
        rw [cued.stands, place] at undergone
        rw [place]
        generalize h'.undergo _ = x at undergone
        obtain ⟨result, h''⟩ := x
        cases result with
        | error e => exact ⟨cued.of_alike undergone.1, undergone.2⟩
        | ok u => exact ⟨(cued.of_alike undergone.1).of_alike ⟨rfl, rfl, rfl⟩, undergone.2⟩
      · exact ⟨cued.of_alike ⟨rfl, rfl, rfl⟩, .refl⟩

/-! ### Replies -/

/-- What happens at once at a host changes the disk as it should. -/
lemma alters_act (orderly : h.Orderly here) (a : StudioAct) : (act t a h).2.Orderly here
    ∧ a.Alters here h.disk (act t a h).1 (act t a h).2.disk := by
  have stands := orderly.stands
  cases a with
  | metric m => exact ⟨orderly.of_alike ⟨rfl, rfl, rfl⟩, rfl⟩
  | isDirectory p => exact ⟨orderly, rfl⟩
  | makeDirectory p =>
      refine ⟨orderly.of_alike (alike_changing p _), ?_⟩
      change (h.changing p (h.disk.makeDirectory h.here p)).2.disk = h.disk
        ∨ h.disk.makeDirectory here p = .ok (h.changing p (h.disk.makeDirectory h.here p)).2.disk
      rw [← stands]
      cases made : h.disk.makeDirectory h.here p with
      | error e => exact .inl rfl
      | ok d => exact .inr rfl
  | makeDirectories p =>
      exact ⟨orderly.of_alike (alike_makeDirectories p), stands ▸ paves_makeDirectories p⟩
  | makeTemporary parent beginning =>
      have reply : act t (.makeTemporary parent beginning) h
          = h.makeTemporary parent beginning := rfl
      rw [reply]
      refine ⟨orderly.of_alike (alike_makeTemporary parent beginning), ?_⟩
      have opened := fun isName : Path.IsName beginning =>
        opened_makeTemporary orderly parent isName
      generalize h.makeTemporary parent beginning = made at opened ⊢
      exact opened
  | createFile p => exact ⟨orderly.of_alike (alike_changing p _), stands ▸ wrote_write p _⟩
  | spawn command directory => exact rendered_start orderly command directory
  | isRunning p => exact ⟨orderly, rfl⟩
  | kill p => exact ⟨orderly.of_alike ⟨rfl, rfl, rfl⟩, rfl⟩

/-- To begin something changes no file. -/
lemma begin_alike (q : StudioWait) : h.Alike (h.begin t q) ∧ (h.begin t q).disk = h.disk := by
  cases q with
  | send request => cases request <;> exact ⟨⟨rfl, rfl, rfl⟩, rfl⟩
  | _ => exact ⟨.refl h, rfl⟩

/-- Where a temporary directory is made, everything else stays. -/
lemma opens_makeTemporary (parent : Path) (beginning : String) :
    h.disk.Opens (fun _ => True) (h.makeTemporary parent beginning).2.disk := by
  unfold makeTemporary changing
  dsimp only
  cases made : h.disk.makeDirectory h.here
      (h.freshPath parent beginning (h.disk.nodes.length + 1)) with
  | error p => exact .refl _
  | ok d => exact Disk.opens_makeDirectory made trivial

/-- So it is where the directories above it are made as well. -/
lemma opens_makeWorkspace (root : Path) (beginning : String) :
    h.Alike (h.makeWorkspace root beginning).2
      ∧ h.disk.Opens (fun _ => True) (h.makeWorkspace root beginning).2.disk := by
  have first := h.alike_makeDirectories root
  have paved := (h.paves_makeDirectories root).1.mono fun _ _ => trivial
  unfold makeWorkspace
  generalize h.makeDirectories root = made at first paved
  obtain ⟨result, h'⟩ := made
  cases result with
  | error e => exact ⟨first, paved⟩
  | ok u =>
      have alike := h'.alike_makeTemporary root beginning
      have opens := h'.opens_makeTemporary root beginning
      dsimp only
      generalize h'.makeTemporary root beginning = made at alike opens
      exact ⟨first.trans alike, paved.trans opens⟩

/-- What a host answers to a suspension changes the disk as it should. -/
lemma alters_answer (orderly : h.Orderly here) (q : StudioWait) :
    (answer t q h).2.Orderly here
      ∧ q.Alters here h.disk (answer t q h).1 (answer t q h).2.disk := by
  have stands := orderly.stands
  cases q with
  | write p content => exact ⟨orderly.of_alike (alike_changing p _), stands ▸ wrote_write p content⟩
  | append p content =>
      exact ⟨orderly.of_alike (alike_changing p _),
        stands ▸ wrote_changing fun _ appended => Disk.wrote_append appended⟩
  | unlink p =>
      refine ⟨orderly.of_alike (alike_changing p _), ?_⟩
      change h.disk.SameBeside (p.destination here)
        (h.changing p (h.disk.unlink h.here p)).2.disk
      rw [← stands]
      cases unlinked : h.disk.unlink h.here p with
      | error e => exact .refl _ _
      | ok d => exact Disk.sameBeside_unlink unlinked
  | removeTree p =>
      refine ⟨orderly.of_alike ⟨rfl, rfl, rfl⟩, ?_⟩
      rw [← stands]
      refine ⟨Disk.sameBeside_removeTree, Disk.shrinks_removeTree, fun removed below => ?_⟩
      refine Disk.cleared_removeTree below ?_
      change (h.disk.removeTree h.here p).1.mapError _ = .ok () at removed
      cases result : (h.disk.removeTree h.here p).1 with
      | error e =>
          rw [result] at removed
          cases removed
      | ok u => rfl
  | makeWorkspace root beginning =>
      obtain ⟨alike, opens⟩ := opens_makeWorkspace (h := h) root beginning
      exact ⟨orderly.of_alike alike, opens⟩
  | exit p => exact ⟨orderly.of_alike ⟨rfl, rfl, rfl⟩, rfl⟩
  | collect p => exact ⟨orderly.of_alike ⟨rfl, rfl, rfl⟩, rfl⟩
  | pause | read p | list p | attach p | line p | send request | piece => exact ⟨orderly, rfl⟩

/-- **A host with tame programs is a place to work on a disk.** -/
def premises (here : Place) : Premises machine where
  disk := Host.disk
  here := here
  sane := Orderly here
  act t a _ orderly := alters_act (t := t) orderly a
  held t q h orderly := by
    obtain ⟨alike, same⟩ := h.begin_alike (t := t) q
    change (wait t q h).2.Orderly here ∧ ((wait t q h).1 = none → (wait t q h).2.disk = h.disk)
    unfold wait
    dsimp only
    split
    · exact ⟨orderly.of_alike alike, fun _ => same⟩
    · exact ⟨(alters_answer (orderly.of_alike alike) q).1, nofun⟩
  wait t q h v orderly reply := by
    obtain ⟨alike, same⟩ := h.begin_alike (t := t) q
    change (wait t q h).1 = some v at reply
    change q.Alters here h.disk v (wait t q h).2.disk
    unfold wait at reply ⊢
    dsimp only at reply ⊢
    split at reply
    · cases reply
    · rename_i unheld
      cases reply
      rw [if_neg unheld, ← same]
      exact (alters_answer (orderly.of_alike alike) q).2
  release t q _ orderly := alters_answer (t := t) orderly q

end Host

end Montage
