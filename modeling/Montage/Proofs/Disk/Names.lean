import Mathlib.Data.List.Nodup
import Mathlib.Tactic.Common
import Montage.Command
import Montage.Proofs.Disk.Files
import Montage.Proofs.Text.Decimal

/-!
# Names and texts of paths

Files are stored side by side in one directory, under names that are numbered.  So they are stored
at **different places**, whatever the directory is.  A path goes to another program as a text, and
that program reads it as a path again.

* `Path.IsName` — a text that is a single part of a path; `Path.child_eq` — what it leads to.
* `Disk.HasRoom.ne_of_child` — different names below one path lead to different places.
* `nodup_fileNames`, `isName_of_mem_fileNames` — the names of an export's files are different names.
* `Path.IsPart` — a text that can be one of the parts of a path; `Path.isPart_of_mem_ofText` —
  reading leaves such parts only.
* **`Path.ofText_text`** — a path is read back from its text.
-/

namespace Montage

/-! ## Names below a path -/

/-- A text that is a single part of a path. -/
structure Path.IsName (name : String) : Prop where
  nonempty : name ≠ ""
  notHere : name ≠ "."
  notUp : name ≠ ".."
  noSlash : ∀ c ∈ name.toList, c ≠ '/'

/-- A name, read as a path, is the path of that name. -/
lemma Path.IsName.ofText_eq {name : String} (h : IsName name) :
    Path.ofText name = ⟨.here, [name]⟩ := by
  have root : Path.rootOf name.toList = .here := by
    unfold Path.rootOf
    split <;> first | rfl | (rename_i hl; exact absurd rfl (h.noSlash '/' (by simp [hl])))
  have parts : Path.partsOf name.toList = [name] := by
    simp [Path.partsOf, Text.splitAt_eq_singleton h.noSlash, h.nonempty, h.notHere]
  rw [Path.ofText, root, parts]

/-- A name below a path is one more part of it. -/
lemma Path.child_eq {name : String} (h : IsName name) (p : Path) :
    p.child name = { p with parts := p.parts ++ [name] } := by
  rw [Path.child, h.ofText_eq]
  rfl

/-- A path with a name at its end is not empty. -/
lemma Path.text_child_ne_empty {name : String} (h : IsName name) (p : Path) :
    (p.child name).text ≠ "" := by
  have nonempty : "/".intercalate (p.parts ++ [name]) ≠ "" := by
    cases hp : p.parts with
    | nil => simpa using h.nonempty
    | cons part rest =>
        rw [String.intercalate_append_of_ne_nil (List.cons_ne_nil _ _) (List.cons_ne_nil _ _)]
        simp [h.nonempty]
  rw [child_eq h, text]
  split
  · simp
  · simp [nonempty]

/-- A name leads one step further down. -/
lemma Disk.walk_append_name {d : Disk} {start place : Place} {parts : List String} {name : String}
    (h : Path.IsName name) (leads : d.walk start (parts ++ [name]) = .ok place) :
    ∃ above, d.walk start parts = .ok above ∧ place = above ++ [name] := by
  induction parts generalizing start with
  | nil =>
      rcases (walk_cons_eq_ok.mp leads).2 with ⟨up, -⟩ | ⟨-, -, found⟩
      · exact absurd up h.notUp
      · cases found
        exact ⟨start, rfl, rfl⟩
  | cons part rest ih =>
      obtain ⟨directory, ⟨up, further⟩ | ⟨down, short, further⟩⟩ := walk_cons_eq_ok.mp leads
      · obtain ⟨above, before, same⟩ := ih further
        exact ⟨above, walk_cons_eq_ok.mpr ⟨directory, .inl ⟨up, before⟩⟩, same⟩
      · obtain ⟨above, before, same⟩ := ih further
        exact ⟨above, walk_cons_eq_ok.mpr ⟨directory, .inr ⟨down, short, before⟩⟩, same⟩

/-- **Different names below one path lead to different places.** -/
lemma Disk.HasRoom.ne_of_child {d : Disk} {here : Place} {p : Path} {a b : String} {x y : Place}
    (ha : Path.IsName a) (hb : Path.IsName b) (hx : d.HasRoom here (p.child a) x)
    (hy : d.HasRoom here (p.child b) y) (apart : a ≠ b) : x ≠ y := by
  have leads : ∀ {name place}, Path.IsName name → d.HasRoom here (p.child name) place →
      ∃ above, d.walk (if p.isAbsolute then [] else here) p.parts = .ok above
        ∧ place = above ++ [name] := by
    intro name place hn room
    have resolved := room.leads
    rw [Path.child_eq hn, resolve] at resolved
    split at resolved
    · cases resolved
    · exact walk_append_name hn resolved
  obtain ⟨above, ho, rfl⟩ := leads ha hx
  obtain ⟨above', ho', rfl⟩ := leads hb hy
  rw [ho] at ho'
  cases ho'
  intro same
  exact apart (List.append_cancel_left same |> List.singleton_injective)

/-! ## Numbered names -/

/-- How the file of a clip is called … -/
lemma toList_clipName (index : Nat) :
    (clipName index).toList = "input".toList ++ (Nat.toDigits 10 index ++ ".mp4".toList) := by
  simp [clipName, toString, Int.repr_eq_if, Nat.repr_eq_ofList_toDigits]

/-- … and that of an image. -/
lemma toList_imageName (index : Nat) :
    (imageName index).toList = "image".toList ++ (Nat.toDigits 10 index ++ ".png".toList) := by
  simp [imageName, toString, Int.repr_eq_if, Nat.repr_eq_ofList_toDigits]

/-- Different clips have different files … -/
lemma clipName_injective {i j : Nat} (h : clipName i = clipName j) : i = j := by
  have := congrArg String.toList h
  rw [toList_clipName, toList_clipName, List.append_cancel_left_eq,
    List.append_cancel_right_eq] at this
  exact toDigits_injective this

/-- … so have different images … -/
lemma imageName_injective {i j : Nat} (h : imageName i = imageName j) : i = j := by
  have := congrArg String.toList h
  rw [toList_imageName, toList_imageName, List.append_cancel_left_eq,
    List.append_cancel_right_eq] at this
  exact toDigits_injective this

/-- … and no clip has the file of an image. -/
lemma clipName_ne_imageName (i j : Nat) : clipName i ≠ imageName j := by
  intro h
  have := congrArg String.toList h
  rw [toList_clipName, toList_imageName] at this
  simp at this

/-- **The names of the files of an export are different.** -/
lemma nodup_fileNames (clips images : Nat) : (fileNames clips images).Nodup := by
  refine List.nodup_append.mpr ⟨?_, ?_, ?_⟩
  · exact List.Nodup.map (fun i j => clipName_injective) List.nodup_range
  · exact List.Nodup.map (fun i j => imageName_injective) List.nodup_range
  · intro a ha b hb
    obtain ⟨i, -, rfl⟩ := List.mem_map.mp ha
    obtain ⟨j, -, rfl⟩ := List.mem_map.mp hb
    exact clipName_ne_imageName i j

/-- A numbered name that begins and ends with letters. -/
lemma Path.isName_of_toList {name : String} {stem ending : List Char} {index : Nat}
    (h : name.toList = stem ++ (Nat.toDigits 10 index ++ ending))
    (long : 2 < stem.length) (slashes : '/' ∉ stem ++ ending) : Path.IsName name := by
  have length : 2 < name.toList.length := by
    rw [h, List.length_append]
    omega
  refine ⟨?_, ?_, ?_, ?_⟩
  · rintro rfl
    exact absurd length (by decide)
  · rintro rfl
    exact absurd length (by decide)
  · rintro rfl
    exact absurd length (by decide)
  · rw [h]
    rintro c hc rfl
    rcases List.mem_append.mp hc with hc | hc
    · exact slashes (List.mem_append_left _ hc)
    · rcases List.mem_append.mp hc with hc | hc
      · exact absurd (isDigit_of_mem_toDigits hc) (by decide)
      · exact slashes (List.mem_append_right _ hc)

/-- What the files are called are names. -/
lemma isName_of_mem_fileNames {clips images : Nat} {name : String}
    (h : name ∈ fileNames clips images) : Path.IsName name := by
  rcases List.mem_append.mp h with h | h
  · obtain ⟨i, -, rfl⟩ := List.mem_map.mp h
    exact Path.isName_of_toList (toList_clipName i) (by simp) (by simp)
  · obtain ⟨i, -, rfl⟩ := List.mem_map.mp h
    exact Path.isName_of_toList (toList_imageName i) (by simp) (by simp)

/-! ## Texts of paths -/

namespace Path

/-- A text that can be one of the parts of a path. -/
structure IsPart (part : String) : Prop where
  nonempty : part ≠ ""
  notHere : part ≠ "."
  noSlash : ∀ c ∈ part.toList, c ≠ '/'

/-- A name is a part of a path. -/
lemma IsName.isPart {name : String} (h : IsName name) : IsPart name :=
  ⟨h.nonempty, h.notHere, h.noSlash⟩

/-- What is found between the slashes of a text is a part of a path. -/
lemma isPart_of_mem_ofText {text part : String} (h : part ∈ (ofText text).parts) : IsPart part := by
  obtain ⟨split, kept⟩ := List.mem_filter.mp h
  obtain ⟨chars, hc, rfl⟩ := List.mem_map.mp split
  have kept : String.ofList chars ≠ "" ∧ String.ofList chars ≠ "." := by simpa using kept
  refine ⟨kept.1, kept.2, ?_⟩
  rw [String.toList_ofList]
  exact Text.ne_of_mem_splitAt hc

/-- Slashes before the parts make no difference to them. -/
lemma partsOf_slash (cs : List Char) : partsOf ('/' :: cs) = partsOf cs := by
  simp [partsOf, Text.splitAt]

/-- Parts that are written with slashes between them are read back. -/
lemma partsOf_intercalate {parts : List String} (some : parts ≠ [])
    (h : ∀ part ∈ parts, IsPart part) : partsOf ("/".intercalate parts).toList = parts := by
  have chars : ∀ part ∈ parts.map String.toList, ∀ c ∈ part, c ≠ '/' := by
    intro part hp
    obtain ⟨s, hs, rfl⟩ := List.mem_map.mp hp
    exact (h s hs).noSlash
  have split : Text.splitAt '/' ("/".intercalate parts).toList = parts.map String.toList := by
    rw [String.toList_intercalate]
    exact Text.splitAt_intercalate (by simpa using some) chars
  rw [partsOf, split, List.map_map]
  simp only [Function.comp_def, String.ofList_toList, List.map_id']
  rw [List.filter_eq_self]
  intro part hp
  simpa using ⟨(h part hp).nonempty, (h part hp).notHere⟩

/-- The parts of a path begin with another character than a slash. -/
lemma exists_intercalate_eq_cons {parts : List String} (some : parts ≠ [])
    (h : ∀ part ∈ parts, IsPart part) :
    ∃ c cs, ("/".intercalate parts).toList = c :: cs ∧ c ≠ '/' := by
  obtain ⟨first, rest, rfl⟩ := List.exists_cons_of_ne_nil some
  have here := h first List.mem_cons_self
  obtain ⟨c, cs, name⟩ := List.exists_cons_of_ne_nil fun none : first.toList = [] =>
    here.nonempty (String.toList_injective none)
  have noSlash : c ≠ '/' := here.noSlash c (name ▸ List.mem_cons_self)
  cases rest with
  | nil => exact ⟨c, cs, by simpa using name, noSlash⟩
  | cons other rest =>
      refine ⟨c, cs ++ ("/" ++ "/".intercalate (other :: rest)).toList, ?_, noSlash⟩
      rw [String.intercalate_cons_of_ne_nil (List.cons_ne_nil _ _)]
      simp [name]

/-- **A path is read back from its text.** -/
theorem ofText_text {p : Path} (some : p.parts ≠ []) (h : ∀ part ∈ p.parts, IsPart part) :
    ofText p.text = p := by
  obtain ⟨root, parts⟩ := p
  obtain ⟨c, cs, chars, noSlash⟩ := exists_intercalate_eq_cons some h
  have text : (Path.mk root parts).text.toList = (rootText root).toList ++ c :: cs := by
    rw [Path.text, if_neg (by simp [some]), String.toList_append, chars]
  have split : partsOf (c :: cs) = parts := chars ▸ partsOf_intercalate some h
  rw [ofText, text]
  cases root with
  | here =>
      have root : rootOf (c :: cs) = .here := by simp [rootOf, noSlash]
      exact congrArg₂ Path.mk root split
  | slash =>
      have root : rootOf ('/' :: c :: cs) = .slash := by simp [rootOf, noSlash]
      exact congrArg₂ Path.mk root ((partsOf_slash _).trans split)
  | doubleSlash =>
      have root : rootOf ('/' :: '/' :: c :: cs) = .doubleSlash := by simp [rootOf, noSlash]
      exact congrArg₂ Path.mk root ((partsOf_slash _).trans ((partsOf_slash _).trans split))

end Path

end Montage
