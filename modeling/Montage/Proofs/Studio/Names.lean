import Montage.Proofs.Disk.Names
import Montage.Proofs.Text.Encoding
import Montage.Studio.Interface

/-!
# Names that can be handed over

The operating system takes a text that has bytes and no null character.

* `Path.IsPlain` — a name of ordinary characters; **`isPlain_of_mem_fileNames`** — the names of an
  export's files are such names.
* `Path.Handed` — a path that can be handed over, with any such name below it;
  `Path.handed_of_isLow`.
-/

namespace Montage

/-- A text below the halves, without a null character, can be handed over. -/
lemma SpawnProblem.ofText?_of_isLow {text : String} (low : Text.IsLow text.toList)
    (whole : '\x00' ∉ text.toList) : ofText? text = none := by
  have encodable : Text.Alphabet.fileNames.problem? 0 (Text.codes text.toList) = none :=
    Text.Alphabet.problem?_eq_none (fun n listed => by
      rw [Text.Alphabet.covers, low.isHalf_eq_false listed, Bool.not_false, Bool.true_or]) 0
  rw [ofText?, encodable]
  dsimp only
  rw [if_neg (mt List.contains_iff_mem.mp whole)]

namespace Path

/-! ## Names -/

/-- A single part of a path, of ordinary characters: the system takes it, wherever it is put. -/
structure IsPlain (name : String) : Prop where
  isName : IsName name
  low : Text.IsLow name.toList
  whole : '\x00' ∉ name.toList

lemma IsPlain.ofText?_eq_none {name : String} (h : IsPlain name) :
    SpawnProblem.ofText? name = none :=
  SpawnProblem.ofText?_of_isLow h.low h.whole

/-- A numbered name that begins and ends with ordinary characters. -/
lemma IsName.isPlain {name : String} {stem ending : List Char} {index : Nat} (h : IsName name)
    (same : name.toList = stem ++ (Nat.toDigits 10 index ++ ending))
    (low : Text.IsLow (stem ++ ending)) (whole : '\x00' ∉ stem ++ ending) : IsPlain name := by
  refine ⟨h, ?_, ?_⟩
  · rw [same]
    intro c listed
    rcases List.mem_append.mp listed with listed | listed
    · exact low c (List.mem_append_left _ listed)
    · rcases List.mem_append.mp listed with listed | listed
      · exact Text.isLow_toDigits index c listed
      · exact low c (List.mem_append_right _ listed)
  · rw [same, List.mem_append, List.mem_append]
    rintro (listed | listed | listed)
    · exact whole (List.mem_append_left _ listed)
    · exact absurd (isDigit_of_mem_toDigits listed) (by decide)
    · exact whole (List.mem_append_right _ listed)

end Path

/-- **The names of an export's files are ordinary names.** -/
lemma isPlain_of_mem_fileNames {clips images : Nat} {name : String}
    (h : name ∈ fileNames clips images) : Path.IsPlain name := by
  have isName := isName_of_mem_fileNames h
  rcases List.mem_append.mp h with h | h
  · obtain ⟨i, -, rfl⟩ := List.mem_map.mp h
    exact isName.isPlain (toList_clipName i) (by decide) (by decide)
  · obtain ⟨i, -, rfl⟩ := List.mem_map.mp h
    exact isName.isPlain (toList_imageName i) (by decide) (by decide)

lemma isPlain_outputName : Path.IsPlain outputName :=
  ⟨⟨by decide, by decide, by decide, List.forall_mem_ne'.mpr (by decide)⟩, by decide, by decide⟩

namespace Path

/-! ## Paths -/

/-- A path that can be handed over, with any ordinary name below it. -/
structure Handed (p : Path) : Prop where
  own : Studio.pathFault? p = none
  child : ∀ name, IsPlain name → Studio.pathFault? (p.child name) = none

lemma pathFault?_of_isLow {p : Path} (low : Text.IsLow p.text.toList)
    (whole : '\x00' ∉ p.text.toList) : Studio.pathFault? p = none := by
  rw [Studio.pathFault?, SpawnProblem.ofText?_of_isLow low whole]
  rfl

/-- The text of a path with one more part. -/
lemma text_child {name : String} (h : IsName name) {p : Path} (parts : p.parts ≠ []) :
    (p.child name).text = p.text ++ "/" ++ name := by
  have more : p.parts ++ [name] ≠ [] := by simp
  rw [child_eq h, text, text, if_neg (by simp), if_neg (by simp [parts])]
  dsimp only
  rw [String.intercalate_append_of_ne_nil parts (List.cons_ne_nil _ _)]
  simp [String.append_assoc]

/-- **A path of ordinary characters can be handed over.** -/
lemma handed_of_isLow {p : Path} (parts : p.parts ≠ []) (low : Text.IsLow p.text.toList)
    (whole : '\x00' ∉ p.text.toList) : Handed p := by
  refine ⟨pathFault?_of_isLow low whole, fun name plain => ?_⟩
  have text : (p.child name).text.toList = p.text.toList ++ ['/'] ++ name.toList := by
    rw [text_child plain.isName parts, String.toList_append, String.toList_append]
    rfl
  refine pathFault?_of_isLow ?_ ?_
  · rw [text]
    exact (low.append (by decide)).append plain.low
  · rw [text, List.mem_append, List.mem_append]
    rintro ((listed | listed) | listed)
    · exact whole listed
    · exact absurd listed (by decide)
    · exact plain.whole listed

end Path

end Montage
