import Mathlib.Data.List.Forall2
import Mathlib.Tactic.Common
import Montage.Proofs.Binary64.HalfUp
import Montage.Proofs.Timeline.Faults

/-!
# Pixels

A coordinate or a size may arrive as an integer, as a number or as a numeral in a text, and numbers
are rounded.  However an integer is written, the entity that is read is the same.

* `Spells` — the ways to write an integer; the numbers that are rounded too far are none of them.
* `Respelled` — members that differ only in how the integers of some fields are written.
* **`pixels_rounded`** — what a number is rounded to, and what respelling does to entities: nothing.
* `pixels_stray` — two numbers that are rounded too far.
-/

namespace Montage

/-- An integer, written as such, as a number or as a numeral in a text. -/
inductive Spells (i : ℤ) : Json → Prop
  | integer : Spells i (.int i)
  | number {x : Binary64} (finite : x.isFinite = true) (same : x.value = i)
      (steady : ¬ x.Strays) : Spells i (.num x)
  | numeral {s : String} {x : Binary64} (reads : Text.Numeral.number? s.toList = some x)
      (finite : x.isFinite = true) (same : x.value = i) (steady : ¬ x.Strays) : Spells i (.str s)

/-- An integer is nearest to itself. -/
lemma isHalfUp_intCast (i : ℤ) : IsHalfUp i i := by
  constructor <;> norm_num

/-- An integer among the numbers is its own nearest integer. -/
lemma IsHalfUp.eq_of_intCast {i n : ℤ} (near : IsHalfUp i n) : n = i :=
  (existsUnique_isHalfUp i).unique near (isHalfUp_intCast i)

namespace Read

variable {i : ℤ} {x : Binary64}

/-- A number that is an integer, and is not rounded too far, is read as that integer. -/
lemma roundedPixel_eq (finite : x.isFinite = true) (same : x.value = i) (steady : ¬ x.Strays) :
    roundedPixel x = .ok i := by
  rw [roundedPixel, (Binary64.roundHalfUp_eq finite (same ▸ isHalfUp_intCast i)).1 steady]

/-- **A pixel is the integer it spells.** -/
lemma pixel_of_spells {j : Json} (spells : Spells i j) : pixel j = .ok i := by
  cases spells with
  | integer => rfl
  | number finite same steady => exact roundedPixel_eq finite same steady
  | numeral reads finite same steady =>
      rw [pixel, reads]
      obtain ⟨s, n, grid, rfl⟩ := Binary64.isFinite_eq_true.mp finite
      exact roundedPixel_eq finite same steady

/-- However an integer is spelled, as an optional size it is that size if positive. -/
lemma optionalSize_of_spells {j : Json} (spells : Spells i j) :
    optionalSize j = (positive (.ok i)).map some := by
  rw [← pixel_of_spells spells]
  cases spells with
  | integer => rfl
  | number => rfl
  | numeral => rfl

end Read

/-! ## Fields -/

/-- A key under which one of the fields is found. -/
def FieldName.Among (fields : List FieldName) (key : String) : Prop :=
  ∃ name ∈ fields, key = name.main ∨ key = name.other

instance (fields : List FieldName) (key : String) : Decidable (FieldName.Among fields key) :=
  inferInstanceAs (Decidable (∃ name ∈ fields, key = name.main ∨ key = name.other))

/-- Values that stand under the same key and differ at most in how an integer is written, which they
may where one of the fields is found. -/
inductive Respelling (fields : List FieldName) (key : String) : Json → Json → Prop
  | same (j : Json) : Respelling fields key j j
  | spelled {i : ℤ} {j j' : Json} (among : FieldName.Among fields key) (spells : Spells i j)
      (spells' : Spells i j') : Respelling fields key j j'

/-- Members that differ only in how the integers of some fields are written. -/
def Respelled (fields : List FieldName) : Members → Members → Prop :=
  List.Forall₂ fun m m' => m.1 = m'.1 ∧ Respelling fields m.1 m.2 m'.2

section Respelled

variable {α : Type} {fields : List FieldName} {ms ms' : Members} {name : FieldName}
  {read : Json → Checked α}

/-- Under each key the respelled members have the same value, respelled. -/
lemma Respelled.lookup (respelled : Respelled fields ms ms') (key : String) :
    Option.Rel (Respelling fields key) (Json.lookup key ms) (Json.lookup key ms') := by
  induction respelled with
  | nil => exact .none
  | @cons m m' rest rest' first _ ih =>
      obtain ⟨k, v⟩ := m
      obtain ⟨k', v'⟩ := m'
      obtain ⟨rfl, values⟩ := first
      rw [Json.lookup, Json.lookup]
      split
      · rename_i found
        exact .some (found ▸ values)
      · exact ih

/-- A reader that makes the same of what stands under a field's names. -/
def Agrees (fields : List FieldName) (name : FieldName) (read : Json → Checked α) : Prop :=
  ∀ key, key = name.main ∨ key = name.other → ∀ j j', Respelling fields key j j' → read j = read j'

/-- A field that is none of those may be read in any way. -/
lemma agrees_of_apart (main : ¬ FieldName.Among fields name.main)
    (other : ¬ FieldName.Among fields name.other) : Agrees fields name read := by
  rintro key (rfl | rfl) j j' (⟨⟩ | ⟨among, -⟩)
  · rfl
  · exact absurd among main
  · rfl
  · exact absurd among other

/-- A reader that only looks at the integer that is spelled agrees on all spellings. -/
lemma agrees_of_spells {integer : ℤ → Checked α}
    (spelled : ∀ {i j}, Spells i j → read j = integer i) : Agrees fields name read := by
  rintro key - j j' (⟨⟩ | ⟨-, spells, spells'⟩)
  · rfl
  · rw [spelled spells, spelled spells']

/-- A field is found under the same name, and read alike, when its members are respelled. -/
lemma Respelled.find? (respelled : Respelled fields ms ms') (agrees : Agrees fields name read) :
    Option.Rel (fun f f' => f.1 = f'.1 ∧ read f.2 = read f'.2) (name.find? ms)
      (name.find? ms') := by
  have main := respelled.lookup name.main
  have other := respelled.lookup name.other
  rw [FieldName.find?, FieldName.find?]
  revert main
  generalize Json.lookup name.main ms = v
  generalize Json.lookup name.main ms' = v'
  rintro (values | ⟨⟩)
  · exact .some ⟨rfl, agrees _ (.inl rfl) _ _ values⟩
  · revert other
    generalize Json.lookup name.other ms = w
    generalize Json.lookup name.other ms' = w'
    rintro (values | ⟨⟩)
    · exact .some ⟨rfl, agrees _ (.inr rfl) _ _ values⟩
    · exact .none

/-- A field that must be there is read alike. -/
lemma Respelled.required (respelled : Respelled fields ms ms') (agrees : Agrees fields name read) :
    name.required read ms = name.required read ms' := by
  have found := respelled.find? agrees
  unfold FieldName.required
  revert found
  generalize name.find? ms = f
  generalize name.find? ms' = f'
  rintro (⟨key, value⟩ | ⟨⟩)
  · dsimp only
    rw [key, value]
  · rfl

/-- So is one with a default. -/
lemma Respelled.optional (respelled : Respelled fields ms ms') (agrees : Agrees fields name read)
    (default : α) : name.optional read default ms = name.optional read default ms' := by
  have found := respelled.find? agrees
  unfold FieldName.optional
  revert found
  generalize name.find? ms = f
  generalize name.find? ms' = f'
  rintro (⟨key, value⟩ | ⟨⟩)
  · dsimp only
    rw [key, value]
  · rfl

/-! ## Entities -/

/-- A coordinate is read alike however it is spelled. -/
lemma agrees_pixel : Agrees fields name Read.pixel := agrees_of_spells Read.pixel_of_spells

/-- So is a size … -/
lemma agrees_size : Agrees fields name Read.size :=
  agrees_of_spells fun spells => congrArg Read.positive (Read.pixel_of_spells spells)

/-- … and a size that may be missing. -/
lemma agrees_optionalSize : Agrees fields name Read.optionalSize :=
  agrees_of_spells Read.optionalSize_of_spells

/-- The fields that an entity starts with hold no pixels. -/
lemma Respelled.decodeEntity (respelled : Respelled fields ms ms')
    (apart : ∀ name ∈ [Field.id, Field.startTime, Field.endTime],
      ¬ FieldName.Among fields name.main ∧ ¬ FieldName.Among fields name.other)
    (fresh : String) (rest : Checked (String → Window → α)) :
    Montage.decodeEntity fresh ms rest = Montage.decodeEntity fresh ms' rest := by
  have agrees : ∀ {β : Type} (name) (read : Json → Checked β),
      name ∈ [Field.id, Field.startTime, Field.endTime] → Agrees fields name read :=
    fun name _ among => agrees_of_apart (apart name among).1 (apart name among).2
  rw [Montage.decodeEntity, Montage.decodeEntity,
    respelled.optional (agrees Field.id Read.text (by simp)),
    respelled.required (agrees Field.startTime Read.startSeconds (by simp)),
    respelled.required (agrees Field.endTime Read.seconds (by simp))]

/-- **A clip is the same however its pixels are written.** -/
lemma Respelled.clip (respelled : Respelled Field.box ms ms') (fresh : String) :
    Clip.decode fresh (.obj ms) = Clip.decode fresh (.obj ms') := by
  have source : Agrees Field.box Field.sourceRef Read.nonEmptyText :=
    agrees_of_apart (by decide) (by decide)
  simp only [Clip.decode, Json.asObject, Checked.andThen,
    respelled.decodeEntity (by decide), respelled.required source,
    respelled.optional agrees_optionalSize, respelled.optional agrees_pixel]

/-- An image with respelled coordinates and sizes is the same image. -/
lemma Respelled.image (respelled : Respelled Field.box ms ms') (fresh : String) :
    ImageOverlay.decode fresh (.obj ms) = ImageOverlay.decode fresh (.obj ms') := by
  have source : Agrees Field.box Field.sourceRef Read.nonEmptyText :=
    agrees_of_apart (by decide) (by decide)
  simp only [ImageOverlay.decode, Json.asObject, Checked.andThen,
    respelled.decodeEntity (by decide), respelled.required source,
    respelled.required agrees_size, respelled.required agrees_pixel]

/-- A text with respelled coordinates and font size is the same text. -/
lemma Respelled.lettering (respelled : Respelled Field.lettering ms ms') (fresh : String) :
    TextOverlay.decode fresh (.obj ms) = TextOverlay.decode fresh (.obj ms') := by
  have description : Agrees Field.lettering Field.description Read.text :=
    agrees_of_apart (by decide) (by decide)
  have color : Agrees Field.lettering Field.color Read.color :=
    agrees_of_apart (by decide) (by decide)
  simp only [TextOverlay.decode, Json.asObject, Checked.andThen,
    respelled.decodeEntity (by decide), respelled.required description,
    respelled.optional color, respelled.optional agrees_size, respelled.required agrees_pixel]

end Respelled

/-! ## The nearest integer -/

/-- **Numbers are rounded to the nearest integer, a half upward**, but for those that `Strays`
names: these are rounded to the next one.  An integer that is none of those stays itself, so pixels
mean the same however they are written: as integers, as numbers or as numerals, in every field. -/
theorem pixels_rounded (x : Binary64) (i : ℤ) (j : Json) (fresh : String) (ms ms' : Members) :
    (x.isFinite = true → ∃ n : ℤ, IsHalfUp x.value n ∧ (∀ m, IsHalfUp x.value m → m = n)
        ∧ (∀ k : ℤ, x.value = k → n = k)
        ∧ (¬ x.Strays → x.roundHalfUp = .ok n) ∧ (x.Strays → x.roundHalfUp = .ok (n + 1)))
    ∧ (Spells i j → Read.pixel j = .ok i)
    ∧ (Respelled Field.box ms ms' →
        Clip.decode fresh (.obj ms) = Clip.decode fresh (.obj ms')
          ∧ ImageOverlay.decode fresh (.obj ms) = ImageOverlay.decode fresh (.obj ms'))
    ∧ (Respelled Field.lettering ms ms' →
        TextOverlay.decode fresh (.obj ms) = TextOverlay.decode fresh (.obj ms')) := by
  refine ⟨fun finite => ?_, Read.pixel_of_spells, fun respelled =>
    ⟨respelled.clip fresh, respelled.image fresh⟩, fun respelled => respelled.lettering fresh⟩
  obtain ⟨n, near, unique⟩ := existsUnique_isHalfUp x.value
  refine ⟨n, near, unique, fun k same => ?_, Binary64.roundHalfUp_eq finite near⟩
  rw [same] at near
  exact near.eq_of_intCast

/-! ### Two and a half, three, and two numbers that are rounded too far -/

/-- Two and a half is a double. -/
lemma Binary64.onGrid_fiveHalves : OnGrid (5 * halfUnits) := by
  rw [halfUnits]
  exact onGrid_shifted (by decide) (by decide)

/-- So is the greatest number below one half that there is. -/
lemma Binary64.onGrid_lastBelowHalf : OnGrid lastBelowHalf :=
  onGrid_shifted (by decide) (by decide)

/-- Two and a half. -/
def fiveHalves : Binary64 := .finite false (5 * Binary64.halfUnits) Binary64.onGrid_fiveHalves

/-- The last number below a half. -/
def belowHalf : Binary64 := .finite false Binary64.lastBelowHalf Binary64.onGrid_lastBelowHalf

/-- Two and a half is not rounded too far. -/
lemma fiveHalves_steady : ¬ fiveHalves.Strays := by
  rintro (last | ⟨i, same, -⟩)
  · exact absurd (Binary64.value_eq_lastBelowHalf.mp last) (by decide +kernel)
  · have rest : (5 * Binary64.halfUnits : ℕ) % (Binary64.one : ℤ) = Binary64.halfUnits := by
      decide +kernel
    have none := Int.mul_emod_left i Binary64.one
    rw [← Binary64.value_eq_intCast.mp same] at none
    exact absurd (rest.symm.trans none) (by decide +kernel)

/-- A small integer among the numbers is not rounded too far. -/
lemma Binary64.steady_of_small {x : Binary64} {i : ℤ} (same : x.value = i)
    (small : i.natAbs ≤ twoTo 52) : ¬ x.Strays := by
  rintro (last | ⟨j, eq, -, large, -⟩)
  · have pos : (0 : ℚ) < twoTo 54 := by exact_mod_cast twoTo_pos 54
    have whole : i * (twoTo 54 : ℕ) = (fullBits : ℕ) := by
      rw [same, eq_div_iff pos.ne'] at last
      exact_mod_cast last
    have rest := Int.mul_emod_left i (twoTo 54)
    rw [whole] at rest
    exact absurd rest (by decide)
  · obtain rfl : i = j := by exact_mod_cast same.symm.trans eq
    omega

/-- An integer of at most 53 bits is not changed by being made a double. -/
lemma Binary64.value_ofInt {k : ℕ} (small : k < twoTo 53) : (ofInt k).value = (k : ℤ) := by
  rw [ofInt_natCast small, value_eq_intCast]
  exact Nat.cast_mul k one

/-- A numeral with blanks around it and a fraction of zero spells three. -/
lemma spells_three : Spells 3 (.str " 3.0 ") := by
  have reads : Text.Numeral.number? " 3.0 ".toList = some (.ofInt (3 : ℕ)) := by decide +kernel
  have same := Binary64.value_ofInt (k := 3) (by decide)
  exact .numeral reads (by decide +kernel) same (Binary64.steady_of_small same (by decide))

/-- The members of a small clip and of a small text whose place is written in one way or another. -/
def clipAt (x : Json) : Members :=
  [("startTime", .int 0), ("endTime", .int 1), ("sourceRef", .str "a.mp4"), ("x", x)]

/-- A caption with nothing but what it must have, at a given place. -/
def textAt (x : Json) : Members :=
  [("startTime", .int 0), ("endTime", .int 1), ("description", .str ""), ("x", x), ("y", .int 0)]

/-- Two clips that differ in the spelling of a coordinate … -/
lemma respelled_clipAt : Respelled Field.box (clipAt (.str " 3.0 ")) (clipAt (.int 3)) :=
  .cons ⟨rfl, .same _⟩ <| .cons ⟨rfl, .same _⟩ <| .cons ⟨rfl, .same _⟩ <|
    .cons ⟨rfl, .spelled (by decide) spells_three .integer⟩ .nil

/-- … and two such texts. -/
lemma respelled_textAt : Respelled Field.lettering (textAt (.str " 3.0 ")) (textAt (.int 3)) :=
  .cons ⟨rfl, .same _⟩ <| .cons ⟨rfl, .same _⟩ <| .cons ⟨rfl, .same _⟩ <|
    .cons ⟨rfl, .spelled (by decide) spells_three .integer⟩ <| .cons ⟨rfl, .same _⟩ .nil

/-- Two and a half goes up to three, and what is just below one half goes to zero. -/
lemma isHalfUp_halves : IsHalfUp fiveHalves.value 3 ∧ IsHalfUp belowHalf.value 0 := by
  rw [fiveHalves, belowHalf, Binary64.isHalfUp_value, Binary64.isHalfUp_value]
  decide +kernel

theorem pixels_rounded_sample :
    (fiveHalves.isFinite = true ∧ IsHalfUp fiveHalves.value 3 ∧ ¬ fiveHalves.Strays
        ∧ fiveHalves.roundHalfUp = .ok 3)
    ∧ (belowHalf.isFinite = true ∧ IsHalfUp belowHalf.value 0 ∧ belowHalf.Strays
        ∧ belowHalf.roundHalfUp = .ok (0 + 1))
    ∧ (Spells 3 (.str " 3.0 ") ∧ Read.pixel (.str " 3.0 ") = .ok 3)
    ∧ (Respelled Field.box (clipAt (.str " 3.0 ")) (clipAt (.int 3))
        ∧ Clip.decode "id" (.obj (clipAt (.str " 3.0 ")))
          = Clip.decode "id" (.obj (clipAt (.int 3))))
    ∧ (Respelled Field.lettering (textAt (.str " 3.0 ")) (textAt (.int 3))
        ∧ TextOverlay.decode "id" (.obj (textAt (.str " 3.0 ")))
          = TextOverlay.decode "id" (.obj (textAt (.int 3)))) := by
  have strays : belowHalf.Strays := .inl (Binary64.value_eq_lastBelowHalf.mpr rfl)
  obtain ⟨nearHalf, spelled, boxes, -⟩ := pixels_rounded fiveHalves 3 (.str " 3.0 ") "id"
    (clipAt (.str " 3.0 ")) (clipAt (.int 3))
  obtain ⟨farBelow, -, -, letterings⟩ := pixels_rounded belowHalf 3 (.str " 3.0 ") "id"
    (textAt (.str " 3.0 ")) (textAt (.int 3))
  refine ⟨⟨rfl, isHalfUp_halves.1, fiveHalves_steady, ?_⟩,
    ⟨rfl, isHalfUp_halves.2, strays, ?_⟩, ⟨spells_three, spelled spells_three⟩,
    ⟨respelled_clipAt, (boxes respelled_clipAt).1⟩,
    ⟨respelled_textAt, letterings respelled_textAt⟩⟩
  · obtain ⟨n, -, unique, -, steady, -⟩ := nearHalf rfl
    rw [steady fiveHalves_steady, unique 3 isHalfUp_halves.1]
  · obtain ⟨n, -, unique, -, -, strayed⟩ := farBelow rfl
    rw [strayed strays, ← unique 0 isHalfUp_halves.2]

/-- The last number below a half is rounded to one, and 4503599627370497 as a number is another
pixel than as an integer. -/
theorem pixels_stray :
    (IsHalfUp belowHalf.value 0 ∧ belowHalf.roundHalfUp = .ok 1)
    ∧ (Binary64.ofInt (4503599627370497 : ℕ)).value = (4503599627370497 : ℕ)
    ∧ Read.pixel (.num (.ofInt (4503599627370497 : ℕ))) = .ok 4503599627370498
    ∧ Read.pixel (.int 4503599627370497) = .ok 4503599627370497 := by
  have rounds : (Binary64.ofInt (4503599627370497 : ℕ)).roundHalfUp = .ok 4503599627370498 := by
    decide +kernel
  refine ⟨⟨isHalfUp_halves.2, by decide +kernel⟩, ?_, ?_, rfl⟩
  · exact_mod_cast Binary64.value_ofInt (k := 4503599627370497) (by decide)
  · rw [Read.pixel, Read.roundedPixel, rounds]

end Montage
