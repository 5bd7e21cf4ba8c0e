import Mathlib.Tactic.Common
import Montage.Json.Writer
import Montage.Proofs.Text.Decimal

/-!
# Texts and their bytes

Only halves of surrogate pairs have no bytes.  A text whose characters lie below them has none, and
neither has the JSON text that is written of it.  Nothing is lost on the way back: neither a reader
that is strict nor one that replaces gaps finds a gap in what was written.

* `Text.IsLow` — such a text; `Text.isLow_toString`, `Json.isLow_escapedChar` — what is written of
  numbers, and of such a character in JSON.
* `utf8Scan_char`, **`utf8Scan_utf8`** — the bytes of characters are scanned as these characters.
* `IsSpelled`, `IsWhole` — the texts that spell code points, and those that spell no half.
* **`exists_bytes_iff`** — a text has bytes unless it has a half.
* **`lossyText_of_encodeUtf8`**, `strictUtf8?_of_encodeUtf8` — the bytes of such a text are read as
  this text.
-/

namespace Montage

namespace Text

/-- All characters lie below the halves of surrogate pairs. -/
def IsLow (cs : List Char) : Prop := ∀ c ∈ cs, c.toNat < halfStart

instance (cs : List Char) : Decidable (IsLow cs) :=
  List.decidableBAll (fun c : Char => c.toNat < halfStart) cs

namespace IsLow

variable {cs ds : List Char}

lemma append (first : IsLow cs) (second : IsLow ds) : IsLow (cs ++ ds) :=
  fun c listed => (List.mem_append.mp listed).elim (first c) (second c)

/-- Texts that are low piece by piece. -/
lemma flatMap {g : Char → List Char} (low : IsLow cs)
    (each : ∀ c, c.toNat < halfStart → IsLow (g c)) : IsLow (cs.flatMap g) := by
  intro d listed
  obtain ⟨c, member, listed⟩ := List.mem_flatMap.mp listed
  exact each c (low c member) d listed

/-- The code points of such a text are its characters … -/
lemma codes_eq (low : IsLow cs) : codes cs = cs.map Char.toNat := by
  refine codes_eq_map fun c listed marked => ?_
  have small := low c listed
  rw [marked] at small
  exact absurd small (by decide)

/-- … and none of them is a half. -/
lemma isHalf_eq_false (low : IsLow cs) {n : Nat} (listed : n ∈ codes cs) : isHalf n = false := by
  rw [low.codes_eq] at listed
  obtain ⟨c, member, rfl⟩ := List.mem_map.mp listed
  have small := low c member
  rw [Bool.eq_false_iff]
  intro half
  have := (isHalf_iff.mp half).1
  unfold halfStart at small
  omega

end IsLow

/-- A text of characters that an alphabet covers can be encoded. -/
lemma Alphabet.problem?_eq_none {a : Alphabet} {ns : List Nat} (covered : ∀ n ∈ ns, a.covers n)
    (place : Nat) : a.problem? place ns = none := by
  induction ns generalizing place with
  | nil => rfl
  | cons n rest ih =>
      rw [problem?, if_pos (covered n List.mem_cons_self)]
      exact ih (fun m listed => covered m (List.mem_cons_of_mem n listed)) (place + 1)

lemma isLow_hexDigits (width n : Nat) : IsLow (hexDigits width n) := by
  have digits : ∀ k < 16, IsLow [hexDigit k] := by decide
  induction width generalizing n with
  | zero => exact fun c listed => absurd listed List.not_mem_nil
  | succ width ih => exact (ih (n / 16)).append (digits (n % 16) (Nat.mod_lt n (by decide)))

lemma isLow_toDigits (n : Nat) : IsLow (Nat.toDigits 10 n) :=
  fun _ listed => IsNumeral.toNat_lt (.inl (isDigit_of_mem_toDigits listed))

/-- A whole number is written with characters that are low. -/
lemma isLow_toString (i : Int) : IsLow (toString i).toList := by
  cases i with
  | ofNat n =>
      have text : toString (Int.ofNat n) = String.ofList (Nat.toDigits 10 n) := by
        simp [Int.repr_eq_if, Nat.repr_eq_ofList_toDigits]
      rw [text, String.toList_ofList]
      exact isLow_toDigits n
  | negSucc n =>
      have text : toString (Int.negSucc n) = String.ofList ('-' :: Nat.toDigits 10 (n + 1)) := by
        simp [Int.repr, Nat.repr_eq_ofList_toDigits]
      rw [text, String.toList_ofList]
      exact IsLow.append (show IsLow ['-'] by decide) (isLow_toDigits (n + 1))

end Text

namespace Json

/-- A low character is escaped by low characters. -/
lemma isLow_escapedChar {c : Char} (low : c.toNat < Text.halfStart) : Text.IsLow (escapedChar c) := by
  unfold escapedChar
  split
  · decide
  split
  · decide
  split
  · decide
  split
  · decide
  split
  · decide
  split
  · decide
  split
  · decide
  split
  · exact Text.IsLow.append (show Text.IsLow ['\\', 'u'] by decide) (Text.isLow_hexDigits 4 _)
  · exact fun d listed => by rwa [List.mem_singleton.mp listed]

end Json

namespace Text

/-! ## Bytes in a row -/

lemma toList_loop_eq (bytes : ByteArray) (i : Nat) (read : List UInt8) :
    ByteArray.toList.loop bytes i read = read.reverse ++ bytes.data.toList.drop i := by
  fun_induction ByteArray.toList.loop bytes i read with
  | case1 i read more ih =>
      have inside : i < bytes.data.toList.length := by simpa using more
      rw [ih, List.drop_eq_getElem_cons inside]
      simp [ByteArray.get!, more]
  | case2 i read none =>
      rw [List.drop_eq_nil_of_le (by simpa using Nat.le_of_not_lt none), List.append_nil]

/-- The bytes of an array in order, by the definition that can be reasoned about. -/
lemma toList_eq (bytes : ByteArray) : bytes.toList = bytes.data.toList :=
  (toList_loop_eq bytes 0 []).trans (List.nil_append _)

/-- The bytes of a text are those of its characters, one after the other. -/
lemma toList_toUTF8 (cs : List Char) :
    (String.ofList cs).toUTF8.toList = cs.flatMap String.utf8EncodeChar := by
  rw [toList_eq]
  exact List.toList_data_toByteArray

/-- There is at least one byte for each character. -/
lemma length_le_size (cs : List Char) : cs.length ≤ (String.ofList cs).toUTF8.size := by
  rw [← ByteArray.size_data, ← Array.length_toList, ← toList_eq, toList_toUTF8]
  induction cs with
  | nil => exact Nat.le_refl 0
  | cons c rest ih =>
      have first : 0 < (String.utf8EncodeChar c).length := by
        rw [String.length_utf8EncodeChar]
        exact c.utf8Size_pos
      rw [List.flatMap_cons, List.length_append, List.length_cons]
      omega

/-! ## Scanning -/

section Scan

variable {surrogates : Bool} {b missing low high value : ℕ}

/-- A sequence of two bytes is opened … -/
lemma utf8Open_two (least : 0xC2 ≤ b) (most : b < 0xE0) :
    utf8Open surrogates b = ([], some ⟨1, 0x80, 0xBF, b % 32⟩) := by
  rw [utf8Open, if_neg (by omega), if_neg (by omega), if_pos most]

/-- … or one of three, the surrogates left out … -/
lemma utf8Open_three (least : 0xE0 ≤ b) (most : b < 0xF0) :
    utf8Open surrogates b = ([], some ⟨2, if b = 0xE0 then 0xA0 else 0x80,
      if b = 0xED ∧ surrogates = false then 0x9F else 0xBF, b % 16⟩) := by
  rw [utf8Open, if_neg (by omega), if_neg (by omega), if_neg (by omega)]
  split
  · rename_i first
    simp [first]
  · split
    · rename_i pairs
      cases surrogates <;> simp [pairs]
    · rename_i first other
      rw [if_neg fun pairs => other pairs.1]

/-- … or one of four. -/
lemma utf8Open_four (least : 0xF0 ≤ b) (most : b ≤ 0xF4) :
    utf8Open surrogates b = ([], some ⟨3, if b = 0xF0 then 0x90 else 0x80,
      if b = 0xF4 then 0x8F else 0xBF, b % 8⟩) := by
  rw [utf8Open, if_neg (by omega), if_neg (by omega), if_neg (by omega), if_neg (by omega),
    if_neg (by omega), if_neg (by omega)]
  split
  · rename_i first
    simp [first]
  · rename_i later
    split
    · rw [if_neg (by omega : ¬ b = 0xF4)]
    · have last : b = 0xF4 := by omega
      rw [if_pos last, if_pos last]

/-- The last byte of a sequence completes it … -/
lemma utf8Step_last (least : low ≤ b) (most : b ≤ high) :
    utf8Step surrogates (some ⟨1, low, high, value⟩) b = ([some (value * 64 + b % 64)], none) := by
  simp only [utf8Step, least, most, and_self, if_true]

/-- … and one before goes on with it. -/
lemma utf8Step_inner (least : low ≤ b) (most : b ≤ high) :
    utf8Step surrogates (some ⟨missing + 2, low, high, value⟩) b
      = ([], some ⟨missing + 1, 0x80, 0xBF, value * 64 + b % 64⟩) := by
  have more : missing + 2 ≠ 1 := by omega
  simp only [utf8Step, least, most, more, and_self, if_true, if_false]
  rfl

end Scan

/-- **One character is scanned as itself.** -/
lemma utf8Scan_char (surrogates : Bool) (c : Char) (rest : List UInt8) :
    utf8Scan surrogates none (String.utf8EncodeChar c ++ rest)
      = some c.toNat :: utf8Scan surrogates none rest := by
  have valid : c.toNat < 0xD800 ∨ 0xDFFF < c.toNat ∧ c.toNat < 0x110000 := c.valid
  have bytes : String.utf8EncodeChar c = if c.toNat ≤ 0x7F then [.ofNat c.toNat]
    else if c.toNat ≤ 0x7FF then
      [.ofNat (c.toNat / 64 % 0x20 + 0xC0), .ofNat (c.toNat % 0x40 + 0x80)]
    else if c.toNat ≤ 0xFFFF then
      [.ofNat (c.toNat / 4096 % 0x10 + 0xE0), .ofNat (c.toNat / 64 % 0x40 + 0x80),
        .ofNat (c.toNat % 0x40 + 0x80)]
    else [.ofNat (c.toNat / 262144 % 0x08 + 0xF0), .ofNat (c.toNat / 4096 % 0x40 + 0x80),
      .ofNat (c.toNat / 64 % 0x40 + 0x80), .ofNat (c.toNat % 0x40 + 0x80)] := rfl
  have small : ∀ {n : ℕ}, n < 256 → (UInt8.ofNat n).toNat = n := fun less =>
    (UInt8.toNat_ofNat' ..).trans (Nat.mod_eq_of_lt less)
  rw [bytes]
  generalize c.toNat = v at valid
  split
  · rw [List.singleton_append, utf8Scan, small (by omega), utf8Step, utf8Open, if_pos (by omega)]
    rfl
  split
  · simp only [List.cons_append, List.nil_append, utf8Scan]
    rw [small (by omega), small (by omega), utf8Step, utf8Open_two (by omega) (by omega)]
    dsimp only
    rw [utf8Step_last (by omega) (by omega)]
    dsimp only
    rw [show (v / 64 % 32 + 192) % 32 * 64 + (v % 64 + 128) % 64 = v by omega]
    rfl
  split
  · simp only [List.cons_append, List.nil_append, utf8Scan]
    rw [small (by omega), small (by omega), small (by omega), utf8Step,
      utf8Open_three (by omega) (by omega)]
    dsimp only
    rw [utf8Step_inner (by split <;> omega) (by split <;> omega)]
    dsimp only
    rw [utf8Step_last (by omega) (by omega)]
    dsimp only
    rw [show ((v / 4096 % 16 + 224) % 16 * 64 + (v / 64 % 64 + 128) % 64) * 64
      + (v % 64 + 128) % 64 = v by omega]
    rfl
  · simp only [List.cons_append, List.nil_append, utf8Scan]
    rw [small (by omega), small (by omega), small (by omega), small (by omega), utf8Step,
      utf8Open_four (by omega) (by omega)]
    dsimp only
    rw [utf8Step_inner (by split <;> omega) (by split <;> omega)]
    dsimp only
    rw [utf8Step_inner (by omega) (by omega)]
    dsimp only
    rw [utf8Step_last (by omega) (by omega)]
    dsimp only
    rw [show (((v / 262144 % 8 + 240) % 8 * 64 + (v / 4096 % 64 + 128) % 64) * 64
      + (v / 64 % 64 + 128) % 64) * 64 + (v % 64 + 128) % 64 = v by omega]
    rfl

/-- The bytes of characters are scanned as these characters. -/
lemma utf8Scan_utf8 (surrogates : Bool) (cs : List Char) :
    utf8Scan surrogates none (String.ofList cs).toUTF8.toList
      = cs.map fun c => some c.toNat := by
  rw [toList_toUTF8]
  induction cs with
  | nil => rfl
  | cons c rest ih => rw [List.flatMap_cons, utf8Scan_char, ih, List.map_cons]

/-! ## Texts that spell code points -/

/-- A text in which each mark is one of a pair or comes before a stand-in. -/
def IsSpelled (cs : List Char) : Prop := ∃ ns : List ℕ, (∀ n ∈ ns, n ≤ markCode) ∧ cs = spelled ns

namespace IsSpelled

variable {cs ds : List Char}

/-- Whatever is spelled from numbers can be read back to them. -/
lemma of_codes {ns : List ℕ} (bounded : ∀ n ∈ ns, n ≤ markCode) : IsSpelled (spelled ns) :=
  ⟨ns, bounded, rfl⟩

lemma append (first : IsSpelled cs) (second : IsSpelled ds) : IsSpelled (cs ++ ds) := by
  obtain ⟨ms, bounded, rfl⟩ := first
  obtain ⟨ns, bounded', rfl⟩ := second
  refine ⟨ms ++ ns, fun n listed => ?_, List.flatMap_append.symm⟩
  exact (List.mem_append.mp listed).elim (bounded n) (bounded' n)

lemma flatMap {α : Type} {as : List α} {g : α → List Char} (each : ∀ a ∈ as, IsSpelled (g a)) :
    IsSpelled (as.flatMap g) := by
  induction as with
  | nil => exact of_codes (fun n listed => absurd listed List.not_mem_nil)
  | cons a rest ih =>
      exact (each a List.mem_cons_self).append
        (ih fun b listed => each b (List.mem_cons_of_mem a listed))

/-- Parts that can be read back, with something between them that can. -/
lemma intercalate {separator : List Char} {parts : List (List Char)}
    (between : IsSpelled separator) (each : ∀ part ∈ parts, IsSpelled part) :
    IsSpelled (separator.intercalate parts) := by
  induction parts with
  | nil => exact of_codes (fun n listed => absurd listed List.not_mem_nil)
  | cons part rest ih =>
      have first := each part List.mem_cons_self
      have later := ih fun other listed => each other (List.mem_cons_of_mem part listed)
      by_cases last : rest = []
      · rw [last, List.intercalate_singleton]
        exact first
      · rw [List.intercalate_cons_of_ne_nil last]
        exact (first.append between).append later

/-- Its code points spell it. -/
lemma spelled_codes (text : IsSpelled cs) : spelled (codes cs) = cs := by
  obtain ⟨ns, bounded, rfl⟩ := text
  rw [codes_spelled bounded]

/-- The numbers of a text are those of characters and halves. -/
lemma codes_le (text : IsSpelled cs) : ∀ n ∈ codes cs, n ≤ markCode := by
  obtain ⟨ns, bounded, rfl⟩ := text
  rwa [codes_spelled bounded]

/-- What follows has code points of its own. -/
lemma codes_append (text : IsSpelled cs) (ds : List Char) :
    codes (cs ++ ds) = codes cs ++ codes ds := by
  obtain ⟨ns, bounded, rfl⟩ := text
  rw [codes_spelled bounded]
  induction ns with
  | nil => rfl
  | cons n rest ih =>
      rw [spelled, List.flatMap_cons, List.append_assoc,
        codes_spell_append (bounded n List.mem_cons_self), List.cons_append]
      exact congrArg _ (ih fun m listed => bounded m (List.mem_cons_of_mem n listed))

end IsSpelled

lemma toNat_le_markCode (c : Char) : c.toNat ≤ markCode := by
  have valid : c.toNat < 0xD800 ∨ 0xDFFF < c.toNat ∧ c.toNat < 0x110000 := c.valid
  unfold markCode
  omega

/-- A character that is not the mark spells itself. -/
lemma spell_toNat {c : Char} (unmarked : c ≠ mark) : spell c.toNat = [c] := by
  have valid : c.toNat < 0xD800 ∨ 0xDFFF < c.toNat ∧ c.toNat < 0x110000 := c.valid
  have notLast : c.toNat ≠ markCode := fun last =>
    unmarked (Char.toNat_inj.mp (last.trans toNat_mark.symm))
  have whole : ¬ isHalf c.toNat = true := fun half => by
    have := isHalf_iff.mp half
    omega
  rw [spell, if_neg notLast, if_neg whole, Char.ofNat_toNat]

/-- A text without marks spells itself. -/
lemma spelled_toNat {cs : List Char} (unmarked : ∀ c ∈ cs, c ≠ mark) :
    spelled (cs.map Char.toNat) = cs := by
  induction cs with
  | nil => rfl
  | cons c rest ih =>
      rw [List.map_cons, spelled, List.flatMap_cons, spell_toNat (unmarked c List.mem_cons_self)]
      exact congrArg _ (ih fun d listed => unmarked d (List.mem_cons_of_mem c listed))

lemma isSpelled_of_unmarked {cs : List Char} (unmarked : ∀ c ∈ cs, c ≠ mark) : IsSpelled cs := by
  refine ⟨cs.map Char.toNat, fun n listed => ?_, (spelled_toNat unmarked).symm⟩
  obtain ⟨c, -, rfl⟩ := List.mem_map.mp listed
  exact toNat_le_markCode c

lemma IsLow.isSpelled {cs : List Char} (low : IsLow cs) : IsSpelled cs :=
  isSpelled_of_unmarked fun c listed marked => by
    have small := low c listed
    rw [marked] at small
    exact absurd small (by decide)

/-! ## Texts without halves -/

/-- No code point of a text is a half. -/
def IsWhole (cs : List Char) : Prop := ∀ n ∈ codes cs, isHalf n = false

namespace IsWhole

variable {cs ds : List Char}

/-- A text has bytes exactly when its two parts have; no pair of halves comes together where they
meet. -/
lemma append_iff (text : IsSpelled cs) : IsWhole (cs ++ ds) ↔ IsWhole cs ∧ IsWhole ds := by
  unfold IsWhole
  rw [text.codes_append, List.forall_mem_append]

/-- A text has bytes exactly when all its pieces have. -/
lemma flatMap_iff {α : Type} {as : List α} {g : α → List Char}
    (each : ∀ a ∈ as, IsSpelled (g a)) : IsWhole (as.flatMap g) ↔ ∀ a ∈ as, IsWhole (g a) := by
  induction as with
  | nil => exact iff_of_true (fun n listed => absurd listed List.not_mem_nil) (by simp)
  | cons a rest ih =>
      rw [List.flatMap_cons, append_iff (each a List.mem_cons_self), List.forall_mem_cons,
        ih fun b listed => each b (List.mem_cons_of_mem a listed)]

/-- The same with something between the pieces. -/
lemma intercalate_iff {separator : List Char} {parts : List (List Char)}
    (between : IsSpelled separator) (whole : IsWhole separator)
    (each : ∀ part ∈ parts, IsSpelled part) :
    IsWhole (separator.intercalate parts) ↔ ∀ part ∈ parts, IsWhole part := by
  induction parts with
  | nil => exact iff_of_true (fun n listed => absurd listed List.not_mem_nil) (by simp)
  | cons part rest ih =>
      have first := each part List.mem_cons_self
      have later := ih fun other listed => each other (List.mem_cons_of_mem part listed)
      rw [List.forall_mem_cons]
      by_cases last : rest = []
      · rw [last, List.intercalate_singleton]
        simp
      · rw [List.intercalate_cons_of_ne_nil last, append_iff (first.append between),
          append_iff first, later, and_iff_left whole]

end IsWhole

lemma IsLow.isWhole {cs : List Char} (low : IsLow cs) : IsWhole cs :=
  fun _ listed => low.isHalf_eq_false listed

/-! ## Reading back -/

lemma wholeChars?_some (ns : List ℕ) : wholeChars? (ns.map some) = some (spelled ns) := by
  induction ns with
  | nil => rfl
  | cons n rest ih =>
      rw [List.map_cons, wholeChars?, ih]
      rfl

/-- The bytes of characters are read as their code points: a mark is doubled, and nothing else
changes. -/
lemma lossyChars_utf8 (cs : List Char) :
    lossyChars (String.ofList cs).toUTF8 = spelled (cs.map Char.toNat) := by
  rw [lossyChars, utf8Scan_utf8, spelled, List.flatMap_map, List.flatMap_map]
  rfl

/-- The bytes of a text are read back strictly to the text. -/
lemma strictUtf8?_utf8 (cs : List Char) :
    strictUtf8? (String.ofList cs).toUTF8.toList = some (spelled (cs.map Char.toNat)) := by
  rw [strictUtf8?, utf8Scan_utf8, ← wholeChars?_some, List.map_map]
  rfl

lemma isValidChar_of_le {n : ℕ} (bounded : n ≤ markCode) (whole : isHalf n = false) :
    n.isValidChar := by
  have outside : ¬ (0xD800 ≤ n ∧ n < 0xE000) := fun within => by
    rw [isHalf_iff.mpr within] at whole
    cases whole
  unfold markCode at bounded
  unfold Nat.isValidChar
  omega

/-- A text can be encoded exactly when the alphabet covers all its characters. -/
lemma Alphabet.problem?_eq_none_iff {a : Alphabet} {ns : List ℕ} (place : ℕ) :
    a.problem? place ns = none ↔ ∀ n ∈ ns, a.covers n := by
  refine ⟨fun none n listed => ?_, fun covered => problem?_eq_none covered place⟩
  induction ns generalizing place with
  | nil => cases listed
  | cons m rest ih =>
      rw [problem?] at none
      split at none
      · rename_i covered
        rcases List.mem_cons.mp listed with rfl | later
        · exact covered
        · exact ih (place + 1) none later
      · cases none

/-- What has bytes has no half, and the bytes are those of its code points. -/
lemma encodeUtf8_eq_ok_iff {text : String} {bytes : ByteArray} :
    encodeUtf8 text = .ok bytes ↔
      IsWhole text.toList ∧ bytes = bytesOfCodes (codes text.toList) := by
  have whole : Alphabet.utf8.problem? 0 (codes text.toList) = none ↔ IsWhole text.toList :=
    (Alphabet.problem?_eq_none_iff 0).trans
      (by simp only [IsWhole, Alphabet.covers, Bool.not_eq_true'])
  rw [encodeUtf8, ← whole]
  split
  · rename_i p found
    rw [found]
    constructor
    · rintro ⟨⟩
    · rintro ⟨⟨⟩, -⟩
  · rename_i none
    rw [Except.ok.injEq]
    exact ⟨fun same => ⟨none, same.symm⟩, fun same => same.2.symm⟩

/-- **A text has bytes unless it has a half.** -/
lemma exists_bytes_iff {text : String} :
    (∃ bytes, encodeUtf8 text = .ok bytes) ↔ IsWhole text.toList := by
  constructor
  · rintro ⟨bytes, encoded⟩
    exact (encodeUtf8_eq_ok_iff.mp encoded).1
  · exact fun whole => ⟨_, encodeUtf8_eq_ok_iff.mpr ⟨whole, rfl⟩⟩

section Encoded

variable {text : String} {bytes : ByteArray}

/-- The bytes of a text are those of characters that have its code points … -/
lemma exists_chars_of_encodeUtf8 (spelled : IsSpelled text.toList)
    (encoded : encodeUtf8 text = .ok bytes) :
    ∃ cs, bytes = (String.ofList cs).toUTF8 ∧ Text.spelled (cs.map Char.toNat) = text.toList := by
  obtain ⟨whole, rfl⟩ := encodeUtf8_eq_ok_iff.mp encoded
  refine ⟨(codes text.toList).map Char.ofNat, rfl, ?_⟩
  have same : ((codes text.toList).map Char.ofNat).map Char.toNat = codes text.toList := by
    rw [List.map_map]
    conv_rhs => rw [← List.map_id (codes text.toList)]
    exact List.map_congr_left fun n listed =>
      toNat_ofNat_of_valid (isValidChar_of_le (spelled.codes_le n listed) (whole n listed))
  rw [same, spelled.spelled_codes]

/-- … so that **nothing is lost in them**: the reader that replaces gaps gives the text back … -/
lemma lossyText_of_encodeUtf8 (spelled : IsSpelled text.toList)
    (encoded : encodeUtf8 text = .ok bytes) : lossyText bytes = text := by
  obtain ⟨cs, rfl, same⟩ := exists_chars_of_encodeUtf8 spelled encoded
  rw [lossyText, lossyChars_utf8, same, String.ofList_toList]

/-- … and so does the strict one. -/
lemma strictUtf8?_of_encodeUtf8 (spelled : IsSpelled text.toList)
    (encoded : encodeUtf8 text = .ok bytes) : strictUtf8? bytes.toList = some text.toList := by
  obtain ⟨cs, rfl, same⟩ := exists_chars_of_encodeUtf8 spelled encoded
  rw [strictUtf8?_utf8, same]

end Encoded

end Text

end Montage
