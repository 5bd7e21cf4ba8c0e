/-!
# Halves of surrogate pairs

JSON can spell half of a surrogate pair without the other, and such a text has to be kept as it is.
A half is a code point but no character, so a text **spells it with two characters**: a mark and a
stand-in.  The mark is the last code point of all, which is no assigned character; where it occurs
itself it is written twice.

* `spelled` — the characters of a list of code points.
* `codes` — the code points of a text; **`codes_spelled`** says that spelling loses nothing.
* `EncodingProblem` — why a text cannot be encoded, as one with halves.
-/

namespace Montage.Text

/-! ## Code points -/

/-- The last code point. -/
def markCode : Nat := 0x10FFFF

/-- What comes before a stand-in. -/
def mark : Char := Char.ofNat markCode

/-- Halves of surrogate pairs lie from here … -/
def halfStart : Nat := 0xD800

/-- … up to here. -/
def halfEnd : Nat := 0xE000

/-- Whether a number is one half of a pair, which is no character of its own. -/
def isHalf (n : Nat) : Bool := halfStart ≤ n && n < halfEnd

/-- The stand-in of the first half; those of the others follow. -/
def standInStart : Nat := 0x10F000

/-- The characters of a code point. -/
def spell (n : Nat) : List Char :=
  if n = markCode then [mark, mark]
  else if isHalf n then [mark, Char.ofNat (standInStart + (n - halfStart))]
  else [Char.ofNat n]

/-- A text in which halves are spelled by characters that stand for them. -/
def spelled (ns : List Nat) : List Char := ns.flatMap spell

/-- The code point that the character after a mark stands for. -/
def markedCode (c : Char) : Nat :=
  if c = mark then markCode else halfStart + (c.toNat - standInStart)

/-- The code points of a text. -/
def codes : List Char → List Nat
  | [] => []
  | c :: rest =>
    if c = mark then
      match rest with
      | [] => [markCode]
      | d :: rest => markedCode d :: codes rest
    else c.toNat :: codes rest

/-- Whether code points come before others: by the first that differs, or as their beginning. -/
def codesPrecede : List Nat → List Nat → Bool
  | [], [] => false
  | [], _ :: _ => true
  | _ :: _, [] => false
  | m :: ms, n :: ns => m < n || (m = n && codesPrecede ms ns)

/-- Whether a text comes before another one in the order of code points. -/
def precedes (s t : String) : Bool := codesPrecede (codes s.toList) (codes t.toList)

/-! ## Encoding -/

/-- An encoding by the code points that it has bytes for. -/
inductive Alphabet where
  | ascii
  | utf8
  /-- UTF-8 in the names of files: a byte that belongs to no character is kept as a half. -/
  | fileNames
  deriving DecidableEq, Repr

namespace Alphabet

/-- The name of an alphabet in complaints. -/
def name : Alphabet → String
  | ascii => "ascii"
  | utf8 | fileNames => "utf-8"

/-- Whether a half keeps a byte. -/
def keepsByte (n : Nat) : Bool := 0xDC80 ≤ n && n ≤ 0xDCFF

/-- Whether a code point has bytes. -/
def covers : Alphabet → Nat → Bool
  | ascii, n => n < 0x80
  | utf8, n => !isHalf n
  | fileNames, n => !isHalf n || keepsByte n

/-- Whether a code point is of the kind that may have no bytes. -/
def suspects : Alphabet → Nat → Bool
  | ascii, n => 0x80 ≤ n
  | utf8, n => isHalf n
  | fileNames, n => isHalf n

/-- Why a code point has no bytes. -/
def reason : Alphabet → String
  | ascii => "ordinal not in range(128)"
  | utf8 | fileNames => "surrogates not allowed"

end Alphabet

/-- The first code point of a text that has no bytes, its place, and where the code points of its
kind end. -/
structure EncodingProblem where
  alphabet : Alphabet
  place : Nat
  first : Nat
  finish : Nat
  deriving DecidableEq

/-- The first code point without bytes; `place` counts the code points before. -/
def Alphabet.problem? (a : Alphabet) (place : Nat) : List Nat → Option EncodingProblem
  | [] => none
  | n :: rest =>
    if a.covers n then a.problem? (place + 1) rest
    else some ⟨a, place, n, place + 1 + (rest.takeWhile a.suspects).length⟩

/-- How many bytes a code point takes; a half stands for one byte. -/
def encodedSize (n : Nat) : Nat := if isHalf n then 1 else (Char.ofNat n).utf8Size

/-- How many bytes a text takes. -/
def byteCount (text : String) : Nat :=
  (codes text.toList).foldl (fun size n => size + encodedSize n) 0

/-- Whether a text has a half in it; such texts can be held but not encoded. -/
def hasHalf (text : String) : Bool := (codes text.toList).any isHalf

/-- The UTF-8 bytes of code points that are characters. -/
def bytesOfCodes (ns : List Nat) : ByteArray := (String.ofList (ns.map Char.ofNat)).toUTF8

/-- The UTF-8 bytes of a text. -/
def encodeUtf8 (text : String) : Except EncodingProblem ByteArray :=
  let ns := codes text.toList
  match Alphabet.utf8.problem? 0 ns with
  | some p => .error p
  | none => .ok (bytesOfCodes ns)

/-! ## Spelling loses nothing -/

theorem toNat_ofNat_of_valid {n : Nat} (h : n.isValidChar) : (Char.ofNat n).toNat = n := by
  rw [Char.ofNat, dif_pos h]
  rfl

theorem codes_mark_mark (cs : List Char) : codes (mark :: mark :: cs) = markCode :: codes cs := by
  simp [codes, markedCode]

theorem codes_mark_of_ne {c : Char} (h : c ≠ mark) (cs : List Char) :
    codes (mark :: c :: cs) = (halfStart + (c.toNat - standInStart)) :: codes cs := by
  simp [codes, markedCode, h]

theorem codes_of_ne {c : Char} (h : c ≠ mark) (cs : List Char) :
    codes (c :: cs) = c.toNat :: codes cs := by
  cases cs <;> simp [codes, h]

theorem toNat_mark : mark.toNat = markCode := by decide

theorem isHalf_iff {n : Nat} : isHalf n = true ↔ 0xD800 ≤ n ∧ n < 0xE000 := by
  unfold isHalf halfStart halfEnd
  rw [Bool.and_eq_true, decide_eq_true_iff, decide_eq_true_iff]

/-- A character that a code point stands for, and that is not the mark, is read as itself. -/
theorem codes_ofNat_append {n : Nat} (h : n.isValidChar) (hn : n ≠ markCode) (cs : List Char) :
    codes (Char.ofNat n :: cs) = n :: codes cs := by
  have ne : Char.ofNat n ≠ mark := fun he =>
    hn (by rw [← toNat_ofNat_of_valid h, he, toNat_mark])
  rw [codes_of_ne ne, toNat_ofNat_of_valid h]

theorem standIn_valid {n : Nat} (h : isHalf n = true) :
    (standInStart + (n - halfStart)).isValidChar := by
  have := isHalf_iff.1 h
  unfold standInStart halfStart Nat.isValidChar
  omega

theorem codes_spell_append {n : Nat} (h : n ≤ markCode) (cs : List Char) :
    codes (spell n ++ cs) = n :: codes cs := by
  unfold spell
  split
  next hm => rw [hm]; exact codes_mark_mark cs
  next hm =>
    split
    next hh =>
      have valid := standIn_valid hh
      have bounds := isHalf_iff.1 hh
      have ne : Char.ofNat (standInStart + (n - halfStart)) ≠ mark := fun he => by
        have := (toNat_ofNat_of_valid valid).symm.trans ((congrArg Char.toNat he).trans toNat_mark)
        unfold standInStart halfStart markCode at this
        omega
      have same : halfStart + (standInStart + (n - halfStart) - standInStart) = n := by
        unfold standInStart halfStart
        omega
      have read := codes_mark_of_ne ne cs
      rw [toNat_ofNat_of_valid valid, same] at read
      exact read
    next hh =>
      have valid : n.isValidChar := by
        have : ¬ (0xD800 ≤ n ∧ n < 0xE000) := fun hb => hh (isHalf_iff.2 hb)
        unfold Nat.isValidChar
        unfold markCode at h
        omega
      exact codes_ofNat_append valid hm cs

/-- **Spelling loses nothing.** -/
theorem codes_spelled {ns : List Nat} (h : ∀ n ∈ ns, n ≤ markCode) : codes (spelled ns) = ns := by
  induction ns with
  | nil => rfl
  | cons n rest ih =>
    rw [spelled, List.flatMap_cons, codes_spell_append (h n (by simp))]
    exact congrArg _ (ih fun m hm => h m (by simp [hm]))

end Montage.Text
