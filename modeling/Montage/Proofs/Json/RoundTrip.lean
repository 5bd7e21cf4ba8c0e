import Mathlib.Data.List.Induction
import Mathlib.Data.List.Nodup
import Mathlib.Tactic.Common
import Montage.Json.Reader
import Montage.Json.Writer
import Montage.Proofs.Text.Encoding

/-!
# Texts in JSON

What is written of an object whose values are texts is read as this object, whatever the texts are.

* **`stringTail_flatMap`** — the reader undoes the escapes of a text.
* **`writeWith_eq`** — what is written of any value, in characters, and when nothing is;
  `parse_of_write` — what is read again.
* `readMembers_texts`, **`document_texts`** — an object of texts is read as itself …
* **`parseBytes_texts`** — … also from its bytes; `exists_bytes_texts_iff` says when it has any.
-/

namespace Montage.Json

/-! ## One text -/

section Escapes

variable {opened : ℕ} {acc rest : List Char}

/-- The closing quote ends a text. -/
lemma stringTail_quote :
    stringTail opened acc 0 ('"' :: rest) = .ok (String.ofList acc.reverse, rest) := rfl

/-- The characters of an escape that are already read are passed over. -/
lemma stringTail_skip (read rest : List Char) :
    stringTail opened acc read.length (read ++ rest) = stringTail opened acc 0 rest := by
  induction read with
  | nil => rfl
  | cons c read ih => exact ih

/-- A character that needs no escape is read as it is. -/
lemma stringTail_plain {c : Char} (quote : c ≠ '"') (backslash : c ≠ '\\')
    (control : ¬ c.toNat < 0x20) :
    stringTail opened acc 0 (c :: rest) = stringTail opened (c :: acc) 0 rest := by
  rw [stringTail.eq_def]
  dsimp only
  rw [if_neg quote, if_neg control, if_pos backslash]

/-- An escape is read as the character that it stands for. -/
lemma stringTail_escape {e x : Char} (named : simpleEscape? e = some x) :
    stringTail opened acc 0 ('\\' :: e :: rest) = stringTail opened (x :: acc) 0 rest := by
  unfold simpleEscape? at named
  split at named
  all_goals cases named
  all_goals rfl

/-- A control is read from the four digits that it is written with. -/
lemma stringTail_control {n : ℕ} (control : n < 0x20) (more : rest ≠ []) :
    stringTail opened acc 0 ('\\' :: 'u' :: (Text.hexDigits 4 n ++ rest))
      = stringTail opened (Char.ofNat n :: acc) 0 rest := by
  have digits : ∀ n < 0x20, (Text.hexDigits 4 n).length = 4
      ∧ hex4? (Text.hexDigits 4 n) = some n ∧ Text.isHighSurrogate n = false
      ∧ Text.spell n = [Char.ofNat n] := by
    decide
  obtain ⟨four, read, single, spelled⟩ := digits n control
  have longer : ¬ (Text.hexDigits 4 n ++ rest).length ≤ 4 := by
    have := List.length_pos_iff.mpr more
    rw [List.length_append]
    omega
  have taken : (Text.hexDigits 4 n ++ rest).take 4 = Text.hexDigits 4 n := List.take_left' four
  rw [stringTail, if_neg (by decide), if_neg (by decide), if_neg (by decide)]
  dsimp only
  rw [if_neg longer, taken, read]
  dsimp only
  rw [single, if_neg Bool.false_ne_true, spelled]
  have skipped := @stringTail_skip opened (Char.ofNat n :: acc) ('u' :: Text.hexDigits 4 n) rest
  rwa [List.length_cons, four] at skipped

/-- **One character is read from what it is written with.** -/
lemma stringTail_escapedChar (c : Char) (more : rest ≠ []) :
    stringTail opened acc 0 (escapedChar c ++ rest) = stringTail opened (c :: acc) 0 rest := by
  unfold escapedChar
  split
  · rename_i same
    subst same
    exact stringTail_escape rfl
  split
  · rename_i same
    subst same
    exact stringTail_escape rfl
  split
  · rename_i same
    subst same
    exact stringTail_escape rfl
  split
  · rename_i same
    subst same
    exact stringTail_escape rfl
  split
  · rename_i same
    subst same
    exact stringTail_escape rfl
  split
  · rename_i same
    subst same
    exact stringTail_escape rfl
  split
  · rename_i same
    subst same
    exact stringTail_escape rfl
  split
  · rename_i control
    have read := @stringTail_control opened acc _ _ control more
    rwa [Char.ofNat_toNat] at read
  · rename_i quote backslash _ _ _ _ _ control
    exact stringTail_plain quote backslash control

/-- The reader undoes the escapes of a text. -/
lemma stringTail_flatMap (cs : List Char) :
    stringTail opened acc 0 (cs.flatMap escapedChar ++ '"' :: rest)
      = .ok (String.ofList (acc.reverse ++ cs), rest) := by
  induction cs generalizing acc with
  | nil => rw [List.flatMap_nil, List.nil_append, stringTail_quote, List.append_nil]
  | cons c cs ih =>
      rw [List.flatMap_cons, List.append_assoc, stringTail_escapedChar c (by simp), ih,
        List.reverse_cons, List.append_assoc, List.singleton_append]

end Escapes

lemma toList_writeString (s : String) :
    (writeString s).toList = '"' :: (s.toList.flatMap escapedChar ++ ['"']) := by
  rw [writeString, String.toList_ofList, List.cons_append]

/-- A text that was written is read back, whatever follows it. -/
lemma readValue_writeString (fuel levels : ℕ) (s : String) (rest : List Char) :
    readValue (fuel + 1) levels ((writeString s).toList ++ rest) = .ok (.str s, rest) := by
  rw [toList_writeString, List.cons_append, List.append_assoc, List.singleton_append, readValue,
    stringTail_flatMap]
  rw [List.reverse_nil, List.nil_append, String.ofList_toList]
  rfl

/-! ## The characters of a text -/

mutual

/-- The integers in a value, in the order in which they are written …  Keys are texts. -/
def integers : Json → List Int
  | int i => [i]
  | arr items => itemIntegers items
  | obj members => memberIntegers members
  | _ => []

/-- … in the items of an array … -/
def itemIntegers : List Json → List Int
  | [] => []
  | j :: rest => integers j ++ itemIntegers rest

/-- … and in the values of the members of an object. -/
def memberIntegers : List (String × Json) → List Int
  | [] => []
  | (_, j) :: rest => integers j ++ memberIntegers rest

end

mutual

/-- The characters of the text of a value …  Strings are slow to take apart, lists are not. -/
def valueWritten (spacing : Spacing) : Json → List Char
  | null => "null".toList
  | bool b => (if b then "true" else "false").toList
  | int i => (toString i).toList
  | num x => (writeNumber x).toList
  | str s => '"' :: (s.toList.flatMap escapedChar ++ ['"'])
  | arr items => '[' :: (spacing.comma.toList.intercalate (itemsWritten spacing items) ++ [']'])
  | obj members =>
    '\x7b' :: (spacing.comma.toList.intercalate (membersWritten spacing members) ++ ['\x7d'])

/-- … of each item … -/
def itemsWritten (spacing : Spacing) : List Json → List (List Char)
  | [] => []
  | j :: rest => valueWritten spacing j :: itemsWritten spacing rest

/-- … and of each member. -/
def membersWritten (spacing : Spacing) : List (String × Json) → List (List Char)
  | [] => []
  | (k, j) :: rest =>
    ('"' :: (k.toList.flatMap escapedChar ++ ['"']) ++ spacing.colon.toList
      ++ valueWritten spacing j) :: membersWritten spacing rest

end

/-- Texts between two brackets, in characters. -/
lemma bracketed_intercalate {opening closing : String} (comma : String) (parts : List (List Char)) :
    opening ++ comma.intercalate (parts.map String.ofList) ++ closing
      = String.ofList (opening.toList ++ (comma.toList.intercalate parts ++ closing.toList)) := by
  have kept : (parts.map String.ofList).map String.toList = parts := by
    simp [List.map_map, Function.comp_def, String.toList_ofList]
  rw [← String.toList_inj, String.toList_append, String.toList_append, String.toList_intercalate,
    kept, String.toList_ofList, List.append_assoc]

mutual

/-- **What is written of a value**: its characters, provided that its integers can be written. -/
theorem writeWith_eq (spacing : Spacing) (j : Json) :
    writeWith spacing j = ifShort j.integers (String.ofList (valueWritten spacing j)) := by
  cases j with
  | int i => rw [writeWith, integers, valueWritten, String.ofList_toList, numeral_eq_ifShort]
  | arr items =>
      rw [writeWith, writeItems_eq, integers, valueWritten]
      exact ifShort_bind_ok (congrArg Except.ok (bracketed_intercalate _ _))
  | obj members =>
      rw [writeWith, writeMembers_eq, integers, valueWritten]
      exact ifShort_bind_ok (congrArg Except.ok (bracketed_intercalate _ _))
  | null => rw [writeWith, valueWritten, String.ofList_toList]; rfl
  | bool b => rw [writeWith, valueWritten, String.ofList_toList]; rfl
  | num x => rw [writeWith, valueWritten, String.ofList_toList]; rfl
  | str s => rw [writeWith, valueWritten, ← toList_writeString, String.ofList_toList]; rfl

/-- Items are written when all their whole numbers can be. -/
theorem writeItems_eq (spacing : Spacing) (items : List Json) :
    writeItems spacing items
      = ifShort (itemIntegers items) ((itemsWritten spacing items).map String.ofList) := by
  cases items with
  | nil => rw [writeItems, itemsWritten]; rfl
  | cons j rest =>
      rw [writeItems, itemsWritten, itemIntegers, writeWith_eq spacing j, writeItems_eq spacing rest]
      exact ifShort_bind (ifShort_bind_ok rfl)

/-- Members are written when all their whole numbers can be. -/
theorem writeMembers_eq (spacing : Spacing) (members : List (String × Json)) :
    writeMembers spacing members
      = ifShort (memberIntegers members) ((membersWritten spacing members).map String.ofList) := by
  cases members with
  | nil => rw [writeMembers, membersWritten]; rfl
  | cons m rest =>
      rw [writeMembers, membersWritten, memberIntegers, writeWith_eq spacing m.2,
        writeMembers_eq spacing rest]
      refine ifShort_bind (ifShort_bind_ok ?_)
      have member : writeString m.1 ++ spacing.colon ++ String.ofList (valueWritten spacing m.2)
          = String.ofList ('"' :: (m.1.toList.flatMap escapedChar ++ ['"']) ++ spacing.colon.toList
            ++ valueWritten spacing m.2) := by
        rw [← String.toList_inj, String.toList_append, String.toList_append, toList_writeString,
          String.toList_ofList, String.toList_ofList]
      rw [List.map_cons, ← member]
      rfl

end

/-- A value that can be written is read from the characters of its text. -/
lemma parse_of_write {j : Json} {text : String} (written : j.write = .ok text) : parse text
    = (document (valueWritten spaced j)).mapError (locate (valueWritten spaced j)) := by
  rw [write, writeWith_eq, ifShort_eq_ok_iff] at written
  rw [← written.2, parse, String.toList_ofList]

/-! ## Objects of texts -/

/-- Members whose values are texts. -/
def texts (ms : List (String × String)) : List (String × Json) := ms.map fun m => (m.1, .str m.2)

/-- What is written of one such member … -/
def textWritten (m : String × String) : List Char :=
  (writeString m.1).toList ++ ':' :: (writeString m.2).toList

/-- … and of several. -/
def textsWritten (ms : List (String × String)) : List Char :=
  [','].intercalate (ms.map textWritten)

/-- What is written of an object of texts, in characters. -/
def objectWritten (ms : List (String × String)) : List Char :=
  '\x7b' :: (textsWritten ms ++ ['\x7d'])

/-- An object of texts can always be written: there are no integers in it. -/
lemma writeWith_texts (ms : List (String × String)) :
    writeWith compact (.obj (texts ms)) = .ok (String.ofList (objectWritten ms)) := by
  have members : membersWritten compact (texts ms) = ms.map textWritten := by
    induction ms with
    | nil => rfl
    | cons m rest ih =>
        rw [texts, List.map_cons, membersWritten, List.map_cons, valueWritten, textWritten,
          toList_writeString, toList_writeString, List.append_assoc]
        exact congrArg₂ _ rfl ih
  have none : memberIntegers (texts ms) = [] := by
    clear members
    induction ms with
    | nil => rfl
    | cons m rest ih =>
        rw [texts, List.map_cons, memberIntegers, integers, List.nil_append]
        · exact ih
        all_goals nofun
  rw [writeWith_eq, integers, none, valueWritten, members]
  rfl

/-- What is read is read on from. -/
lemma ok_bind {α β : Type} (a : α) (f : α → Read β) : (Except.ok a >>= f) = f a := rfl

/-- A text begins with a quote, so there is nothing to skip. -/
lemma skipSpace_writeString (s : String) (rest : List Char) :
    skipSpace ((writeString s).toList ++ rest) = (writeString s).toList ++ rest := by
  rw [toList_writeString]
  rfl

/-- A member starts with its name. -/
lemma textWritten_append (m : String × String) (rest : List Char) :
    textWritten m ++ rest = '"' :: (m.1.toList.flatMap escapedChar
      ++ '"' :: ':' :: ((writeString m.2).toList ++ rest)) := by
  rw [textWritten, List.append_assoc, List.cons_append, toList_writeString m.1, List.cons_append,
    List.append_assoc, List.singleton_append]

/-- The last member ends the object. -/
lemma readMembers_last (fuel levels : ℕ) (m : String × String) (rest : List Char) :
    readMembers (fuel + 2) levels (textWritten m ++ '\x7d' :: rest)
      = .ok ([(m.1, .str m.2)], rest) := by
  have value := readValue_writeString fuel levels m.2 ('\x7d' :: rest)
  rw [textWritten_append, readMembers, stringTail_flatMap, List.reverse_nil, List.nil_append,
    String.ofList_toList, ok_bind]
  change readValue (fuel + 1) levels (skipSpace ((writeString m.2).toList ++ '\x7d' :: rest))
    >>= _ = _
  rw [skipSpace_writeString, value, ok_bind]
  rfl

/-- After any other member the reading goes on. -/
lemma readMembers_next {fuel levels : ℕ} (m : String × String) {rest left : List Char}
    {more : List (String × Json)}
    (others : readMembers (fuel + 1) levels (skipSpace rest) = .ok (more, left)) :
    readMembers (fuel + 2) levels (textWritten m ++ ',' :: rest)
      = .ok ((m.1, .str m.2) :: more, left) := by
  have value := readValue_writeString fuel levels m.2 (',' :: rest)
  rw [textWritten_append, readMembers, stringTail_flatMap, List.reverse_nil, List.nil_append,
    String.ofList_toList, ok_bind]
  change readValue (fuel + 1) levels (skipSpace ((writeString m.2).toList ++ ',' :: rest))
    >>= _ = _
  rw [skipSpace_writeString, value, ok_bind]
  change readMembers (fuel + 1) levels (skipSpace rest) >>= _ = _
  rw [others]
  rfl

lemma textsWritten_singleton (m : String × String) : textsWritten [m] = textWritten m := by
  rw [textsWritten, List.map_singleton, List.intercalate_singleton]

lemma textsWritten_cons_cons (m n : String × String) (ms : List (String × String)) :
    textsWritten (m :: n :: ms) = textWritten m ++ ',' :: textsWritten (n :: ms) := by
  rw [textsWritten, textsWritten, List.map_cons, List.intercalate_cons_of_ne_nil (by simp),
    List.append_assoc, List.singleton_append]

lemma exists_textsWritten (m : String × String) (ms : List (String × String)) :
    ∃ more, textsWritten (m :: ms) = '"' :: more := by
  have first : ∃ more, textWritten m = '"' :: more := by
    rw [textWritten, toList_writeString, List.cons_append]
    exact ⟨_, rfl⟩
  obtain ⟨more, same⟩ := first
  cases ms with
  | nil => exact ⟨more, (textsWritten_singleton m).trans same⟩
  | cons n ms =>
      rw [textsWritten_cons_cons, same, List.cons_append]
      exact ⟨_, rfl⟩

lemma skipSpace_textsWritten (m : String × String) (ms : List (String × String))
    (rest : List Char) :
    skipSpace (textsWritten (m :: ms) ++ rest) = textsWritten (m :: ms) ++ rest := by
  obtain ⟨more, same⟩ := exists_textsWritten m ms
  rw [same]
  rfl

/-- Members are read one after the other. -/
lemma readMembers_texts {fuel levels : ℕ} (m : String × String) (ms : List (String × String))
    (rest : List Char) (enough : ms.length + 2 ≤ fuel) :
    readMembers fuel levels (textsWritten (m :: ms) ++ '\x7d' :: rest)
      = .ok (texts (m :: ms), rest) := by
  induction ms generalizing m fuel with
  | nil =>
      obtain ⟨fuel, rfl⟩ : ∃ k, fuel = k + 2 := Nat.exists_eq_add_of_le' enough
      rw [textsWritten_singleton, readMembers_last]
      rfl
  | cons n ms ih =>
      obtain ⟨fuel, rfl⟩ : ∃ k, fuel = k + 2 :=
        Nat.exists_eq_add_of_le' (Nat.le_of_add_left_le enough)
      have more : readMembers (fuel + 1) levels
          (skipSpace (textsWritten (n :: ms) ++ '\x7d' :: rest)) = .ok (texts (n :: ms), rest) := by
        rw [skipSpace_textsWritten]
        exact ih n (by simp only [List.length_cons] at enough; omega)
      rw [textsWritten_cons_cons, List.append_assoc]
      exact readMembers_next m more

/-- A member with a new key comes to the end. -/
lemma insert_eq_append {key : String} {value : Json} {ms : List (String × Json)}
    (fresh : key ∉ ms.map Prod.fst) : insert key value ms = ms ++ [(key, value)] := by
  induction ms with
  | nil => rfl
  | cons m rest ih =>
      rw [List.map_cons, List.mem_cons, not_or] at fresh
      rw [insert, if_neg (Ne.symm fresh.1), ih fresh.2, List.cons_append]

/-- Members with distinct keys are kept as they are. -/
lemma ofMembers_eq_self {ms : List (String × Json)} (distinct : (ms.map Prod.fst).Nodup) :
    ofMembers ms = ms := by
  induction ms using List.reverseRecOn with
  | nil => rfl
  | append_singleton ms m ih =>
      rw [List.map_append, List.nodup_append'] at distinct
      have fresh : m.1 ∉ ms.map Prod.fst := fun listed =>
        List.disjoint_left.mp distinct.2.2 listed (List.mem_singleton_self _)
      rw [ofMembers, List.foldl_append]
      exact (congrArg (insert m.1 m.2) (ih distinct.1)).trans (insert_eq_append fresh)

/-- An object of texts that was written is read back, with fuel for as many members as it has. -/
lemma readValue_texts {fuel levels : ℕ} (m : String × String) (ms : List (String × String))
    (enough : ms.length + 2 ≤ fuel) :
    readValue (fuel + 1) (levels + 1) ('\x7b' :: (textsWritten (m :: ms) ++ ['\x7d']))
      = .ok (.obj (ofMembers (texts (m :: ms))), []) := by
  have members := @readMembers_texts fuel levels m ms [] enough
  obtain ⟨more, same⟩ := exists_textsWritten m ms
  rw [same, List.cons_append] at members ⊢
  change readMembers fuel levels ('"' :: (more ++ ['\x7d'])) >>= _ = _
  rw [members]
  rfl

/-- What is written has at least one character for each member; so the fuel suffices. -/
lemma length_le_textsWritten (ms : List (String × String)) :
    ms.length ≤ (textsWritten ms).length := by
  match ms with
  | [] => exact Nat.zero_le _
  | [m] =>
      obtain ⟨more, same⟩ := exists_textsWritten m []
      rw [same]
      exact Nat.succ_le_succ (Nat.zero_le _)
  | m :: n :: rest =>
      have shorter := length_le_textsWritten (n :: rest)
      rw [textsWritten_cons_cons]
      simp only [List.length_append, List.length_cons] at shorter ⊢
      omega

/-- **An object of texts is read from what is written of it.** -/
theorem document_texts {ms : List (String × String)} (distinct : (ms.map Prod.fst).Nodup) :
    document (objectWritten ms) = .ok (.obj (texts ms)) := by
  have kept : ofMembers (texts ms) = texts ms := ofMembers_eq_self (by
    rw [texts, List.map_map]
    exact distinct)
  rw [objectWritten, document, if_neg (by simp)]
  cases ms with
  | nil => rfl
  | cons m ms =>
      have enough := length_le_textsWritten (m :: ms)
      have read := @readValue_texts
        (2 * ('\x7b' :: (textsWritten (m :: ms) ++ ['\x7d'])).length) 984 m ms (by
          simp only [List.length_cons, List.length_append] at enough ⊢
          omega)
      rw [kept] at read
      change readValue (2 * ('\x7b' :: (textsWritten (m :: ms) ++ ['\x7d'])).length + 1) (984 + 1)
        ('\x7b' :: (textsWritten (m :: ms) ++ ['\x7d'])) >>= _ = _
      rw [read]
      rfl

/-! ## Bytes of such an object -/

/-- Beyond the first 128 characters nothing is escaped here. -/
lemma escapedChar_eq_self {c : Char} (high : 0x80 ≤ c.toNat) : escapedChar c = [c] := by
  have other : ∀ d : Char, d.toNat < 0x80 → c ≠ d := by
    rintro d low rfl
    omega
  rw [escapedChar, if_neg (other _ (by decide)), if_neg (other _ (by decide)),
    if_neg (other _ (by decide)), if_neg (other _ (by decide)), if_neg (other _ (by decide)),
    if_neg (other _ (by decide)), if_neg (other _ (by decide)), if_neg (by omega)]

lemma le_toNat_of_mem_spell {n : ℕ} (bounded : n ≤ Text.markCode) (high : 0x80 ≤ n) {c : Char}
    (listed : c ∈ Text.spell n) : 0x80 ≤ c.toNat := by
  have marked : 0x80 ≤ Text.mark.toNat := by
    rw [Text.toNat_mark]
    unfold Text.markCode
    omega
  unfold Text.spell at listed
  split at listed
  · rw [List.mem_pair, or_self] at listed
    exact listed ▸ marked
  · split at listed
    · rename_i half
      rcases List.mem_pair.mp listed with same | same
      · exact same ▸ marked
      · rw [same, Text.toNat_ofNat_of_valid (Text.standIn_valid half)]
        unfold Text.standInStart
        omega
    · rename_i whole
      rw [List.mem_singleton.mp listed, Text.toNat_ofNat_of_valid
        (Text.isValidChar_of_le bounded (Bool.eq_false_iff.mpr whole))]
      exact high

/-- What is written of a code point spells code points, and has a half if that is one. -/
lemma flatMap_spell {n : ℕ} (bounded : n ≤ Text.markCode) :
    Text.IsSpelled ((Text.spell n).flatMap escapedChar)
      ∧ (Text.IsWhole ((Text.spell n).flatMap escapedChar) ↔ Text.isHalf n = false) := by
  by_cases small : n < 0x80
  · have single : ¬ Text.isHalf n = true := fun half => by
      have := Text.isHalf_iff.mp half
      omega
    have last : n ≠ Text.markCode := by
      unfold Text.markCode
      omega
    have low : (Char.ofNat n).toNat < Text.halfStart := by
      rw [Text.toNat_ofNat_of_valid (Or.inl (by omega))]
      unfold Text.halfStart
      omega
    rw [Text.spell, if_neg last, if_neg single, List.flatMap_singleton]
    exact ⟨(isLow_escapedChar low).isSpelled,
      iff_of_true (isLow_escapedChar low).isWhole (Bool.eq_false_iff.mpr single)⟩
  · have same : (Text.spell n).flatMap escapedChar = Text.spell n := by
      rw [List.flatMap_congr fun c listed => escapedChar_eq_self
        (le_toNat_of_mem_spell bounded (Nat.le_of_not_lt small) listed), List.flatMap_singleton']
    have codes : Text.codes (Text.spell n) = [n] := by
      have read := Text.codes_spell_append bounded []
      rwa [List.append_nil] at read
    rw [same]
    exact ⟨⟨[n], by simpa using bounded, (List.flatMap_singleton ..).symm⟩, by
      rw [Text.IsWhole, codes, List.forall_mem_singleton]⟩

lemma isLow_quote : Text.IsLow ['"'] := by decide

/-- A text that spells halves still does when it is written. -/
lemma isSpelled_writeString {s : String} (spelled : Text.IsSpelled s.toList) :
    Text.IsSpelled (writeString s).toList := by
  obtain ⟨ns, bounded, same⟩ := spelled
  rw [toList_writeString, same, Text.spelled, List.flatMap_assoc]
  exact isLow_quote.isSpelled.append ((Text.IsSpelled.flatMap fun n listed =>
    (flatMap_spell (bounded n listed)).1).append isLow_quote.isSpelled)

/-- What is written of a text has a half if the text has one. -/
lemma isWhole_writeString {s : String} (spelled : Text.IsSpelled s.toList) :
    Text.IsWhole (writeString s).toList ↔ Text.IsWhole s.toList := by
  obtain ⟨ns, bounded, same⟩ := spelled
  have escaped := fun n listed => (flatMap_spell (bounded n listed)).1
  have whole : Text.IsWhole s.toList ↔ ∀ n ∈ ns, Text.isHalf n = false := by
    rw [same, Text.IsWhole, Text.codes_spelled bounded]
  rw [whole, toList_writeString, same, Text.spelled, List.flatMap_assoc]
  change Text.IsWhole (['"'] ++ (ns.flatMap _ ++ ['"'])) ↔ _
  rw [Text.IsWhole.append_iff isLow_quote.isSpelled,
    Text.IsWhole.append_iff (Text.IsSpelled.flatMap escaped), Text.IsWhole.flatMap_iff escaped,
    and_iff_right isLow_quote.isWhole, and_iff_left isLow_quote.isWhole]
  exact forall₂_congr fun n listed => (flatMap_spell (bounded n listed)).2

/-- Bytes that begin with two characters below 128 are no text of wider units. -/
lemma decodeChars?_eq {a b : UInt8} {rest : List UInt8} (first : a ≠ 0) (second : b ≠ 0)
    (low : a < 0x80) : decodeChars? (a :: b :: rest) = Text.strictUtf8? (a :: b :: rest) := by
  have begins : ∀ m ∈ orderMarks, ∃ x more, m.1 = x :: more ∧ (x = 0 ∨ 0x80 ≤ x) := by
    simp [orderMarks]
  have unmarked : orderMarks.find? (·.1.isPrefixOf (a :: b :: rest)) = none := by
    refine List.find?_eq_none.mpr fun m listed begun => ?_
    obtain ⟨x, more, same, far⟩ := begins m listed
    obtain ⟨rfl, -⟩ := List.cons_prefix_cons.mp (same ▸ List.isPrefixOf_iff_prefix.mp begun)
    exact far.elim first fun high => absurd low (UInt8.not_lt.mpr high)
  unfold decodeChars?
  rw [unmarked]
  rcases rest with - | ⟨c, - | ⟨d, more⟩⟩
  · exact (if_neg first).trans (if_neg second)
  · rfl
  · exact (if_neg first).trans (if_neg second)
/-- The marks between the texts of an object. -/
lemma isLow_sign :
    Text.IsLow [','] ∧ Text.IsLow [':'] ∧ Text.IsLow ['\x7b'] ∧ Text.IsLow ['\x7d'] := by
  decide

section Texts

variable {ms : List (String × String)}
  (spelled : ∀ m ∈ ms, Text.IsSpelled m.1.toList ∧ Text.IsSpelled m.2.toList)

include spelled in
lemma isSpelled_textWritten : ∀ part ∈ ms.map textWritten, Text.IsSpelled part := by
  intro part listed
  obtain ⟨m, member, rfl⟩ := List.mem_map.mp listed
  exact (isSpelled_writeString (spelled m member).1).append
    ((isLow_sign.2.1.isSpelled).append (isSpelled_writeString (spelled m member).2))

include spelled in
lemma isSpelled_textsWritten : Text.IsSpelled (textsWritten ms) :=
  Text.IsSpelled.intercalate isLow_sign.1.isSpelled (isSpelled_textWritten spelled)

include spelled in
/-- So does an object of such texts. -/
lemma isSpelled_objectWritten : Text.IsSpelled (objectWritten ms) := by
  exact isLow_sign.2.2.1.isSpelled.append
    ((isSpelled_textsWritten spelled).append isLow_sign.2.2.2.isSpelled)

include spelled in
/-- **An object of texts has bytes unless one of them has a half.** -/
theorem exists_bytes_texts_iff :
    (∃ bytes, Text.encodeUtf8 (String.ofList (objectWritten ms)) = .ok bytes)
      ↔ ∀ m ∈ ms, Text.IsWhole m.1.toList ∧ Text.IsWhole m.2.toList := by
  obtain ⟨comma, colon, opening, closing⟩ := isLow_sign
  have parts : (∀ part ∈ ms.map textWritten, Text.IsWhole part) ↔
      ∀ m ∈ ms, Text.IsWhole m.1.toList ∧ Text.IsWhole m.2.toList := by
    rw [List.forall_mem_map]
    refine forall₂_congr fun m member => ?_
    have key := isSpelled_writeString (spelled m member).1
    change Text.IsWhole ((writeString m.1).toList ++ ([':'] ++ (writeString m.2).toList)) ↔ _
    rw [Text.IsWhole.append_iff key, Text.IsWhole.append_iff colon.isSpelled,
      and_iff_right colon.isWhole, isWhole_writeString (spelled m member).1,
      isWhole_writeString (spelled m member).2]
  rw [Text.exists_bytes_iff, String.toList_ofList, ← parts]
  change Text.IsWhole (['\x7b'] ++ (textsWritten ms ++ ['\x7d'])) ↔ _
  rw [Text.IsWhole.append_iff opening.isSpelled, and_iff_right opening.isWhole,
    Text.IsWhole.append_iff (isSpelled_textsWritten spelled), and_iff_left closing.isWhole]
  exact Text.IsWhole.intercalate_iff comma.isSpelled comma.isWhole (isSpelled_textWritten spelled)

end Texts

/-- The bytes of a text that begins with two characters below 128 begin with these. -/
lemma toList_bytesOfCodes {c d : Char} {more : List Char} (first : c.toNat < 0x80)
    (second : d.toNat < 0x80) : ∃ rest, (Text.bytesOfCodes (Text.codes (c :: d :: more))).toList
      = .ofNat c.toNat :: .ofNat d.toNat :: rest := by
  have unmarked : ∀ {c : Char}, c.toNat < 0x80 → c ≠ Text.mark := by
    rintro c low rfl
    rw [Text.toNat_mark] at low
    unfold Text.markCode at low
    omega
  have single : ∀ {c : Char}, c.toNat < 0x80 → String.utf8EncodeChar c = [.ofNat c.toNat] :=
    fun {c} low => if_pos (show c.toNat ≤ 0x7F by omega)
  rw [Text.codes_of_ne (unmarked first), Text.codes_of_ne (unmarked second), Text.bytesOfCodes,
    List.map_cons, List.map_cons, Char.ofNat_toNat, Char.ofNat_toNat, Text.toList_toUTF8,
    List.flatMap_cons, List.flatMap_cons, single first, single second]
  exact ⟨_, rfl⟩

/-- **An object of texts is read from its bytes**, if it has any. -/
theorem parseBytes_texts {ms : List (String × String)} {bytes : ByteArray}
    (distinct : (ms.map Prod.fst).Nodup)
    (spelled : ∀ m ∈ ms, Text.IsSpelled m.1.toList ∧ Text.IsSpelled m.2.toList)
    (encoded : Text.encodeUtf8 (String.ofList (objectWritten ms)) = .ok bytes) :
    parseBytes bytes = .ok (some (.obj (texts ms))) := by
  have whole : Text.IsSpelled (String.ofList (objectWritten ms)).toList := by
    rw [String.toList_ofList]
    exact isSpelled_objectWritten spelled
  have strict := Text.strictUtf8?_of_encodeUtf8 whole encoded
  have begins : ∃ d more, objectWritten ms = '\x7b' :: d :: more ∧ (d = '"' ∨ d = '\x7d') := by
    rw [objectWritten]
    cases ms with
    | nil => exact ⟨_, _, rfl, .inr rfl⟩
    | cons m ms =>
        obtain ⟨more, same⟩ := exists_textsWritten m ms
        rw [same]
        exact ⟨_, _, rfl, .inl rfl⟩
  obtain ⟨d, more, written, among⟩ := begins
  have low : ∀ d, d = '"' ∨ d = '\x7d' → d.toNat < 0x80 ∧ UInt8.ofNat d.toNat ≠ 0 := by
    rintro d (rfl | rfl) <;> decide
  obtain ⟨rest, bytes_eq⟩ := @toList_bytesOfCodes '\x7b' d more (by decide) (low d among).1
  have same := (Text.encodeUtf8_eq_ok_iff.mp encoded).2
  rw [String.toList_ofList] at same strict
  rw [← written, ← same] at bytes_eq
  have decoded : decodeChars? bytes.toList = some (objectWritten ms) := by
    rw [← strict, bytes_eq]
    exact decodeChars?_eq (by decide) (low d among).2 (by decide)
  rw [parseBytes, decoded]
  dsimp only
  rw [document_texts distinct]

end Montage.Json
