import Mathlib.Tactic.Common
import Montage.Graph.Basic
import Montage.Graph.Escape

/-!
# Signs that stand free

The text of a graph is read character by character.  A quote begins a quoted stretch, in which
everything up to the next quote is taken as it is, and outside of quotes a backslash takes the next
character as it is.  What is left stands free, and only there a semicolon, a comma, a colon or a
bracket divides one part of the text from another.

* `Reader` — how far the reading is; `marksOf` — **the characters of a text, each with whether it is
  a sign that stands free**; `splitFree` — a text divided at such signs.
* `Settled` — texts that are read without regard to what stands around them;
  `marksOf_append`, `settled_intercalate` — so what such texts are put together to is read part by
  part.
* `Sealed` — texts in which no sign stands free; **`sealed_quoted_escape`** says that a caption is
  one, whatever is in it.
-/

namespace Montage

/-! ## Reading -/

/-- How far the reading of a text is. -/
inductive Reader where
  | outside
  /-- Between quotes. -/
  | quoted
  /-- Behind a backslash outside of quotes. -/
  | escaped
  deriving DecidableEq, Repr

namespace Reader

/-- How a character changes the way in which the next one is read. -/
def next : Reader → Char → Reader
  | outside, c => if c = '\'' then quoted else if c = '\\' then escaped else outside
  | quoted, c => if c = '\'' then outside else quoted
  | escaped, _ => outside

/-- How far the reading is after some characters. -/
def after (r : Reader) (cs : List Char) : Reader := cs.foldl next r

/-- The characters that are read, each with whether it is one of the signs and stands free. -/
def marks (isSign : Char → Bool) : Reader → List Char → List (Char × Bool)
  | _, [] => []
  | r, c :: cs => (c, r == outside && isSign c) :: marks isSign (r.next c) cs

variable {isSign : Char → Bool}

@[simp] lemma after_nil (r : Reader) : r.after [] = r := rfl

@[simp] lemma after_cons (r : Reader) (c : Char) (cs : List Char) :
    r.after (c :: cs) = (r.next c).after cs := rfl

lemma after_append (r : Reader) (as bs : List Char) :
    r.after (as ++ bs) = (r.after as).after bs := List.foldl_append

@[simp] lemma marks_nil (r : Reader) : marks isSign r [] = [] := rfl

@[simp] lemma marks_cons (r : Reader) (c : Char) (cs : List Char) :
    marks isSign r (c :: cs) = (c, r == outside && isSign c) :: marks isSign (r.next c) cs := rfl

/-- The signs of two texts, the second one read from where the first one left off. -/
lemma marks_append (r : Reader) (as bs : List Char) :
    marks isSign r (as ++ bs) = marks isSign r as ++ marks isSign (r.after as) bs := by
  induction as generalizing r with
  | nil => rfl
  | cons a as ih => rw [List.cons_append, marks_cons, marks_cons, ih, after_cons, List.cons_append]

end Reader

/-- The characters of a text, each with whether it is one of the signs and stands free. -/
def marksOf (isSign : Char → Bool) (s : String) : List (Char × Bool) :=
  Reader.outside.marks isSign s.toList

/-- Characters none of which counts as a sign. -/
def unmarked (s : String) : List (Char × Bool) := s.toList.map (·, false)

/-- Parts with a sign between each two of them. -/
def dividedBy (sign : Char) (parts : List (List (Char × Bool))) : List (Char × Bool) :=
  [(sign, true)].intercalate parts

/-- A text divided at a sign, wherever that stands free. -/
def splitFree (sign : Char) (s : String) : List String :=
  ((marksOf (· == sign) s).splitOn (sign, true)).map fun part => String.ofList (part.map Prod.fst)

lemma unmarked_append (s t : String) : unmarked (s ++ t) = unmarked s ++ unmarked t := by
  simp [unmarked]

/-- A text whose signs mean nothing is the text itself. -/
lemma ofList_unmarked (s : String) : String.ofList ((unmarked s).map Prod.fst) = s := by
  simp [unmarked, Function.comp_def]

/-- No sign of it has a meaning. -/
lemma notMem_unmarked (sign : Char) (s : String) : (sign, true) ∉ unmarked s := by
  simp [unmarked]

/-- What is put together with signs between consists of these signs and of the parts. -/
lemma mem_dividedBy {sign : Char} {parts : List (List (Char × Bool))} {m : Char × Bool}
    (h : m ∈ dividedBy sign parts) : m = (sign, true) ∨ ∃ part ∈ parts, m ∈ part := by
  induction parts with
  | nil => cases h
  | cons part rest ih =>
      cases rest with
      | nil => exact .inr ⟨part, List.mem_cons_self, by simpa [dividedBy] using h⟩
      | cons other rest =>
          rw [dividedBy, List.intercalate_cons_of_ne_nil (List.cons_ne_nil _ _), List.mem_append,
            List.mem_append, List.mem_singleton] at h
          rcases h with (h | h) | h
          · exact .inr ⟨part, List.mem_cons_self, h⟩
          · exact .inl h
          · obtain h | ⟨p, hp, hm⟩ := ih h
            · exact .inl h
            · exact .inr ⟨p, List.mem_cons_of_mem part hp, hm⟩

/-- Parts in which a sign does not stand can be told from what they are put together to. -/
lemma dividedBy_inj {sign : Char} {parts others : List (List (Char × Bool))}
    (some : parts ≠ []) (others_some : others ≠ []) (apart : ∀ part ∈ parts, (sign, true) ∉ part)
    (others_apart : ∀ part ∈ others, (sign, true) ∉ part)
    (h : dividedBy sign parts = dividedBy sign others) : parts = others := by
  rw [← List.splitOn_intercalate (sign, true) apart some, ← dividedBy, h, dividedBy,
    List.splitOn_intercalate (sign, true) others_apart others_some]

lemma unmarked_injective : Function.Injective unmarked := fun s t h => by
  rw [← ofList_unmarked s, h, ofList_unmarked]

/-- A list is cut in one way at the first place of an element. -/
lemma cut_inj {α : Type} {a : α} {xs ys : List α} (h : a ∉ xs) (h' : a ∉ ys) {rest rest' : List α}
    (same : xs ++ a :: rest = ys ++ a :: rest') : xs = ys ∧ rest = rest' := by
  induction xs generalizing ys with
  | nil =>
      cases ys with
      | nil => exact ⟨rfl, (List.cons.inj same).2⟩
      | cons y ys =>
          have first : a = y := (List.cons.inj same).1
          exact absurd (first ▸ List.mem_cons_self) h'
  | cons x xs ih =>
      cases ys with
      | nil =>
          have first : x = a := (List.cons.inj same).1
          exact absurd (first ▸ List.mem_cons_self) h
      | cons y ys =>
          obtain ⟨rfl, tails⟩ := List.cons.inj same
          obtain ⟨rfl, rests⟩ := ih (fun hm => h (List.mem_cons_of_mem x hm))
            (fun hm => h' (List.mem_cons_of_mem x hm)) tails
          exact ⟨rfl, rests⟩

/-- What is divided by a sign is split there. -/
lemma splitFree_eq {sign : Char} {s : String} {parts : List String} (some : parts ≠ [])
    (h : marksOf (· == sign) s = dividedBy sign (parts.map unmarked)) :
    splitFree sign s = parts := by
  have apart : ∀ part ∈ parts.map unmarked, (sign, true) ∉ part := by
    intro part hp
    obtain ⟨s, -, rfl⟩ := List.mem_map.mp hp
    exact notMem_unmarked sign s
  rw [splitFree, h, dividedBy, List.splitOn_intercalate _ apart (by simpa using some),
    List.map_map]
  simp [Function.comp_def, ofList_unmarked]

/-! ## Texts that are read part by part -/

/-- The reading of a text that begins outside of quotes ends there. -/
def Settled (s : String) : Prop := Reader.outside.after s.toList = .outside

variable {isSign : Char → Bool} {s t : String}

lemma settled_append (hs : Settled s) (ht : Settled t) : Settled (s ++ t) := by
  rw [Settled, String.toList_append, Reader.after_append, hs, ht]

/-- After a text that leaves no quote open, the next one is read from the beginning. -/
lemma marksOf_append (hs : Settled s) (t : String) :
    marksOf isSign (s ++ t) = marksOf isSign s ++ marksOf isSign t := by
  rw [marksOf, String.toList_append, Reader.marks_append, hs]
  rfl

/-- A character that begins no stretch of its own. -/
structure IsPlain (c : Char) : Prop where
  noQuote : c ≠ '\''
  noBackslash : c ≠ '\\'

lemma IsPlain.next {c : Char} (h : IsPlain c) : Reader.outside.next c = .outside := by
  simp [Reader.next, h.noQuote, h.noBackslash]

/-- A text without quotes and backslashes leaves everything as it was. -/
lemma after_of_plain {cs : List Char} (h : ∀ c ∈ cs, IsPlain c) :
    Reader.outside.after cs = .outside := by
  induction cs with
  | nil => rfl
  | cons c cs ih =>
      rw [Reader.after_cons, (h c List.mem_cons_self).next]
      exact ih fun d hd => h d (List.mem_cons_of_mem c hd)

/-- In such a text every sign has its meaning. -/
lemma marks_of_plain {cs : List Char} (h : ∀ c ∈ cs, IsPlain c) :
    Reader.outside.marks isSign cs = cs.map fun c => (c, isSign c) := by
  induction cs with
  | nil => rfl
  | cons c cs ih =>
      rw [Reader.marks_cons, (h c List.mem_cons_self).next,
        ih fun d hd => h d (List.mem_cons_of_mem c hd)]
      rfl

/-- A text without quotes and backslashes is settled, and every sign in it stands free. -/
lemma settled_of_plain (h : ∀ c ∈ s.toList, IsPlain c) : Settled s := after_of_plain h

/-- Settled texts with a plain character between each two of them. -/
lemma settled_intercalate (isSign : Char → Bool) (separator : String) (sign : Char)
    (single : separator = String.singleton sign) (plain : IsPlain sign) {parts : List String}
    (h : ∀ part ∈ parts, Settled part) :
    Settled (separator.intercalate parts)
      ∧ marksOf isSign (separator.intercalate parts)
        = [(sign, isSign sign)].intercalate (parts.map (marksOf isSign)) := by
  have between : Settled separator := settled_of_plain (by simpa [single] using plain)
  have mark : marksOf isSign separator = [(sign, isSign sign)] := by simp [single, marksOf]
  induction parts with
  | nil => exact ⟨rfl, rfl⟩
  | cons part rest ih =>
      have here := h part List.mem_cons_self
      cases rest with
      | nil => simpa using here
      | cons other rest =>
          obtain ⟨settled, marks⟩ := ih fun p hp => h p (List.mem_cons_of_mem part hp)
          rw [String.intercalate_cons_of_ne_nil (List.cons_ne_nil _ _), List.map_cons,
            List.intercalate_cons_of_ne_nil (by simp)]
          refine ⟨settled_append (settled_append here between) settled, ?_⟩
          rw [marksOf_append (settled_append here between), marksOf_append here, marks, mark]

/-! ## Texts without free signs -/

/-- A settled text in which none of the signs stands free. -/
structure Sealed (isSign : Char → Bool) (s : String) : Prop where
  settled : Settled s
  marks : marksOf isSign s = unmarked s

/-- Two texts that hide their signs hide them together. -/
lemma Sealed.append (hs : Sealed isSign s) (ht : Sealed isSign t) : Sealed isSign (s ++ t) :=
  ⟨settled_append hs.settled ht.settled, by
    rw [marksOf_append hs.settled, hs.marks, ht.marks, unmarked_append]⟩

lemma sealed_of_plain (h : ∀ c ∈ s.toList, IsPlain c ∧ isSign c = false) : Sealed isSign s := by
  have plain : ∀ c ∈ s.toList, IsPlain c := fun c hc => (h c hc).1
  refine ⟨settled_of_plain plain, ?_⟩
  rw [marksOf, marks_of_plain plain, unmarked]
  exact List.map_congr_left fun c hc => by rw [(h c hc).2]

/-- Of a sign that stands nowhere free the text has no mark. -/
lemma marksOf_eq_unmarked (isSign : Char → Bool) {sign : Char} (known : isSign sign = true)
    (h : (sign, true) ∉ marksOf isSign s) : marksOf (· == sign) s = unmarked s := by
  have reading : ∀ (cs : List Char) (r : Reader), (sign, true) ∉ r.marks isSign cs →
      r.marks (· == sign) cs = cs.map (·, false) := by
    intro cs
    induction cs with
    | nil => exact fun _ _ => rfl
    | cons c cs ih =>
        intro r hr
        rw [Reader.marks_cons, List.mem_cons, not_or] at hr
        obtain ⟨here, rest⟩ := hr
        have unfree : (r == Reader.outside && c == sign) = false := by
          by_contra free
          rw [Bool.not_eq_false, Bool.and_eq_true, beq_iff_eq, beq_iff_eq] at free
          obtain ⟨rfl, rfl⟩ := free
          exact here (by rw [known]; rfl)
        rw [Reader.marks_cons, ih _ rest, unfree]
        rfl
  exact reading _ _ h

/-! ### Between quotes -/

/-- Without a quote inside, a quoted stretch lasts. -/
lemma marks_quoted (isSign : Char → Bool) {cs : List Char} (h : '\'' ∉ cs) :
    Reader.quoted.after cs = .quoted ∧ Reader.quoted.marks isSign cs = cs.map (·, false) := by
  induction cs with
  | nil => exact ⟨rfl, rfl⟩
  | cons c cs ih =>
      have hc : c ≠ '\'' := fun same => h (same ▸ List.mem_cons_self)
      have stays : Reader.quoted.next c = .quoted := if_neg hc
      obtain ⟨after, marks⟩ := ih fun hm => h (List.mem_cons_of_mem c hm)
      rw [Reader.after_cons, Reader.marks_cons, stays, after, marks]
      exact ⟨rfl, rfl⟩

/-- **A caption stays within its quotes**: whatever character is escaped, the reading is between
quotes again behind its token, and nothing of the token stands free.  A quote leaves the stretch,
but only for a backslash and a quote that are escaped. -/
lemma marks_token (quote : isSign '\'' = false) (backslash : isSign '\\' = false) (c : Char) :
    Reader.quoted.after (Caption.token c) = .quoted
      ∧ Reader.quoted.marks isSign (Caption.token c) = (Caption.token c).map (·, false) := by
  unfold Caption.token
  split
  · exact marks_quoted isSign (by decide)
  · refine ⟨by decide, ?_⟩
    simp [Reader.next, quote, backslash]
  · exact marks_quoted isSign (by decide)
  · rename_i noQuote _
    exact marks_quoted isSign (by simpa using fun same => noQuote same.symm)

/-- What is escaped hides all its signs between quotes, and ends between quotes. -/
lemma marks_escapeChars (quote : isSign '\'' = false) (backslash : isSign '\\' = false)
    (cs : List Char) :
    Reader.quoted.after (Caption.escapeChars cs) = .quoted
      ∧ Reader.quoted.marks isSign (Caption.escapeChars cs)
        = (Caption.escapeChars cs).map (·, false) := by
  induction cs with
  | nil => exact ⟨rfl, rfl⟩
  | cons c cs ih =>
      obtain ⟨here, first⟩ := marks_token quote backslash c
      obtain ⟨after, marks⟩ := ih
      have token : Caption.escapeChars (c :: cs) = Caption.token c ++ Caption.escapeChars cs :=
        List.flatMap_cons
      rw [token, Reader.after_append, Reader.marks_append, here, after, first, marks,
        List.map_append]
      exact ⟨rfl, rfl⟩

/-- Characters between quotes that are read as they are, the quotes themselves being no signs. -/
lemma sealed_between {cs : List Char} (quote : isSign '\'' = false)
    (after : Reader.quoted.after cs = .quoted)
    (marks : Reader.quoted.marks isSign cs = cs.map (·, false)) :
    Sealed isSign ("'" ++ String.ofList cs ++ "'") := by
  have opening : Reader.outside.next '\'' = .quoted := rfl
  have closing : Reader.quoted.next '\'' = .outside := rfl
  refine ⟨?_, ?_⟩
  · simp [Settled, Reader.after_append, opening, after, closing]
  · simp [marksOf, unmarked, Reader.marks_append, opening, after, marks, quote]

/-- **No caption breaks out of its quotes.** -/
lemma sealed_quoted_escape (quote : isSign '\'' = false) (backslash : isSign '\\' = false)
    (text : String) : Sealed isSign ("'" ++ Caption.escape text ++ "'") := by
  obtain ⟨after, marks⟩ := marks_escapeChars quote backslash text.toList
  exact sealed_between quote after marks

/-- Between quotes every sign is hidden. -/
lemma sealed_quoted (quote : isSign '\'' = false) (h : '\'' ∉ s.toList) :
    Sealed isSign ("'" ++ s ++ "'") := by
  obtain ⟨after, marks⟩ := marks_quoted isSign h
  have := sealed_between quote after marks
  rwa [String.ofList_toList] at this

end Montage
