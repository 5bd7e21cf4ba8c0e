import Mathlib.Tactic.Common
import Montage.Proofs.Graph.Escape
import Montage.Proofs.Graph.Signs

/-!
# Captions are taken as they were meant

Whoever takes a graph apart unquotes its text twice: first the arguments of a filter are cut out at
brackets, commas and semicolons, and then each argument at the next colon.  Every unquoting takes
away quotes and backslashes, so a caption needs some for the first and some for the second.

* `Reader.unquote`, `unquoted` — **the text up to the first stop that stands free**, without its
  quotes and backslashes, and what is left.
* `Caption.guard` — what the first unquoting leaves of a character: a backslash is still before each
  one that means something to the second.
* **`unquoted_quoted_escape`** — two unquotings give the caption back.
-/

namespace Montage

/-! ## Unquoting -/

/-- Takes the text up to the first stop that stands free.  Between quotes everything is taken as it
is, and so is a character behind a backslash; a backslash at the very end stands for itself. -/
@[simp]
def Reader.unquote (isStop : Char → Bool) : Reader → List Char → List Char × List Char
  | outside, [] => ([], [])
  | quoted, [] => ([], [])
  | escaped, [] => (['\\'], [])
  | outside, c :: cs =>
    if isStop c then ([], c :: cs)
    else if c = '\'' then quoted.unquote isStop cs
    else if c = '\\' then escaped.unquote isStop cs
    else
      let (taken, rest) := outside.unquote isStop cs
      (c :: taken, rest)
  | quoted, c :: cs =>
    if c = '\'' then outside.unquote isStop cs
    else
      let (taken, rest) := quoted.unquote isStop cs
      (c :: taken, rest)
  | escaped, c :: cs =>
    let (taken, rest) := outside.unquote isStop cs
    (c :: taken, rest)

/-- The text up to the first of some stops that stands free, unquoted, and what is left. -/
def unquoted (stops : List Char) (text : String) : String × String :=
  let (taken, rest) := Reader.outside.unquote stops.contains text.toList
  (String.ofList taken, String.ofList rest)

/-- What ends the arguments of a filter. -/
def filterStops : List Char := ['[', ']', ',', ';']

/-- What ends an argument. -/
def argumentStops : List Char := [':']

namespace Reader

variable {isStop : Char → Bool}

/-- A backslash outside of quotes, and what is behind it. -/
lemma unquote_backslash (backslash : isStop '\\' = false) (c : Char) (cs : List Char) :
    outside.unquote isStop ('\\' :: c :: cs)
      = (c :: (outside.unquote isStop cs).1, (outside.unquote isStop cs).2) := by
  rw [unquote, backslash, if_neg Bool.false_ne_true, if_neg (by decide), if_pos rfl]
  rfl

/-- A quote outside of quotes. -/
lemma unquote_quote (quote : isStop '\'' = false) (cs : List Char) :
    outside.unquote isStop ('\'' :: cs) = quoted.unquote isStop cs := by
  rw [unquote, quote, if_neg Bool.false_ne_true, if_pos rfl]

lemma unquote_plain {c : Char} (plain : IsPlain c) (going : isStop c = false) (cs : List Char) :
    outside.unquote isStop (c :: cs)
      = (c :: (outside.unquote isStop cs).1, (outside.unquote isStop cs).2) := by
  rw [unquote, going, if_neg Bool.false_ne_true, if_neg plain.noQuote, if_neg plain.noBackslash]

lemma unquote_quoted_cons {c : Char} (noQuote : c ≠ '\'') (cs : List Char) :
    quoted.unquote isStop (c :: cs)
      = (c :: (quoted.unquote isStop cs).1, (quoted.unquote isStop cs).2) := by
  rw [unquote, if_neg noQuote]

/-- The quote that ends a quoted stretch. -/
lemma unquote_quoted_quote (cs : List Char) :
    quoted.unquote isStop ('\'' :: cs) = outside.unquote isStop cs := by
  rw [unquote, if_pos rfl]

/-- Between quotes a text without quotes is taken as it is. -/
lemma unquote_quoted_append {cs : List Char} (noQuote : '\'' ∉ cs) (rest : List Char) :
    quoted.unquote isStop (cs ++ '\'' :: rest)
      = (cs ++ (outside.unquote isStop rest).1, (outside.unquote isStop rest).2) := by
  induction cs with
  | nil => exact unquote_quoted_quote rest
  | cons c cs ih =>
      have here : c ≠ '\'' := (List.ne_of_not_mem_cons noQuote).symm
      rw [List.cons_append, unquote_quoted_cons here, ih (List.not_mem_of_not_mem_cons noQuote)]
      rfl

end Reader

/-- A text between quotes that has none itself. -/
lemma unquoted_quoted {stops : List Char} (quote : stops.contains '\'' = false) {s : String}
    (noQuote : '\'' ∉ s.toList) : unquoted stops ("'" ++ s ++ "'") = (s, "") := by
  have chars : ("'" ++ s ++ "'").toList = '\'' :: (s.toList ++ '\'' :: []) := by simp
  rw [unquoted, chars, Reader.unquote_quote quote, Reader.unquote_quoted_append noQuote]
  simp [Reader.unquote]

/-! ## The first unquoting -/

namespace Caption

/-- A character with a backslash before it, if it means something within an argument. -/
def guard (c : Char) : List Char := if c = '\\' ∨ c = '\'' ∨ c = ':' then ['\\', c] else [c]

lemma IsOrdinary.guard_eq {c : Char} (h : IsOrdinary c) : guard c = [c] := by
  simp [guard, h.noBackslash, h.noQuote, h.noColon]

open Reader

variable {isStop : Char → Bool}

/-- **Between quotes the first unquoting makes a guarded character of each token.**  The token of a
quote is read outside of the quotes for a while, so backslashes and quotes must be no stops. -/
lemma unquote_token_append (quote : isStop '\'' = false) (backslash : isStop '\\' = false)
    (c : Char) (rest : List Char) : quoted.unquote isStop (token c ++ rest)
      = (guard c ++ (quoted.unquote isStop rest).1, (quoted.unquote isStop rest).2) := by
  rcases special_or_ordinary c with rfl | rfl | rfl | ordinary
  · change quoted.unquote isStop ('\\' :: '\\' :: rest) = _
    rw [unquote_quoted_cons (by decide), unquote_quoted_cons (by decide)]
    rfl
  · change quoted.unquote isStop ('\'' :: '\\' :: '\\' :: '\\' :: '\'' :: '\'' :: rest) = _
    rw [unquote_quoted_quote, unquote_backslash backslash, unquote_backslash backslash,
      unquote_quote quote]
    rfl
  · change quoted.unquote isStop ('\\' :: ':' :: rest) = _
    rw [unquote_quoted_cons (by decide), unquote_quoted_cons (by decide)]
    rfl
  · rw [ordinary.token_eq, ordinary.guard_eq]
    exact unquote_quoted_cons ordinary.noQuote rest

lemma unquote_escapeChars_append (quote : isStop '\'' = false) (backslash : isStop '\\' = false)
    (cs rest : List Char) : quoted.unquote isStop (escapeChars cs ++ rest)
      = (cs.flatMap guard ++ (quoted.unquote isStop rest).1, (quoted.unquote isStop rest).2) := by
  induction cs with
  | nil => rfl
  | cons c cs ih =>
      rw [escapeChars_cons, List.append_assoc, unquote_token_append quote backslash, ih,
        List.flatMap_cons, List.append_assoc]

/-- **The quotes around a caption hold**: the first unquoting takes all that is between them, and
goes on behind them. -/
lemma unquote_quoted_escapeChars (quote : isStop '\'' = false) (backslash : isStop '\\' = false)
    (cs rest : List Char) : outside.unquote isStop ('\'' :: (escapeChars cs ++ '\'' :: rest))
      = (cs.flatMap guard ++ (outside.unquote isStop rest).1, (outside.unquote isStop rest).2) := by
  rw [unquote_quote quote, unquote_escapeChars_append quote backslash, unquote_quoted_quote]

/-! ## The second unquoting -/

/-- **The second unquoting takes each guarded character**, whatever it is. -/
lemma unquote_guard_append (backslash : isStop '\\' = false) {c : Char}
    (going : IsOrdinary c → isStop c = false) (rest : List Char) :
    outside.unquote isStop (guard c ++ rest)
      = (c :: (outside.unquote isStop rest).1, (outside.unquote isStop rest).2) := by
  rcases special_or_ordinary c with rfl | rfl | rfl | ordinary
  · exact unquote_backslash backslash _ rest
  · exact unquote_backslash backslash _ rest
  · exact unquote_backslash backslash _ rest
  · rw [ordinary.guard_eq]
    exact unquote_plain ⟨ordinary.noQuote, ordinary.noBackslash⟩ (going ordinary) rest

lemma unquote_flatMap_guard (backslash : isStop '\\' = false)
    (going : ∀ c, IsOrdinary c → isStop c = false) (cs : List Char) :
    outside.unquote isStop (cs.flatMap guard) = (cs, []) := by
  induction cs with
  | nil => rfl
  | cons c cs ih =>
      rw [List.flatMap_cons, unquote_guard_append backslash (going c), ih]

end Caption

/-! ## Both -/

/-- The text of a caption is unquoted to its guarded characters. -/
lemma unquoted_filterStops (text : String) :
    unquoted filterStops ("'" ++ Caption.escape text ++ "'")
      = (String.ofList (text.toList.flatMap Caption.guard), "") := by
  have chars : ("'" ++ Caption.escape text ++ "'").toList
      = '\'' :: (Caption.escapeChars text.toList ++ '\'' :: []) := by
    simp [Caption.escape]
  have taken : Reader.outside.unquote filterStops.contains
      ('\'' :: (Caption.escapeChars text.toList ++ '\'' :: []))
        = (text.toList.flatMap Caption.guard ++ [], []) :=
    Caption.unquote_quoted_escapeChars rfl rfl text.toList []
  rw [unquoted, chars, taken]
  simp

/-- **A caption is taken as it was meant.**  As an argument of a graph it is all read at once,
whatever brackets, commas and semicolons are in it; and from what is read then, up to the next
colon, comes the caption itself. -/
theorem unquoted_quoted_escape (text : String) :
    (unquoted filterStops ("'" ++ Caption.escape text ++ "'")).2 = ""
      ∧ unquoted argumentStops (unquoted filterStops ("'" ++ Caption.escape text ++ "'")).1
        = (text, "") := by
  have going : ∀ c, Caption.IsOrdinary c → argumentStops.contains c = false := by
    intro c ordinary
    simp [argumentStops, ordinary.noColon]
  have taken : Reader.outside.unquote argumentStops.contains (text.toList.flatMap Caption.guard)
      = (text.toList, []) := Caption.unquote_flatMap_guard rfl going text.toList
  rw [unquoted_filterStops]
  refine ⟨rfl, ?_⟩
  rw [unquoted, String.toList_ofList, taken]
  simp

example : unquoted filterStops "'it'\\\\\\''s 5\\:00'" = ("it\\'s 5\\:00", "") := by decide

end Montage
