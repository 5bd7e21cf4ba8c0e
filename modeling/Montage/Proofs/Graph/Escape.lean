import Mathlib.Tactic.Common
import Montage.Graph.Escape

/-!
# Escaped captions can be read back

Escaping replaces three characters by tokens, and the tokens begin alike: a quote's token holds
backslashes and quotes of its own.  Reading the longest token first nevertheless stays in step, so
nothing is lost and only what has been escaped is its own escaped form.

* `Caption.IsToken`, `Caption.IsEscaped` — what escaping writes for a character, and for a text.
* `Caption.escapeInPasses` — the same by three replacements, one after the other.
* `Caption.unescapeChars_token_append` — a token in front is read as its character.
* **`Caption.escape_exact`** — escaping and unescaping undo each other, and on which texts.
-/

namespace Montage.Caption

/-! ## Tokens -/

/-- A character that is written as it is. -/
structure IsOrdinary (c : Char) : Prop where
  noBackslash : c ≠ '\\'
  noQuote : c ≠ '\''
  noColon : c ≠ ':'

/-- What can stand for a single character. -/
inductive IsToken : List Char → Prop
  | backslash : IsToken ['\\', '\\']
  | quote : IsToken ['\'', '\\', '\\', '\\', '\'', '\'']
  | colon : IsToken ['\\', ':']
  | ordinary {c : Char} (h : IsOrdinary c) : IsToken [c]

/-- A text that is made of tokens. -/
def IsEscaped (text : String) : Prop :=
  ∃ tokens : List (List Char), (∀ t ∈ tokens, IsToken t) ∧ text.toList = tokens.flatten

/-- Three characters have a token of their own. -/
lemma special_or_ordinary (c : Char) : c = '\\' ∨ c = '\'' ∨ c = ':' ∨ IsOrdinary c := by
  by_cases backslash : c = '\\'
  · exact .inl backslash
  by_cases quote : c = '\''
  · exact .inr (.inl quote)
  by_cases colon : c = ':'
  · exact .inr (.inr (.inl colon))
  exact .inr (.inr (.inr ⟨backslash, quote, colon⟩))

lemma IsOrdinary.token_eq {c : Char} (h : IsOrdinary c) : token c = [c] := by
  unfold token
  split
  · exact absurd rfl h.noBackslash
  · exact absurd rfl h.noQuote
  · exact absurd rfl h.noColon
  · rfl

lemma isToken_token (c : Char) : IsToken (token c) := by
  rcases special_or_ordinary c with rfl | rfl | rfl | ordinary
  · exact .backslash
  · exact .quote
  · exact .colon
  · rw [ordinary.token_eq]
    exact .ordinary ordinary

lemma IsToken.exists_eq {t : List Char} (h : IsToken t) : ∃ c, t = token c := by
  cases h with
  | backslash => exact ⟨'\\', rfl⟩
  | quote => exact ⟨'\'', rfl⟩
  | colon => exact ⟨':', rfl⟩
  | ordinary ordinary => exact ⟨_, ordinary.token_eq.symm⟩

/-! ## Reading tokens -/

lemma IsOrdinary.unescapeChars_cons {c : Char} (h : IsOrdinary c) (rest : List Char) :
    unescapeChars (c :: rest) = c :: unescapeChars rest := by
  rw [unescapeChars]
  · rintro _ rfl
    exact absurd rfl h.noQuote
  · rintro _ rfl
    exact absurd rfl h.noBackslash
  · rintro _ rfl
    exact absurd rfl h.noBackslash

/-- **A token in front is read as its character**, whatever follows it. -/
lemma unescapeChars_token_append (c : Char) (rest : List Char) :
    unescapeChars (token c ++ rest) = c :: unescapeChars rest := by
  rcases special_or_ordinary c with rfl | rfl | rfl | ordinary
  · rfl
  · rfl
  · rfl
  · rw [ordinary.token_eq]
    exact ordinary.unescapeChars_cons rest

lemma escapeChars_cons (c : Char) (cs : List Char) :
    escapeChars (c :: cs) = token c ++ escapeChars cs := List.flatMap_cons

lemma unescapeChars_escapeChars (cs : List Char) : unescapeChars (escapeChars cs) = cs := by
  induction cs with
  | nil => rfl
  | cons c cs ih => rw [escapeChars_cons, unescapeChars_token_append, ih]

/-! ## Replacing one character after the other -/

/-- Puts a text in the place of every occurrence of a character. -/
def replaceAll (old : Char) (new cs : List Char) : List Char :=
  cs.flatMap fun c => if c = old then new else [c]

/-- Backslashes first: the other two replacements write backslashes of their own, and these are to
stay. -/
def escapeInPasses (cs : List Char) : List Char :=
  replaceAll ':' ['\\', ':'] <|
    replaceAll '\'' ['\'', '\\', '\\', '\\', '\'', '\''] <| replaceAll '\\' ['\\', '\\'] cs

lemma escapeInPasses_cons (c : Char) (cs : List Char) :
    escapeInPasses (c :: cs) = escapeInPasses [c] ++ escapeInPasses cs := by
  simp only [escapeInPasses, replaceAll, List.flatMap_cons, List.flatMap_nil, List.append_nil,
    List.flatMap_append]

/-- Of a single character the passes make its token. -/
lemma escapeInPasses_singleton (c : Char) : escapeInPasses [c] = token c := by
  rcases special_or_ordinary c with rfl | rfl | rfl | ordinary
  · rfl
  · rfl
  · rfl
  · rw [ordinary.token_eq]
    simp [escapeInPasses, replaceAll, ordinary.noBackslash, ordinary.noQuote, ordinary.noColon]

/-- **The three passes write the same as a token for each character.** -/
lemma escapeInPasses_eq (cs : List Char) : escapeInPasses cs = escapeChars cs := by
  induction cs with
  | nil => rfl
  | cons c cs ih => rw [escapeInPasses_cons, escapeInPasses_singleton, ih, escapeChars_cons]

/-! ## Texts -/

lemma unescape_escape (text : String) : unescape (escape text) = text := by
  rw [unescape, escape, String.toList_ofList, unescapeChars_escapeChars, String.ofList_toList]

/-- The tokens that are put together are those of some text. -/
lemma exists_escapeChars_eq {tokens : List (List Char)} (h : ∀ t ∈ tokens, IsToken t) :
    ∃ cs, escapeChars cs = tokens.flatten := by
  induction tokens with
  | nil => exact ⟨[], rfl⟩
  | cons t rest ih =>
      obtain ⟨c, rfl⟩ := (h t List.mem_cons_self).exists_eq
      obtain ⟨cs, same⟩ := ih fun u hu => h u (List.mem_cons_of_mem _ hu)
      exact ⟨c :: cs, by rw [escapeChars_cons, same, List.flatten_cons]⟩

/-- **The escaped texts are those made of tokens.** -/
lemma exists_escape_eq_iff {escaped : String} :
    (∃ text, escape text = escaped) ↔ IsEscaped escaped := by
  constructor
  · rintro ⟨text, rfl⟩
    refine ⟨text.toList.map token, fun t ht => ?_, ?_⟩
    · obtain ⟨c, -, rfl⟩ := List.mem_map.mp ht
      exact isToken_token c
    · rw [escape, String.toList_ofList, escapeChars, List.flatMap_def]
  · rintro ⟨tokens, made, same⟩
    obtain ⟨cs, written⟩ := exists_escapeChars_eq made
    refine ⟨String.ofList cs, String.toList_injective ?_⟩
    rw [escape, String.toList_ofList, String.toList_ofList, written, same]

/-- **Escaping and unescaping undo each other.**  A caption comes back from its escaped form,
whatever is in it.  The escaped forms are the texts that are made of tokens, and these are just the
texts that come back when they are unescaped and escaped again.  Captions are escaped part by part,
and all at once in three passes. -/
theorem escape_exact :
    (∀ text, unescape (escape text) = text)
      ∧ (∀ escaped, (∃ text, escape text = escaped) ↔ IsEscaped escaped)
      ∧ (∀ escaped, escape (unescape escaped) = escaped ↔ IsEscaped escaped)
      ∧ (∀ text other, escape (text ++ other) = escape text ++ escape other)
      ∧ ∀ text, escape text = String.ofList (escapeInPasses text.toList) := by
  refine ⟨unescape_escape, fun _ => exists_escape_eq_iff, fun escaped => ?_, fun text other => ?_,
    fun text => ?_⟩
  · rw [← exists_escape_eq_iff]
    constructor
    · exact fun same => ⟨unescape escaped, same⟩
    · rintro ⟨text, rfl⟩
      rw [unescape_escape]
  · rw [escape, String.toList_append, escapeChars, List.flatMap_append, String.ofList_append]
    rfl
  · rw [escapeInPasses_eq, escape]

example : escape "it's 5:00\\" = "it'\\\\\\''s 5\\:00\\\\" := by decide

end Montage.Caption
