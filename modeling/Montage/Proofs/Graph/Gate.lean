import Montage.Proofs.Binary64.Places
import Montage.Proofs.Graph.Serialize
import Montage.Proofs.Graph.Unquoting
import Montage.Proofs.Timeline.Bounds

/-!
# Gates that meet

The times of a gate are written in millionths of a second, and the zeros at their end are taken
away.  What is left is still the number that was rounded, because there is a point in front of the
zeros.  Two windows that meet write the time where they meet in the same way, so at every moment
from the first time to the last exactly one of them is open.

* `dropEndChar_append`, `worth_dropEndChar` — what is taken away at the end of a text.
* `FaithfulText` — **a text that is the numeral of a time, rounded**;
  `exists_faithfulText` — every finite time has one.
* `visible?` — whether a gate is open at a time, by what is written in it; `visible?_between`.
* `Window.Accepted` — the window of an entity that was accepted.
* **`gates_faithful`** — times are rounded faithfully, and windows that meet share no moment and
  leave none out.
-/

namespace Montage

open Text

/-! ## The end of a text -/

section DropEnd

variable {c : Char} {cs : List Char}

/-- Where the last character is another, none is dropped. -/
lemma dropEndChar_eq_self (last : cs.getLast? ≠ some c) : dropEndChar c cs = cs := by
  refine List.rdropWhile_eq_self_iff.mpr fun nonempty same => last ?_
  rw [List.getLast?_eq_some_getLast nonempty, beq_iff_eq.mp same]

/-- A last character of the kind is dropped like those before it. -/
lemma dropEndChar_concat_self : dropEndChar c (cs ++ [c]) = dropEndChar c cs :=
  List.rdropWhile_concat_pos _ _ _ (beq_self_eq_true c)

/-- Any other last character keeps the whole. -/
lemma dropEndChar_concat_of_ne {d : Char} (other : d ≠ c) :
    dropEndChar c (cs ++ [d]) = cs ++ [d] :=
  List.rdropWhile_concat_neg _ _ _ (by simpa using other)

/-- No such character is at the end of what remains. -/
lemma getLast?_dropEndChar : (dropEndChar c cs).getLast? ≠ some c := by
  intro last
  have nonempty : dropEndChar c cs ≠ [] := by
    intro none
    rw [none] at last
    cases last
  rw [List.getLast?_eq_some_getLast nonempty, Option.some.injEq] at last
  exact List.rdropWhile_last_not _ _ nonempty (beq_iff_eq.mpr last)

/-- What ends in another character is kept. -/
lemma dropEndChar_append {before : List Char} (kept : before.getLast? ≠ some c) :
    dropEndChar c (before ++ cs) = before ++ dropEndChar c cs := by
  induction cs using List.reverseRecOn with
  | nil =>
      rw [List.append_nil, dropEndChar_eq_self kept]
      exact (List.append_nil _).symm
  | append_singleton cs d ih =>
      rw [← List.append_assoc]
      rcases eq_or_ne d c with rfl | other
      · rw [dropEndChar_concat_self, dropEndChar_concat_self, ih]
      · rw [dropEndChar_concat_of_ne other, dropEndChar_concat_of_ne other, List.append_assoc]

end DropEnd

/-- Behind a point the zeros at the end are worth nothing. -/
lemma worth_dropEndChar (cs : List Char) : worth (dropEndChar '0' cs) = worth cs := by
  induction cs using List.reverseRecOn with
  | nil => rfl
  | append_singleton cs d ih =>
      rcases eq_or_ne d '0' with rfl | other
      · rw [dropEndChar_concat_self, ih, worth_concat_zero]
      · rw [dropEndChar_concat_of_ne other]

/-- Zeros are taken away behind the point only, and the point when nothing is left behind it. -/
lemma dropEndChar_withPoint {whole fraction : List Char} (before : ∀ c ∈ whole, c ≠ '.')
    (behind : ∀ c ∈ fraction, c ≠ '.') :
    dropEndChar '.' (dropEndChar '0' (whole ++ '.' :: fraction))
      = withPoint whole (dropEndChar '0' fraction) := by
  have point : (whole ++ ['.']).getLast? ≠ some '0' := by simp
  rw [List.append_cons, dropEndChar_append point]
  rcases eq_or_ne (dropEndChar '0' fraction) [] with none | digits
  · rw [none, List.append_nil, dropEndChar_concat_self, withPoint, if_pos rfl, List.append_nil]
    exact dropEndChar_eq_self fun last => before '.' (List.mem_of_getLast? last) rfl
  · have last : (whole ++ ['.'] ++ dropEndChar '0' fraction).getLast? ≠ some '.' := by
      rw [List.getLast?_append_of_ne_nil _ digits]
      exact fun last => behind '.' (mem_of_mem_dropEndChar (List.mem_of_getLast? last)) rfl
    rw [dropEndChar_eq_self last, withPoint, if_neg digits, List.append_assoc,
      List.singleton_append]

/-! ## Times -/

/-- A text that is the numeral of a time, rounded to millionths: it is not empty, nothing can be
left out at its end, and its number is the nearest one, a tie going to the even millionth. -/
structure FaithfulText (text : String) (time number : ℚ) : Prop where
  nonempty : text ≠ ""
  tidy : Tidy text.toList
  numeral : decimal? text.toList = some number
  nearest : ∃ k : ℤ, IsHalfEven (time * 10 ^ 6) k ∧ number = k / 10 ^ 6

namespace FaithfulText

variable {first second : String} {u v p q : ℚ}

/-- A faithful text is at most half a millionth away from the number. -/
lemma near (h : FaithfulText first u p) : |p - u| ≤ 5 / 10 ^ 7 := by
  obtain ⟨k, nearest, rfl⟩ := h.nearest
  obtain ⟨low, high⟩ := abs_le.mp nearest.near
  rw [abs_le]
  constructor <;> linarith

/-- Faithful texts of two numbers are in the order of the numbers. -/
lemma mono (h : FaithfulText first u p) (g : FaithfulText second v q) (le : u ≤ v) : p ≤ q := by
  obtain ⟨j, first, rfl⟩ := h.nearest
  obtain ⟨k, second, rfl⟩ := g.nearest
  have order : j ≤ k := first.mono second (by linarith)
  have order : (j : ℚ) ≤ k := by exact_mod_cast order
  linarith

end FaithfulText

section Seconds

open Binary64

variable {s : Bool} {n : ℕ} {grid : OnGrid n}

/-- There is no point in an integer … -/
lemma ne_point_of_mem_signed (s : Bool) (k : ℕ) :
    ∀ c ∈ minus s ++ Nat.toDigits 10 k, c ≠ '.' := by
  intro c hc
  refine IsNumeral.ne_of_toNat ?_ (by decide)
  rcases List.mem_append.mp hc with sign | digit
  · cases s with
    | true => exact .inr (List.mem_singleton.mp sign)
    | false => cases sign
  · exact .inl (isDigit_of_mem_toDigits digit)

/-- … nor in the digits after the point. -/
lemma ne_point_of_mem_paddedDigits (width k : ℕ) :
    ∀ c ∈ (paddedDigits width k).toList, c ≠ '.' :=
  fun c hc => ne_point_of_isDigit (isDigit_of_mem_paddedDigits c hc)

/-- The text of a number: the sign, the seconds, a point, and the six places without the zeros at
their end. -/
lemma toList_secondsText : (secondsText (finite s n grid)).toList
    = withPoint (minus s ++ Nat.toDigits 10 (toPlaces n 6 / tenTo 6))
        (dropEndChar '0' (paddedDigits 6 (toPlaces n 6 % tenTo 6)).toList) := by
  generalize counted : toPlaces n 6 = k
  have printed : ((finite s n grid).placesText 6).toList
      = (minus s ++ Nat.toDigits 10 (k / tenTo 6))
        ++ '.' :: (paddedDigits 6 (k % tenTo 6)).toList := by
    rw [placesText, fixedText, toList_withSign, counted, toList_pointed (by decide),
      List.append_assoc]
  have trimmed := dropEndChar_withPoint (ne_point_of_mem_signed s (k / tenTo 6))
    (ne_point_of_mem_paddedDigits 6 (k % tenTo 6))
  have nonempty : String.ofList (dropEndChar '.'
      (dropEndChar '0' ((finite s n grid).placesText 6).toList)) ≠ "" := by
    rw [printed, trimmed, withPoint]
    simp
  rw [secondsText, if_neg nonempty, String.toList_ofList, printed, trimmed]

/-- The number of millionths, before the point and behind it. -/
lemma decimal?_secondsText : decimal? (secondsText (finite s n grid)).toList
    = some ((if s then -1 else 1) * ((toPlaces n 6 : ℚ) / 10 ^ 6)) := by
  generalize counted : toPlaces n 6 = k
  have fraction : ∀ c ∈ dropEndChar '0' (paddedDigits 6 (k % tenTo 6)).toList, c.isDigit = true :=
    fun c hc => isDigit_of_mem_paddedDigits c (mem_of_mem_dropEndChar hc)
  have whole : ∀ c ∈ Nat.toDigits 10 (k / tenTo 6), c.isDigit = true :=
    fun c => isDigit_of_mem_toDigits
  have read := decimal?_withPoint s Nat.toDigits_ne_nil whole fraction
  have million : ((tenTo 6 : ℕ) : ℚ) = 10 ^ 6 := Nat.cast_pow 10 6
  have parts : ((tenTo 6 : ℕ) : ℚ) * (k / tenTo 6 : ℕ) + (k % tenTo 6 : ℕ) = k := by
    rw [← Nat.cast_mul, ← Nat.cast_add, Nat.div_add_mod]
  have sum : ((k / tenTo 6 : ℕ) : ℚ) + (k % tenTo 6 : ℕ) / 10 ^ 6 = k / 10 ^ 6 := by
    rw [← parts, million]
    ring
  rw [Nat.ofDigitChars_ten_toDigits, worth_dropEndChar,
    worth_paddedDigits (by decide) (Nat.mod_lt k (tenTo_pos 6)), sum] at read
  rw [toList_secondsText, counted, ← read, withPoint, withPoint, List.append_assoc]

/-- **The text of a finite time is faithful.** -/
lemma exists_faithfulText {x : Binary64} (finite : x.isFinite = true) :
    ∃ q, FaithfulText (secondsText x) x.value q := by
  cases x with
  | nan => cases finite
  | infinite s => cases finite
  | finite s n grid =>
      have read : decimal? (secondsText (.finite s n grid)).toList = _ := decimal?_secondsText
      have rounded : IsHalfEven ((Binary64.finite false n grid).value * 10 ^ 6) _ :=
        isHalfEven_toPlaces 6
      refine ⟨_, ⟨?_, ?_, read, ?_⟩⟩
      · intro empty
        rw [empty] at read
        cases read
      · rw [toList_secondsText]
        exact tidy_withPoint (ne_point_of_mem_signed s _)
          (fun c hc => ne_point_of_mem_paddedDigits _ _ c (mem_of_mem_dropEndChar hc))
          getLast?_dropEndChar
      · cases s with
        | false => exact ⟨_, rounded, by rw [if_neg Bool.false_ne_true, one_mul, Int.cast_natCast]⟩
        | true =>
            -- ties go to the same side of zero, because the opposite of an even number is even
            have opposite : (Binary64.finite true n grid).value
                = -(Binary64.finite false n grid).value := by
              rw [value, value, signedUnits, signedUnits, if_pos rfl, if_neg Bool.false_ne_true,
                Int.cast_neg, neg_div]
            refine ⟨-(toPlaces n 6 : ℕ), ?_, ?_⟩
            · rw [opposite, neg_mul]
              exact rounded.neg
            · rw [if_pos rfl, neg_one_mul, Int.cast_neg, Int.cast_natCast, neg_div]

example : secondsText 10 = "10" := by decide +kernel

end Seconds

/-! ## Open and closed -/

/-- The bound that a comparison of the time has: `lt(t,2.5)`. -/
def bound? (name : String) (cs : List Char) : Option ℚ :=
  ((cs.dropPrefix? (name ++ "(t,").toList).bind (List.dropSuffix? · [')'])).bind decimal?

/-- Whether a comparison holds at a time. -/
def comparison? (t : ℚ) (cs : List Char) : Option Bool :=
  ((bound? "gte" cs).map fun b => decide (b ≤ t)).or
    ((bound? "lt" cs).map fun b => decide (t < b))

/-- Whether a gate is open at a time: what is between its quotes is a product of comparisons, and
all of them have to hold. -/
def visible? (gate : String) (t : ℚ) : Option Bool :=
  ((splitAt '*' (unquoted filterStops gate).1.toList).mapM (comparison? t)).map (·.all id)

/-- The gate between two times as they are written. -/
def between (first last : String) : String := "'gte(t," ++ first ++ ")*lt(t," ++ last ++ ")'"

/-- A gate names both bounds of its window. -/
lemma gate_eq (w : Window) : gate w = between (secondsText w.start) (secondsText w.finish) := rfl

/-- From a call of a function its bound is read back. -/
lemma bound?_call (name : String) (cs : List Char) :
    bound? name ((name ++ "(t,").toList ++ (cs ++ [')'])) = decimal? cs := by
  have ending : (cs ++ [')']).dropSuffix? [')'] = some cs :=
    List.dropSuffix?_eq_some_iff.mpr ⟨_, rfl, BEq.rfl⟩
  rw [bound?, List.dropPrefix?_append_of_beq _ BEq.rfl, Option.bind_some, ending, Option.bind_some]

section Comparisons

variable {first last : String} {cs : List Char} {a b t : ℚ}

/-- The first comparison of a gate … -/
lemma comparison?_gte (bound : decimal? cs = some a) :
    comparison? t (("gte" ++ "(t,").toList ++ (cs ++ [')'])) = some (decide (a ≤ t)) := by
  rw [comparison?, bound?_call, bound]
  rfl

/-- … and the second. -/
lemma comparison?_lt (bound : decimal? cs = some b) :
    comparison? t (("lt" ++ "(t,").toList ++ (cs ++ [')'])) = some (decide (t < b)) := by
  have apart : (("lt" ++ "(t,").toList ++ (cs ++ [')'])).dropPrefix? ("gte" ++ "(t,").toList
      = none := by
    rw [String.toList_append, String.toList_append]
    rfl
  have other : bound? "gte" (("lt" ++ "(t,").toList ++ (cs ++ [')'])) = none := by
    rw [bound?, apart]
    rfl
  rw [comparison?, other, bound?_call, bound]
  rfl

/-- A gate between two times is open from the first on, and no longer at the last. -/
lemma visible?_between (plain : Harmless first) (other : Harmless last)
    (opens : decimal? first.toList = some a) (closes : decimal? last.toList = some b) :
    visible? (between first last) t = some (decide (a ≤ t ∧ t < b)) := by
  have factors : ("gte(t," ++ first ++ ")*lt(t," ++ last ++ ")").toList
      = (("gte" ++ "(t,").toList ++ (first.toList ++ [')']))
        ++ '*' :: (("lt" ++ "(t,").toList ++ (last.toList ++ [')'])) := by simp
  have single : ∀ {name s : String}, '*' ∉ name.toList → Harmless s →
      ∀ c ∈ (name ++ "(t,").toList ++ (s.toList ++ [')']), c ≠ '*' := by
    rintro name s named harmless c hc rfl
    simp [named] at hc
    exact absurd (harmless '*' hc) (by decide)
  rw [visible?, between, quoted_comparisons, unquoted_quoted rfl (noQuote_comparisons plain other),
    factors, splitAt_append_cons (single (by decide) plain),
    splitAt_eq_singleton (single (by decide) other)]
  simp only [List.mapM_cons, List.mapM_nil, comparison?_gte opens, comparison?_lt closes]
  simp

end Comparisons

/-! ## Windows that meet -/

/-- The window of an entity that was accepted. -/
inductive Window.Accepted : Window → Prop
  | clip {fresh : String} {j : Json} {c : Clip} (decoded : Clip.decode fresh j = .ok c) :
      Accepted c.window
  | image {fresh : String} {j : Json} {i : ImageOverlay}
      (decoded : ImageOverlay.decode fresh j = .ok i) : Accepted i.window
  | text {fresh : String} {j : Json} {t : TextOverlay}
      (decoded : TextOverlay.decode fresh j = .ok t) : Accepted t.window

namespace Window.Accepted

variable {w : Window}

/-- An accepted window has passed the checks of its entity. -/
lemma wellFormed (h : w.Accepted) : w.WellFormed := by
  cases h with
  | clip decoded => exact (Clip.wellFormed_of_decode decoded).window
  | image decoded => exact (ImageOverlay.wellFormed_of_decode decoded).window
  | text decoded => exact (TextOverlay.wellFormed_of_decode decoded).window

/-- An accepted window starts at zero or later and ends after its start. -/
lemma values (h : w.Accepted) (starts : w.start.isFinite = true) (ends : w.finish.isFinite = true) :
    0 ≤ w.start.value ∧ w.start.value < w.finish.value := by
  obtain ⟨start, finish⟩ := h.wellFormed
  have zero : (0 : Binary64).isFinite = true := by decide +kernel
  rw [Binary64.le_iff_value zero starts, Binary64.value_zero] at start
  rw [← Bool.not_eq_true, Binary64.le_iff_value ends starts, not_le] at finish
  exact ⟨start, finish⟩

/-- Where a window ends and another one starts there is one number, not two equal ones: only zeros
can be equal and different, and nothing ends at zero. -/
lemma meeting {w' : Window} (h : w.Accepted) (starts : w.start.isFinite = true)
    (meets : w.finish.isFinite = true) (same : Binary64.eq w.finish w'.start = true) :
    w.finish = w'.start := by
  obtain ⟨early, shown⟩ := h.values starts meets
  exact Binary64.eq_of_value_pos meets same (lt_of_le_of_lt early shown)

end Window.Accepted

/-- Of two spans that meet exactly one holds a moment from the first start to the last end. -/
lemma exactly_one {a b c t : ℚ} (from_first : a ≤ t) (before_last : t < c) :
    decide (b ≤ t ∧ t < c) = !decide (a ≤ t ∧ t < b) := by
  rw [← decide_not, decide_eq_decide, and_iff_left before_last, and_iff_right from_first, not_lt]

/-- **Gates are faithful.**  The text of a finite time is its numeral, rounded to millionths with
ties to even; so it is at most half a millionth away, and texts keep the order of times.  Where one
accepted window ends and another one starts, both gates have the same text; their bounds are in
order, each is open from its first bound on and no longer at its second, and from the first bound of
all up to the last one exactly one of them is open. -/
theorem gates_faithful :
    (∀ v : Binary64, v.isFinite = true →
      ∃ q, FaithfulText (secondsText v) v.value q ∧ |q - v.value| ≤ 5 / 10 ^ 7)
    ∧ (∀ (u v : Binary64) (p q : ℚ), u.isFinite = true → v.isFinite = true →
      Binary64.le u v = true → decimal? (secondsText u).toList = some p →
      decimal? (secondsText v).toList = some q → p ≤ q)
    ∧ ∀ w w' : Window, w.Accepted → w'.Accepted → w.start.isFinite = true →
      w.finish.isFinite = true → w'.finish.isFinite = true →
      Binary64.eq w.finish w'.start = true →
      ∃ (first shared last : String) (a b c : ℚ),
        (gate w = between first shared ∧ gate w' = between shared last)
        ∧ (FaithfulText first w.start.value a ∧ FaithfulText shared w.finish.value b
          ∧ FaithfulText last w'.finish.value c)
        ∧ (a ≤ b ∧ b ≤ c)
        ∧ (∀ t, visible? (gate w) t = some (decide (a ≤ t ∧ t < b))
          ∧ visible? (gate w') t = some (decide (b ≤ t ∧ t < c)))
        ∧ ∀ t, a ≤ t → t < c →
          ∃ seen, visible? (gate w) t = some seen ∧ visible? (gate w') t = some (!seen) := by
  refine ⟨?_, ?_, ?_⟩
  · intro v finite
    obtain ⟨q, faithful⟩ := exists_faithfulText finite
    exact ⟨q, faithful, faithful.near⟩
  · intro u v p q finiteU finiteV order readU readV
    obtain ⟨p', first⟩ := exists_faithfulText finiteU
    obtain ⟨q', second⟩ := exists_faithfulText finiteV
    obtain rfl : p = p' := Option.some.inj (readU.symm.trans first.numeral)
    obtain rfl : q = q' := Option.some.inj (readV.symm.trans second.numeral)
    exact first.mono second ((Binary64.le_iff_value finiteU finiteV).mp order)
  · intro w w' accepted accepted' starts meets ends same
    have meeting := accepted.meeting starts meets same
    obtain ⟨-, shown⟩ := accepted.values starts meets
    obtain ⟨-, later⟩ := accepted'.values (meeting ▸ meets) ends
    obtain ⟨a, first⟩ := exists_faithfulText starts
    obtain ⟨b, shared⟩ := exists_faithfulText meets
    obtain ⟨c, last⟩ := exists_faithfulText ends
    have second : gate w' = between (secondsText w.finish) (secondsText w'.finish) := by
      rw [gate_eq, meeting]
    have opens : ∀ t, visible? (gate w) t = some (decide (a ≤ t ∧ t < b)) := fun t =>
      visible?_between (harmless_secondsText _) (harmless_secondsText _) first.numeral
        shared.numeral
    have opens' : ∀ t, visible? (gate w') t = some (decide (b ≤ t ∧ t < c)) := fun t =>
      second ▸ visible?_between (harmless_secondsText _) (harmless_secondsText _) shared.numeral
        last.numeral
    refine ⟨_, _, _, a, b, c, ⟨gate_eq w, second⟩, ⟨first, shared, last⟩,
      ⟨first.mono shared shown.le, shared.mono last (meeting ▸ later.le)⟩,
      fun t => ⟨opens t, opens' t⟩, fun t from_first before_last => ⟨_, opens t, ?_⟩⟩
    rw [opens', exactly_one from_first before_last]

deriving instance DecidableEq for Checked

/-- A third of a second, which is no multiple of a millionth. -/
def sampleThird : Binary64 := .ofRatio 1 3

/-- A clip up to a third of a second. -/
def Clip.sampleFirst : Clip := ⟨"a", ⟨0, sampleThird⟩, "a.mp4", none, none, 0, 0⟩

/-- A caption from a third of a second on. -/
def TextOverlay.sampleSecond : TextOverlay :=
  ⟨"b", ⟨sampleThird, .ofRatio 5 2⟩, "It's", 24, .white, 320, 300, 100, 50⟩

/-- The window of the first sample clip is accepted. -/
lemma Clip.accepted_sampleFirst : Clip.sampleFirst.window.Accepted := by
  have decoded : Clip.decode "" (.obj [("id", .str "a"), ("sourceRef", .str "a.mp4"),
      ("startTime", .int 0), ("endTime", .num sampleThird)]) = .ok sampleFirst := by
    decide +kernel
  exact .clip decoded

/-- So is that of the second sample text. -/
lemma TextOverlay.accepted_sampleSecond : TextOverlay.sampleSecond.window.Accepted := by
  have decoded : TextOverlay.decode "" (.obj [("id", .str "b"), ("description", .str "It's"),
      ("startTime", .num sampleThird), ("endTime", .str "2.50"), ("x", .int 320),
      ("y", .int 300)]) = .ok sampleSecond := by
    decide +kernel
  exact .text decoded

/-- A third of a second by itself, before a whole one, and where two windows meet. -/
theorem gates_faithful_sample :
    (sampleThird.isFinite = true
      ∧ ∃ q, FaithfulText (secondsText sampleThird) sampleThird.value q
        ∧ |q - sampleThird.value| ≤ 5 / 10 ^ 7)
    ∧ (Binary64.le sampleThird 1 = true
      ∧ secondsText sampleThird = "0.333333" ∧ secondsText 1 = "1"
      ∧ ∃ p q, decimal? (secondsText sampleThird).toList = some p
        ∧ decimal? (secondsText 1).toList = some q ∧ p ≤ q)
    ∧ (Clip.sampleFirst.window.Accepted ∧ TextOverlay.sampleSecond.window.Accepted)
    ∧ Binary64.eq Clip.sampleFirst.window.finish TextOverlay.sampleSecond.window.start = true
    ∧ ∃ (first shared last : String) (a b c : ℚ),
      (gate Clip.sampleFirst.window = between first shared
        ∧ gate TextOverlay.sampleSecond.window = between shared last)
      ∧ (a ≤ b ∧ b ≤ c)
      ∧ ∀ t, a ≤ t → t < c → ∃ seen, visible? (gate Clip.sampleFirst.window) t = some seen
          ∧ visible? (gate TextOverlay.sampleSecond.window) t = some (!seen) := by
  obtain ⟨faithful, ordered, meeting⟩ := gates_faithful
  have third : sampleThird.isFinite = true := by decide +kernel
  have whole : (1 : Binary64).isFinite = true := by decide +kernel
  have le : Binary64.le sampleThird 1 = true := by decide +kernel
  obtain ⟨p, early, -⟩ := faithful sampleThird third
  obtain ⟨q, late, -⟩ := faithful 1 whole
  have order := ordered sampleThird 1 p q third whole le early.numeral late.numeral
  have same : Binary64.eq Clip.sampleFirst.window.finish TextOverlay.sampleSecond.window.start
      = true := by decide +kernel
  obtain ⟨first, shared, last, a, b, c, gates, -, bounds, -, one⟩ :=
    meeting Clip.sampleFirst.window TextOverlay.sampleSecond.window Clip.accepted_sampleFirst
      TextOverlay.accepted_sampleSecond (by decide +kernel) (by decide +kernel) (by decide +kernel)
      same
  exact ⟨⟨third, faithful sampleThird third⟩,
    ⟨le, by decide +kernel, by decide +kernel, p, q, early.numeral, late.numeral, order⟩,
    ⟨Clip.accepted_sampleFirst, TextOverlay.accepted_sampleSecond⟩, same, first, shared, last,
    a, b, c, gates, bounds, one⟩

end Montage
