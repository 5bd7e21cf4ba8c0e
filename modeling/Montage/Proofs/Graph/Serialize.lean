import Mathlib.Tactic.Common
import Montage.Proofs.Graph.Plan
import Montage.Proofs.Graph.Reading
import Montage.Proofs.Timeline.Metadata

/-!
# No caption breaks out of its graph

Whatever a timeline says goes into the values of its graph: numbers, colours, gates and captions.
Numbers and colours are written with harmless characters; gates and captions stand between quotes,
and a caption is escaped so that it never leaves them.

* `Harmless` — letters, digits and a few characters that mean nothing in a graph.
* `harmless_secondsText`, `harmless_literal`, `sealed_gate` — the values one by one.
* `legible_lettering`, `Plan.Plain.legible_nodes` — the nodes of a plan are legible.
* **`serialize_compile`** — the text of a compiled graph is read as its nodes, and the nodes can be
  told from the text.
-/

namespace Montage

/-! ## Harmless characters -/

/-- A letter, a digit or one of the characters of numbers and labels. -/
def IsHarmless (c : Char) : Prop := c.isAlphanum = true ∨ c = '-' ∨ c = '.' ∨ c = '_'

instance : DecidablePred IsHarmless := fun _ => inferInstanceAs (Decidable (_ ∨ _ ∨ _ ∨ _))

namespace IsHarmless

variable {c : Char}

/-- A harmless character is none of those that have a meaning. -/
lemma ne (h : IsHarmless c) {d : Char} (meaning : ¬IsHarmless d) : c ≠ d := by
  rintro rfl
  exact meaning h

lemma isPlain (h : IsHarmless c) : IsPlain c := ⟨h.ne (by decide), h.ne (by decide)⟩

/-- A graph uses no harmless character as a sign. -/
lemma unsigned (h : IsHarmless c) : isGraphSign c = false := by
  have signs : ([';', ',', ':', '[', ']'].all fun d => !decide (IsHarmless d)) = true := by decide
  rw [isGraphSign, ← Bool.not_eq_true, List.contains_iff_mem]
  intro sign
  simpa [h] using List.all_eq_true.mp signs c sign

end IsHarmless

/-- A text of harmless characters. -/
def Harmless (s : String) : Prop := ∀ c ∈ s.toList, IsHarmless c

instance (s : String) : Decidable (Harmless s) := List.decidableBAll IsHarmless s.toList

namespace Harmless

variable {s t : String}

/-- A text of harmless characters can stand in a graph without quotes. -/
lemma sealed (h : Harmless s) : Sealed isGraphSign s :=
  sealed_of_plain fun c hc => ⟨(h c hc).isPlain, (h c hc).unsigned⟩

lemma append (hs : Harmless s) (ht : Harmless t) : Harmless (s ++ t) := by
  intro c hc
  rw [String.toList_append, List.mem_append] at hc
  exact hc.elim (hs c) (ht c)

lemma isWord (h : Harmless s) (nonempty : s ≠ "") : IsWord s where
  nonempty := nonempty
  plain c hc := (h c hc).isPlain
  unsigned c hc := (h c hc).unsigned
  noEquals hc := absurd (h '=' hc) (by decide)

lemma ofDigits {cs : List Char} (h : ∀ c ∈ cs, c.isDigit = true) :
    Harmless (String.ofList cs) := by
  intro c hc
  rw [String.toList_ofList] at hc
  exact .inl (by rw [Char.isAlphanum, h c hc, Bool.or_true])

end Harmless

/-! ## Numbers -/

lemma harmless_nat (n : Nat) : Harmless (toString n) := by
  have text : toString n = String.ofList (Nat.toDigits 10 n) := Nat.repr_eq_ofList_toDigits
  rw [text]
  exact .ofDigits fun c => isDigit_of_mem_toDigits

/-- A whole number is written with digits and a minus sign. -/
lemma harmless_int (i : Int) : Harmless (toString i) := by
  cases i with
  | ofNat n => exact harmless_nat n
  | negSucc n => exact Harmless.append (s := "-") (by decide) (harmless_nat (n + 1))

lemma Harmless.pushn {s : String} (h : Harmless s) {c : Char} (hc : IsHarmless c) (n : Nat) :
    Harmless (s.pushn c n) := by
  rw [String.pushn_eq_repeat_push]
  induction n with
  | zero => exact h
  | succ n ih =>
      intro d hd
      rw [Nat.repeat, String.toList_push, List.mem_append, List.mem_singleton] at hd
      rcases hd with hd | rfl
      · exact ih d hd
      · exact hc

lemma harmless_paddedDigits (width n : Nat) : Harmless (Binary64.paddedDigits width n) :=
  Harmless.append (.pushn (by decide) (by decide) _) (harmless_nat n)

lemma harmless_withSign {s : String} (negative : Bool) (h : Harmless s) :
    Harmless (Binary64.withSign negative s) := by
  cases negative with
  | true => exact Harmless.append (by decide) h
  | false => exact h

/-- A number with places is written with digits, a point and a minus sign. -/
lemma harmless_placesText (places : Nat) (x : Binary64) : Harmless (x.placesText places) := by
  have pointed : ∀ digits, Harmless (Binary64.pointed digits places) := by
    intro digits
    unfold Binary64.pointed
    split
    · exact harmless_nat digits
    · exact ((harmless_nat _).append (by decide)).append (harmless_paddedDigits _ _)
  cases x with
  | nan => exact (by decide : Harmless "nan")
  | infinite negative => exact harmless_withSign negative (by decide : Harmless "inf")
  | finite negative units grid => exact harmless_withSign negative (pointed _)

/-- To take characters away at the end adds none. -/
lemma mem_of_mem_dropEndChar {c d : Char} {cs : List Char} (h : c ∈ dropEndChar d cs) : c ∈ cs := by
  have back := (List.dropWhile_sublist _).subset (List.mem_reverse.mp h)
  exact List.mem_reverse.mp back

/-- A time is a number without the zeros at its end. -/
lemma harmless_secondsText (x : Binary64) : Harmless (secondsText x) := by
  unfold secondsText
  simp only
  split
  · decide
  · intro c hc
    rw [String.toList_ofList] at hc
    exact harmless_placesText 6 x c (mem_of_mem_dropEndChar (mem_of_mem_dropEndChar hc))

/-! ## Colours, gates and labels -/

lemma isAlphanum_of_isUpperHex {c : Char} (h : isUpperHex c = true) : c.isAlphanum = true := by
  have each : ∀ n < 103, isUpperHex (Char.ofNat n) = true →
      (Char.ofNat n).isAlphanum = true := by decide
  have := each c.toNat (toNat_lt_of_isHex (isHex_of_isUpperHex h))
  rw [Char.ofNat_toNat] at this
  exact this h

/-- A colour is written with digits and letters. -/
lemma Color.WellFormed.harmless_literal {c : Color} (h : c.WellFormed) : Harmless c.literal :=
  Harmless.append (by decide) fun d hd =>
    .inl (isAlphanum_of_isUpperHex (List.all_eq_true.mp h.digits d hd))

/-- The quotes of a gate stand around two comparisons. -/
lemma quoted_comparisons (first last : String) :
    "'gte(t," ++ first ++ ")*lt(t," ++ last ++ ")'"
      = "'" ++ ("gte(t," ++ first ++ ")*lt(t," ++ last ++ ")") ++ "'" := by
  apply String.toList_injective
  simp

/-- There is no quote in a condition on the time. -/
lemma noQuote_comparisons {first last : String} (plain : Harmless first) (other : Harmless last) :
    '\'' ∉ ("gte(t," ++ first ++ ")*lt(t," ++ last ++ ")").toList := by
  have noQuote : ∀ {s : String}, Harmless s → '\'' ∉ s.toList :=
    fun h hm => absurd (h _ hm) (by decide)
  simp [noQuote plain, noQuote other]

/-- The commas of a gate stand between its quotes. -/
lemma sealed_gate (w : Window) : Sealed isGraphSign (gate w) := by
  rw [gate, quoted_comparisons]
  exact sealed_quoted rfl (noQuote_comparisons (harmless_secondsText _) (harmless_secondsText _))

/-- A caption between its quotes has no bare sign in it; this is what escaping is for. -/
lemma sealed_caption (text : String) :
    Sealed isGraphSign ("'" ++ Caption.escape text ++ "'") :=
  sealed_quoted_escape rfl rfl text

/-- The labels of a graph: a stream has a colon in its label, the others have no sign at all. -/
lemma Mark.isLabel (m : Mark) : IsLabel m.label := by
  have chars : ∀ c ∈ m.label.toList, IsHarmless c ∨ c = ':' := by
    intro c hc
    rw [toList_label, List.mem_append, List.mem_append] at hc
    rcases hc with hc | hc | hc
    · have stem : Harmless m.stem := by cases m <;> simp only [Mark.stem] <;> decide
      exact .inl (stem c hc)
    · cases number : m.number? with
      | none => rw [number] at hc; cases hc
      | some i =>
          rw [number] at hc
          exact .inl (.inl (by rw [Char.isAlphanum, isDigit_of_mem_toDigits hc, Bool.or_true]))
    · have ending : (m.ending.toList.all fun c => decide (IsHarmless c ∨ c = ':')) = true := by
        cases m <;> simp only [Mark.ending] <;> decide
      exact of_decide_eq_true (List.all_eq_true.mp ending c hc)
  constructor
  · intro c hc
    rcases chars c hc with h | rfl
    · exact h.isPlain
    · exact ⟨by decide, by decide⟩
  · intro c hc
    rcases chars c hc with h | rfl
    · rw [h.unsigned, beq_false_of_ne (h.ne (by decide))]
    · rfl

/-! ## The nodes of a plan -/

/-- A filter whose names are words. -/
lemma Filter.legible_of_words {name : String} {args : List (String × String)}
    (word : Harmless name ∧ name ≠ "")
    (arguments : ∀ a ∈ args, (Harmless a.1 ∧ a.1 ≠ "") ∧ Sealed isGraphSign a.2) :
    Filter.Legible ⟨name, args⟩ where
  name := word.1.isWord word.2
  keys a ha := (arguments a ha).1.1.isWord (arguments a ha).1.2
  values a ha := (arguments a ha).2

/-- A node between pictures. -/
lemma Node.legible_of_filters (inputs : List Mark) (output : Mark) {filters : List Filter}
    (some : filters ≠ []) (h : ∀ f ∈ filters, f.Legible) :
    Node.Legible ⟨inputs.map Mark.label, filters, output.label⟩ where
  inputs label hl := by
    obtain ⟨m, -, rfl⟩ := List.mem_map.mp hl
    exact m.isLabel
  output := output.isLabel
  some := some
  filters := h

lemma legible_scale {width height : String} (hw : Harmless width) (hh : Harmless height) :
    Filter.Legible ⟨"scale", [("w", width), ("h", height)]⟩ := by
  refine Filter.legible_of_words (by decide) ?_
  simp only [List.forall_mem_cons]
  exact ⟨⟨by decide, hw.sealed⟩, ⟨by decide, hh.sealed⟩, nofun⟩

/-- The node of the base can be read back. -/
lemma legible_baseNode {width height : String} (hw : Harmless width) (hh : Harmless height) :
    (baseNode width height).Legible := by
  have square : Filter.Legible ⟨"setsar", [("sar", "1")]⟩ := by
    refine Filter.legible_of_words (by decide) ?_
    simp only [List.forall_mem_cons]
    exact ⟨⟨by decide, Harmless.sealed (by decide)⟩, nofun⟩
  refine Node.legible_of_filters [.stream 0] .base (List.cons_ne_nil _ _) ?_
  simp only [List.forall_mem_cons]
  exact ⟨legible_scale hw hh, square, nofun⟩

/-- The two nodes of an overlay. -/
lemma legible_overlay {o : Overlay} (hw : Harmless o.width) (hh : Harmless o.height)
    (current : Mark) : ∀ n ∈ o.nodes current, n.Legible := by
  have laid : Filter.Legible
      ⟨"overlay", [("x", toString o.left), ("y", toString o.top), ("enable", gate o.window)]⟩ := by
    refine Filter.legible_of_words (by decide) ?_
    simp only [List.forall_mem_cons]
    exact ⟨⟨by decide, (harmless_int o.left).sealed⟩, ⟨by decide, (harmless_int o.top).sealed⟩,
      ⟨by decide, sealed_gate o.window⟩, nofun⟩
  simp only [Overlay.nodes, List.forall_mem_cons]
  refine ⟨?_, ?_, nofun⟩
  · refine Node.legible_of_filters [.stream o.stream] o.scaled (List.cons_ne_nil _ _) ?_
    simp only [List.forall_mem_cons]
    exact ⟨legible_scale hw hh, nofun⟩
  · refine Node.legible_of_filters [current, o.scaled] o.output (List.cons_ne_nil _ _) ?_
    simp only [List.forall_mem_cons]
    exact ⟨laid, nofun⟩

/-- **The node of a caption is legible, whatever the caption says.** -/
lemma legible_lettering {l : Lettering} (size : Harmless l.fontSize)
    (color : l.text.color.WellFormed) (current output : Mark) : (l.node current output).Legible := by
  refine Node.legible_of_filters [current] output (List.cons_ne_nil _ _) ?_
  simp only [List.forall_mem_cons]
  refine ⟨Filter.legible_of_words (by decide) ?_, nofun⟩
  simp only [List.forall_mem_cons]
  exact ⟨⟨by decide, sealed_caption l.text.description⟩, ⟨by decide, size.sealed⟩,
    ⟨by decide, color.harmless_literal.sealed⟩, ⟨by decide, (harmless_int l.left).sealed⟩,
    ⟨by decide, (harmless_int l.top).sealed⟩, ⟨by decide, sealed_gate l.text.window⟩,
    ⟨by decide, Harmless.sealed (by decide)⟩, nofun⟩

lemma legible_copyNode (current : Mark) : (copyNode current.label).Legible := by
  refine Node.legible_of_filters [current] .terminal (List.cons_ne_nil _ _) ?_
  simp only [List.forall_mem_cons]
  exact ⟨Filter.legible_of_words (by decide) nofun, nofun⟩

/-- The texts of a plan that come from numbers and colours. -/
structure Plan.Plain (p : Plan) : Prop where
  width : Harmless p.width
  height : Harmless p.height
  overlays : ∀ o ∈ p.overlays, Harmless o.width ∧ Harmless o.height
  letterings : ∀ l ∈ p.letterings, Harmless l.fontSize ∧ l.text.color.WellFormed

/-- So can the nodes of what is laid upon it, by induction from below upwards. -/
lemma legible_stackNodes {os : List Overlay}
    (plain : ∀ o ∈ os, Harmless o.width ∧ Harmless o.height) (current : Mark) :
    ∀ n ∈ stackNodes current os, n.Legible := by
  induction os generalizing current with
  | nil => exact nofun
  | cons o rest ih =>
      obtain ⟨width, height⟩ := plain o List.mem_cons_self
      rw [stackNodes, List.forall_mem_append]
      exact ⟨legible_overlay width height current,
        ih (fun p hp => plain p (List.mem_cons_of_mem o hp)) o.output⟩

/-- So can the nodes of the captions. -/
lemma legible_letterNodes {ls : List Lettering}
    (plain : ∀ l ∈ ls, Harmless l.fontSize ∧ l.text.color.WellFormed) (current : Mark)
    (index : Nat) : ∀ n ∈ letterNodes current index ls, n.Legible := by
  induction ls generalizing current index with
  | nil =>
      rw [letterNodes, List.forall_mem_singleton]
      exact legible_copyNode current
  | cons l rest ih =>
      obtain ⟨size, color⟩ := plain l List.mem_cons_self
      cases rest with
      | nil =>
          rw [letterNodes, List.forall_mem_singleton]
          exact legible_lettering size color current .terminal
      | cons m rest =>
          rw [letterNodes_cons_cons, List.forall_mem_cons]
          exact ⟨legible_lettering size color current (.text index),
            ih (fun k hk => plain k (List.mem_cons_of_mem l hk)) (.text index) (index + 1)⟩

/-- So can a whole plan that has only harmless texts in it. -/
lemma Plan.Plain.legible_nodes {p : Plan} (h : p.Plain) : ∀ n ∈ p.nodes, n.Legible := by
  rw [Plan.nodes, List.cons_append, List.forall_mem_cons, List.forall_mem_append]
  exact ⟨legible_baseNode h.width h.height, legible_stackNodes h.overlays .base,
    legible_letterNodes h.letterings _ 0⟩

/-! ## The plan of a timeline -/

/-- What a number of moderate length is written with is harmless. -/
lemma harmless_numeral {i : Int} {s : String} (h : numeral i = .ok s) : Harmless s := by
  rw [(numeral_eq_ok h).2]
  exact harmless_int i

lemma harmless_overlayOf {stream : Nat} {scaled output : Mark} {window : Window}
    {x y width height : Int} {o : Overlay}
    (h : overlayOf stream scaled output window x y width height = .ok o) :
    Harmless o.width ∧ Harmless o.height := by
  obtain ⟨w, tall, left, top, hw, hh, -, rfl⟩ := overlayOf_eq_ok h
  exact ⟨harmless_numeral hw, harmless_numeral hh⟩

/-- What a step gives for every item of a list holds of each result. -/
lemma forall_right_of_forall₂ {α β : Type} {R : α → β → Prop} {P : β → Prop} {as : List α}
    {bs : List β} (h : List.Forall₂ R as bs) (step : ∀ a ∈ as, ∀ b, R a b → P b) :
    ∀ b ∈ bs, P b := by
  induction h with
  | nil => exact nofun
  | cons here _ ih =>
      rw [List.forall_mem_cons]
      exact ⟨step _ List.mem_cons_self _ here, ih fun a ha => step a (List.mem_cons_of_mem _ ha)⟩

/-- The plan of a timeline as it comes out of reading has only harmless texts in it. -/
lemma plain_of_plan {t : Timeline} (wellFormed : t.WellFormed) {p : Plan} (h : t.plan = .ok p) :
    p.Plain := by
  obtain ⟨base, overlays, clips, images, -, hw, hh, hclips, himages, hls, hos⟩ := plan_eq_ok h
  refine ⟨harmless_numeral hw, harmless_numeral hh, ?_, ?_⟩
  · rw [hos, List.forall_mem_append]
    constructor
    · refine forall_right_of_forall₂ hclips fun c _ o ho => ?_
      obtain ⟨_, _, -, -, ho⟩ := clip_overlay_eq_ok ho
      exact harmless_overlayOf ho
    · exact forall_right_of_forall₂ himages fun i _ o ho => harmless_overlayOf ho
  · refine forall_right_of_forall₂ hls fun t ht l hl => ?_
    obtain ⟨fontSize, left, top, hs, -, rfl⟩ := lettering_eq_ok hl
    exact ⟨harmless_numeral hs, (wellFormed.texts t ht).color⟩

/-- **The nodes of a compiled graph are legible**, and there are some. -/
lemma legible_of_compile {t : Timeline} (wellFormed : t.WellFormed) {g : Graph}
    (h : t.compile = .ok g) : g.nodes ≠ [] ∧ ∀ n ∈ g.nodes, n.Legible := by
  obtain ⟨p, hp, rfl⟩ := exists_plan_of_compile h
  exact ⟨List.cons_ne_nil _ _, (plain_of_plan wellFormed hp).legible_nodes⟩

/-- **No text breaks out of its argument.**  The text of a compiled graph is split into its nodes at
the free semicolons; in each node the free brackets, commas and colons are those that frame labels
and divide filters and arguments; and two timelines whose graphs have the same text have the same
nodes. -/
theorem serialize_compile {fresh : String} {payload : Json} {t : Timeline} {g : Graph}
    (decoded : Timeline.ofPayload fresh payload = .ok t) (h : t.compile = .ok g) :
    splitFree ';' g.serialize = g.nodes.map Node.render
      ∧ (∀ n ∈ g.nodes, marksOf isGraphSign n.render = n.reading)
      ∧ ∀ (fresh' : String) (payload' : Json) (t' : Timeline) (g' : Graph),
          Timeline.ofPayload fresh' payload' = .ok t' → t'.compile = .ok g' →
          g'.serialize = g.serialize → g'.nodes = g.nodes := by
  obtain ⟨some, legible⟩ := legible_of_compile (Timeline.wellFormed_of_payload decoded) h
  refine ⟨splitFree_serialize some legible, fun n hn => (legible n hn).marks_render.2, ?_⟩
  intro fresh' payload' t' g' decoded' h' same
  obtain ⟨some', legible'⟩ := legible_of_compile (Timeline.wellFormed_of_payload decoded') h'
  exact serialize_injective some' some legible' legible same

/-- A run on a timeline with a quote and a percent sign in its captions. -/
theorem serialize_compile_sample :
    Timeline.ofPayload "" Timeline.sample.payload = .ok Timeline.sample
      ∧ ∃ g, Timeline.sample.compile = .ok g
        ∧ splitFree ';' g.serialize = g.nodes.map Node.render
        ∧ (∀ n ∈ g.nodes, marksOf isGraphSign n.render = n.reading)
        ∧ ∀ (fresh' : String) (payload' : Json) (t' : Timeline) (g' : Graph),
            Timeline.ofPayload fresh' payload' = .ok t' → t'.compile = .ok g' →
            g'.serialize = g.serialize → g'.nodes = g.nodes := by
  have decoded : Timeline.ofPayload "" Timeline.sample.payload = .ok Timeline.sample := by
    decide +kernel
  obtain ⟨g, hg⟩ := exists_of_isOk (x := Timeline.sample.compile) (by decide +kernel)
  exact ⟨decoded, g, hg, serialize_compile decoded hg⟩

end Montage
