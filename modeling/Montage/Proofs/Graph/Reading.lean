import Mathlib.Tactic.Common
import Montage.Proofs.Graph.Signs

/-!
# Reading a graph back

The text of a graph is made of names, which are plain words, and of values, which may hold anything
but keep it to themselves.  For such a graph it can be said in advance which signs stand free.

* `Filter.reading`, `Node.reading` — what a filter and a node look like to a reader: **each sign at
  its place, and no other one free**.
* `Filter.Legible`, `Node.Legible` — the names are words and the values are sealed.
* `Node.Legible.marks_render`, `splitFree_serialize` — the text is read as it is meant.
* **`serialize_injective`** — so the nodes can be told from the text.
-/

namespace Montage

/-- The signs of a graph: what divides nodes, filters and arguments, and what frames labels. -/
def isGraphSign (c : Char) : Bool := [';', ',', ':', '[', ']'].contains c

/-! ## What a reader should see -/

/-- A label in its brackets.  The colon in the label of a stream is as free as any other. -/
def framed (label : String) : List (Char × Bool) :=
  ('[', true) :: label.toList.map (fun c => (c, c == ':')) ++ [(']', true)]

/-- An argument with nothing free in it. -/
def argumentReading (a : String × String) : List (Char × Bool) := unmarked (a.1 ++ "=" ++ a.2)

/-- A filter, with free colons between its arguments only. -/
def Filter.reading (f : Filter) : List (Char × Bool) :=
  if f.args.isEmpty then unmarked f.name
  else unmarked (f.name ++ "=") ++ dividedBy ':' (f.args.map argumentReading)

/-- A node, with free brackets around its labels and free commas between its filters only. -/
def Node.reading (n : Node) : List (Char × Bool) :=
  n.inputs.flatMap framed ++ dividedBy ',' (n.filters.map Filter.reading) ++ framed n.output

/-! ## Legible graphs -/

/-- A word: none of its characters means anything in a graph. -/
structure IsWord (s : String) : Prop where
  nonempty : s ≠ ""
  plain : ∀ c ∈ s.toList, IsPlain c
  unsigned : ∀ c ∈ s.toList, isGraphSign c = false
  noEquals : '=' ∉ s.toList

/-- A label: of the signs it may have a colon. -/
structure IsLabel (s : String) : Prop where
  plain : ∀ c ∈ s.toList, IsPlain c
  colons : ∀ c ∈ s.toList, isGraphSign c = (c == ':')

/-- A filter that can be read back: its names are words, and no value has a bare sign in it that a
graph uses. -/
structure Filter.Legible (f : Filter) : Prop where
  name : IsWord f.name
  keys : ∀ a ∈ f.args, IsWord a.1
  values : ∀ a ∈ f.args, Sealed isGraphSign a.2

/-- A node that can be read back: its labels are labels, and it has filters that can be read
back. -/
structure Node.Legible (n : Node) : Prop where
  inputs : ∀ label ∈ n.inputs, IsLabel label
  output : IsLabel n.output
  some : n.filters ≠ []
  filters : ∀ f ∈ n.filters, f.Legible

/-! ## Legible texts are read as they are meant -/

lemma IsWord.sealed {s : String} (h : IsWord s) : Sealed isGraphSign s :=
  sealed_of_plain fun c hc => ⟨h.plain c hc, h.unsigned c hc⟩

lemma sealed_equals : Sealed isGraphSign "=" :=
  sealed_of_plain fun c hc => by
    obtain rfl : c = '=' := List.mem_singleton.mp hc
    exact ⟨⟨by decide, by decide⟩, rfl⟩

namespace Filter.Legible

variable {f : Filter}

lemma sealed_argument (h : f.Legible) {a : String × String} (ha : a ∈ f.args) :
    Sealed isGraphSign (a.1 ++ "=" ++ a.2) :=
  ((h.keys a ha).sealed.append sealed_equals).append (h.values a ha)

/-- **The free colons of a filter stand between its arguments.** -/
lemma marks_render (h : f.Legible) :
    Settled f.render ∧ marksOf isGraphSign f.render = f.reading := by
  unfold Filter.render Filter.reading
  split
  · exact ⟨h.name.sealed.settled, h.name.sealed.marks⟩
  · have head : Sealed isGraphSign (f.name ++ "=") := h.name.sealed.append sealed_equals
    have arguments : ∀ part ∈ f.args.map (fun a => a.1 ++ "=" ++ a.2),
        Sealed isGraphSign part := by
      intro part hp
      obtain ⟨a, ha, rfl⟩ := List.mem_map.mp hp
      exact h.sealed_argument ha
    obtain ⟨settled, marks⟩ := settled_intercalate isGraphSign ":" ':' rfl
      ⟨by decide, by decide⟩ fun part hp => (arguments part hp).settled
    refine ⟨settled_append head.settled settled, ?_⟩
    rw [marksOf_append head.settled, head.marks]
    refine congrArg (unmarked (f.name ++ "=") ++ ·) (marks.trans ?_)
    rw [dividedBy, List.map_map]
    exact congrArg _ (List.map_congr_left fun a ha => (h.sealed_argument ha).marks)

end Filter.Legible

/-- The free brackets of a label are those around it. -/
lemma IsLabel.marks_bracketed {label : String} (h : IsLabel label) :
    Settled (bracketed label) ∧ marksOf isGraphSign (bracketed label) = framed label := by
  have text : (bracketed label).toList = '[' :: label.toList ++ [']'] := by simp [bracketed]
  have plain : ∀ c ∈ (bracketed label).toList, IsPlain c := by
    intro c hc
    rw [text, List.cons_append, List.mem_cons, List.mem_append, List.mem_singleton] at hc
    rcases hc with rfl | hc | rfl
    · exact ⟨by decide, by decide⟩
    · exact h.plain c hc
    · exact ⟨by decide, by decide⟩
  have inside : label.toList.map (fun c => (c, isGraphSign c))
      = label.toList.map fun c => (c, c == ':') :=
    List.map_congr_left fun c hc => by rw [h.colons c hc]
  refine ⟨settled_of_plain plain, ?_⟩
  rw [marksOf, marks_of_plain plain, text, List.map_append, List.map_cons, inside]
  rfl

/-- Labels one after the other. -/
lemma marks_labels {labels : List String} (h : ∀ label ∈ labels, IsLabel label) :
    Settled (String.join (labels.map bracketed))
      ∧ marksOf isGraphSign (String.join (labels.map bracketed)) = labels.flatMap framed := by
  induction labels with
  | nil => exact ⟨rfl, rfl⟩
  | cons label rest ih =>
      obtain ⟨here, first⟩ := (h label List.mem_cons_self).marks_bracketed
      obtain ⟨there, others⟩ := ih fun l hl => h l (List.mem_cons_of_mem label hl)
      rw [List.map_cons, String.join_cons, List.flatMap_cons]
      refine ⟨settled_append here there, ?_⟩
      rw [marksOf_append here, first, others]

namespace Node.Legible

variable {n : Node}

/-- **The free brackets of a node stand around its labels and the free commas between its
filters.** -/
lemma marks_render (h : n.Legible) :
    Settled n.render ∧ marksOf isGraphSign n.render = n.reading := by
  obtain ⟨settledInputs, inputs⟩ := marks_labels h.inputs
  obtain ⟨settledOutput, output⟩ := h.output.marks_bracketed
  have filters : ∀ part ∈ n.filters.map Filter.render, Settled part := by
    intro part hp
    obtain ⟨f, hf, rfl⟩ := List.mem_map.mp hp
    exact (h.filters f hf).marks_render.1
  obtain ⟨settledFilters, marks⟩ := settled_intercalate isGraphSign "," ',' rfl
    ⟨by decide, by decide⟩ filters
  have each : (n.filters.map Filter.render).map (marksOf isGraphSign)
      = n.filters.map Filter.reading := by
    rw [List.map_map]
    exact List.map_congr_left fun f hf => (h.filters f hf).marks_render.2
  have front := settled_append settledInputs settledFilters
  refine ⟨settled_append front settledOutput, ?_⟩
  rw [Node.render, marksOf_append front, marksOf_append settledInputs, inputs, output]
  exact congrArg (n.inputs.flatMap framed ++ · ++ framed n.output)
    (marks.trans (congrArg _ each))

end Node.Legible

/-! ## Which signs stand free where -/

/-- Nothing but colons stands free within a label, and the brackets around it. -/
lemma mem_framed {label : String} {m : Char × Bool} (h : m ∈ framed label) :
    m = ('[', true) ∨ (m.2 = true → m.1 = ':') ∨ m = (']', true) := by
  rw [framed, List.cons_append, List.mem_cons, List.mem_append, List.mem_singleton] at h
  rcases h with h | h | h
  · exact .inl h
  · obtain ⟨c, -, rfl⟩ := List.mem_map.mp h
    exact .inr (.inl fun colon => eq_of_beq colon)
  · exact .inr (.inr h)

lemma free_of_mem_filter {f : Filter} {m : Char × Bool} (h : m ∈ f.reading) (free : m.2 = true) :
    m = (':', true) := by
  have bound : ∀ s, m ∉ unmarked s := by
    intro s hs
    obtain ⟨c, -, rfl⟩ := List.mem_map.mp hs
    cases free
  unfold Filter.reading at h
  split at h
  · exact absurd h (bound _)
  · rcases List.mem_append.mp h with h | h
    · exact absurd h (bound _)
    · obtain h | ⟨part, hp, hm⟩ := mem_dividedBy h
      · exact h
      · obtain ⟨a, -, rfl⟩ := List.mem_map.mp hp
        exact absurd hm (bound _)

lemma free_of_mem_filters {fs : List Filter} {m : Char × Bool}
    (h : m ∈ dividedBy ',' (fs.map Filter.reading)) (free : m.2 = true) :
    m = (',', true) ∨ m = (':', true) := by
  obtain h | ⟨part, hp, hm⟩ := mem_dividedBy h
  · exact .inl h
  · obtain ⟨f, -, rfl⟩ := List.mem_map.mp hp
    exact .inr (free_of_mem_filter hm free)

/-- **No semicolon stands free in a node.** -/
lemma Node.semicolon_notMem_reading (n : Node) : (';', true) ∉ n.reading := by
  have label : ∀ l, (';', true) ∉ framed l := by
    intro l hl
    rcases mem_framed hl with h | h | h
    · simp at h
    · exact absurd (h rfl) (by decide)
    · simp at h
  intro h
  rw [Node.reading, List.mem_append, List.mem_append] at h
  rcases h with (h | h) | h
  · obtain ⟨l, -, hl⟩ := List.mem_flatMap.mp h
    exact label l hl
  · rcases free_of_mem_filters h rfl with h | h <;> simp at h
  · exact label n.output h

/-- **The text of a graph is split into its nodes.** -/
theorem splitFree_serialize {g : Graph} (some : g.nodes ≠ []) (h : ∀ n ∈ g.nodes, n.Legible) :
    splitFree ';' g.serialize = g.nodes.map Node.render := by
  have settled : ∀ part ∈ g.nodes.map Node.render, Settled part := by
    intro part hp
    obtain ⟨n, hn, rfl⟩ := List.mem_map.mp hp
    exact (h n hn).marks_render.1
  have bound : ∀ part ∈ g.nodes.map Node.render, marksOf (· == ';') part = unmarked part := by
    intro part hp
    obtain ⟨n, hn, rfl⟩ := List.mem_map.mp hp
    refine marksOf_eq_unmarked isGraphSign rfl ?_
    rw [(h n hn).marks_render.2]
    exact n.semicolon_notMem_reading
  refine splitFree_eq (by simpa using some) ?_
  rw [Graph.serialize, (settled_intercalate _ ";" ';' rfl ⟨by decide, by decide⟩ settled).2,
    dividedBy, List.map_congr_left bound]
  rfl

/-! ## What is read can be told apart -/

/-- A word before an equals sign can be told from what follows. -/
lemma word_equals_inj {name other : String} (h : IsWord name) (h' : IsWord other)
    {rest rest' : List (Char × Bool)}
    (same : unmarked (name ++ "=") ++ rest = unmarked (other ++ "=") ++ rest') :
    name = other ∧ rest = rest' := by
  have absent : ∀ {s : String}, IsWord s → ('=', false) ∉ unmarked s := by
    intro s hs hm
    obtain ⟨c, hc, same⟩ := List.mem_map.mp hm
    obtain rfl : c = '=' := congrArg Prod.fst same
    exact hs.noEquals hc
  rw [unmarked_append, unmarked_append, List.append_assoc, List.append_assoc] at same
  obtain ⟨names, rests⟩ := cut_inj (absent h) (absent h') same
  exact ⟨unmarked_injective names, rests⟩

lemma argumentReading_inj {a b : String × String} (ha : IsWord a.1) (hb : IsWord b.1)
    (same : argumentReading a = argumentReading b) : a = b := by
  rw [argumentReading, argumentReading, unmarked_append (a.1 ++ "="),
    unmarked_append (b.1 ++ "=")] at same
  obtain ⟨keys, values⟩ := word_equals_inj ha hb same
  exact Prod.ext keys (unmarked_injective values)

/-- Lists whose elements can be told apart can be told apart. -/
lemma map_inj_of_mem {α β : Type} {f : α → β} {as bs : List α}
    (inj : ∀ a ∈ as, ∀ b ∈ bs, f a = f b → a = b) (same : as.map f = bs.map f) : as = bs := by
  induction as generalizing bs with
  | nil => exact (List.map_eq_nil_iff.mp same.symm).symm
  | cons a as ih =>
      cases bs with
      | nil => cases same
      | cons b bs =>
          obtain ⟨first, rest⟩ := List.cons.inj same
          have here : a = b := inj a List.mem_cons_self b List.mem_cons_self first
          have there : as = bs := ih (fun c hc d hd =>
            inj c (List.mem_cons_of_mem a hc) d (List.mem_cons_of_mem b hd)) rest
          rw [here, there]

namespace Filter.Legible

variable {f k : Filter}

/-- **A filter can be told from its reading.** -/
lemma reading_inj (h : f.Legible) (h' : k.Legible) (same : f.reading = k.reading) : f = k := by
  have bare : ∀ {f k : Filter}, f.Legible → f.args = [] → k.args ≠ [] → f.reading ≠ k.reading := by
    intro f k h none some same
    have equals : ('=', false) ∈ k.reading := by
      simp [Filter.reading, some, unmarked]
    rw [← same, Filter.reading, none] at equals
    obtain ⟨c, hc, hm⟩ := List.mem_map.mp equals
    obtain rfl : c = '=' := congrArg Prod.fst hm
    exact h.name.noEquals hc
  obtain ⟨name, args⟩ := f
  obtain ⟨name', args'⟩ := k
  cases args with
  | nil =>
      cases args' with
      | nil => exact congrArg (Filter.mk · []) (unmarked_injective same)
      | cons b bs => exact absurd same (bare h rfl (List.cons_ne_nil b bs))
  | cons a as =>
      cases args' with
      | nil => exact absurd same.symm (bare h' rfl (List.cons_ne_nil a as))
      | cons b bs =>
          have parts : ∀ args : List (String × String), ∀ part ∈ args.map argumentReading,
              (':', true) ∉ part := by
            intro args part hp
            obtain ⟨a, -, rfl⟩ := List.mem_map.mp hp
            exact notMem_unmarked ':' _
          obtain ⟨rfl, same⟩ := word_equals_inj h.name h'.name same
          have arguments := dividedBy_inj (by simp) (by simp) (parts _) (parts _) same
          exact congrArg (Filter.mk name) (map_inj_of_mem
            (fun a ha b hb => argumentReading_inj (h.keys a ha) (h'.keys b hb)) arguments)

end Filter.Legible

/-- A label can be told from what follows it. -/
lemma framed_append_inj {label other : String} (h : IsLabel label) (h' : IsLabel other)
    {rest rest' : List (Char × Bool)} (same : framed label ++ rest = framed other ++ rest') :
    label = other ∧ rest = rest' := by
  have closing : ∀ {l : String}, IsLabel l → (']', true) ∉ l.toList.map fun c => (c, c == ':') := by
    intro l hl hm
    obtain ⟨c, hc, same⟩ := List.mem_map.mp hm
    obtain rfl : c = ']' := congrArg Prod.fst same
    exact absurd (hl.colons ']' hc) (by decide)
  simp only [framed, List.cons_append, List.append_assoc, List.cons.injEq, true_and] at same
  obtain ⟨inside, rests⟩ := cut_inj (closing h) (closing h') same
  have chars := congrArg (List.map Prod.fst) inside
  simp only [List.map_map, Function.comp_def, List.map_id'] at chars
  exact ⟨String.toList_injective chars, rests⟩

/-- Labels can be told from what follows them, as long as that is no label. -/
lemma framed_labels_inj {labels others : List String} (h : ∀ l ∈ labels, IsLabel l)
    (h' : ∀ l ∈ others, IsLabel l) {rest rest' : List (Char × Bool)}
    (stop : rest.head? ≠ some ('[', true)) (stop' : rest'.head? ≠ some ('[', true))
    (same : labels.flatMap framed ++ rest = others.flatMap framed ++ rest') :
    labels = others ∧ rest = rest' := by
  induction labels generalizing others with
  | nil =>
      cases others with
      | nil => exact ⟨rfl, same⟩
      | cons l more => exact absurd (congrArg List.head? same) stop
  | cons l more ih =>
      cases others with
      | nil => exact absurd (congrArg List.head? same).symm stop'
      | cons m others =>
          rw [List.flatMap_cons, List.flatMap_cons, List.append_assoc, List.append_assoc] at same
          obtain ⟨here, tails⟩ := framed_append_inj (h l List.mem_cons_self)
            (h' m List.mem_cons_self) same
          obtain ⟨there, rests⟩ := ih (fun k hk => h k (List.mem_cons_of_mem l hk))
            (fun k hk => h' k (List.mem_cons_of_mem m hk)) tails
          exact ⟨by rw [here, there], rests⟩

lemma Filter.Legible.reading_ne_nil {f : Filter} (h : f.Legible) : f.reading ≠ [] := by
  obtain ⟨c, cs, name⟩ := List.exists_cons_of_ne_nil fun none : f.name.toList = [] =>
    h.name.nonempty (String.toList_injective none)
  unfold Filter.reading
  split <;> simp [unmarked, name]

/-- Filters begin with a name, not with a label. -/
lemma head?_filters {fs : List Filter} (nonempty : fs ≠ []) (h : ∀ f ∈ fs, f.Legible)
    (rest : List (Char × Bool)) :
    (dividedBy ',' (fs.map Filter.reading) ++ rest).head? ≠ some ('[', true) := by
  obtain ⟨f, fs, rfl⟩ := List.exists_cons_of_ne_nil nonempty
  have first := (h f List.mem_cons_self).reading_ne_nil
  have front : dividedBy ',' ((f :: fs).map Filter.reading) ≠ [] := by
    cases fs with
    | nil => simpa [dividedBy] using first
    | cons k fs =>
        rw [List.map_cons, dividedBy, List.intercalate_cons_of_ne_nil (by simp)]
        simp
  obtain ⟨m, ms, texts⟩ := List.exists_cons_of_ne_nil front
  rw [texts]
  intro head
  obtain rfl : m = ('[', true) := Option.some.inj head
  have bracket : ('[', true) ∈ dividedBy ',' ((f :: fs).map Filter.reading) :=
    texts ▸ List.mem_cons_self
  rcases free_of_mem_filters bracket rfl with h | h <;> simp at h

namespace Node.Legible

variable {n m : Node}

/-- **A node can be told from its reading.** -/
lemma reading_inj (h : n.Legible) (h' : m.Legible) (same : n.reading = m.reading) : n = m := by
  have bracket : ∀ fs : List Filter, ('[', true) ∉ dividedBy ',' (fs.map Filter.reading) := by
    intro fs hm
    rcases free_of_mem_filters hm rfl with h | h <;> simp at h
  have comma : ∀ fs : List Filter, ∀ part ∈ fs.map Filter.reading, (',', true) ∉ part := by
    intro fs part hp hm
    obtain ⟨f, -, rfl⟩ := List.mem_map.mp hp
    exact absurd (free_of_mem_filter hm rfl) (by simp)
  rw [Node.reading, Node.reading, List.append_assoc, List.append_assoc] at same
  obtain ⟨inputs, rests⟩ := framed_labels_inj h.inputs h'.inputs
    (head?_filters h.some h.filters _) (head?_filters h'.some h'.filters _) same
  obtain ⟨texts, labels⟩ := cut_inj (bracket n.filters) (bracket m.filters) rests
  have outputs : framed n.output ++ [] = framed m.output ++ [] :=
    congrArg (('[', true) :: · ++ []) labels
  obtain ⟨output, -⟩ := framed_append_inj h.output h'.output outputs
  have filters := dividedBy_inj (by simpa using h.some) (by simpa using h'.some) (comma _) (comma _)
    texts
  have filters := map_inj_of_mem
    (fun f hf k hk => (h.filters f hf).reading_inj (h'.filters k hk)) filters
  cases n
  cases m
  exact Node.mk.injEq .. ▸ ⟨inputs, filters, output⟩

end Node.Legible

/-- **The nodes of a graph can be told from its text.** -/
theorem serialize_injective {g k : Graph} (some : g.nodes ≠ []) (some' : k.nodes ≠ [])
    (h : ∀ n ∈ g.nodes, n.Legible) (h' : ∀ n ∈ k.nodes, n.Legible)
    (same : g.serialize = k.serialize) : g.nodes = k.nodes := by
  have renders : g.nodes.map Node.render = k.nodes.map Node.render := by
    rw [← splitFree_serialize some h, same, splitFree_serialize some' h']
  refine map_inj_of_mem (fun n hn m hm text => ?_) renders
  refine (h n hn).reading_inj (h' m hm) ?_
  rw [← (h n hn).marks_render.2, text, (h' m hm).marks_render.2]

end Montage
