import Mathlib.Data.List.Nodup
import Mathlib.Data.List.Perm.Basic
import Mathlib.Tactic.Common
import Montage.Proofs.Graph.Plan

/-!
# How a graph is wired

The nodes of a graph form one chain from the base clip to the terminal label.  Every picture that
comes in or is made on the way is taken up once, by a later node.

* `LinearChain` — **what it means to be such a chain**.
* `Closed` — nodes that only take what is known before them, by recursion.
* `perm_consumed_stackNodes`, `perm_consumed_letterNodes` — what a part of the chain takes is what
  it is given and what it makes, up to the picture it ends with.
* **`wiring_compile`** — the graph of a timeline is a linear chain, and the check of its labels
  never fails.
-/

namespace Montage

/-! ## Linear chains -/

/-- The labels that nodes make, in order. -/
def produced (nodes : List Node) : List String := nodes.map Node.output

/-- The labels that nodes take, in order. -/
def consumed (nodes : List Node) : List String := nodes.flatMap Node.inputs

/-- A chain over the streams of `inputs` files. -/
structure LinearChain (inputs : Nat) (nodes : List Node) : Prop where
  distinct : (produced nodes).Nodup
  /-- The terminal label comes last, so by `distinct` nowhere else. -/
  terminal_last : (produced nodes).getLast? = some terminalLabel
  terminal_unused : terminalLabel ∉ consumed nodes
  consumed_once : ∀ n ∈ nodes, n.output ≠ terminalLabel → (consumed nodes).count n.output = 1
  consumed_later : ∀ before n after, nodes = before ++ n :: after → n.output ≠ terminalLabel →
    (consumed after).count n.output = 1
  known_before : ∀ before n after, nodes = before ++ n :: after → ∀ label ∈ n.inputs,
    label ∈ produced before ∨ ∃ k < inputs, label = Label.stream k
  streams_once : ∀ k < inputs, (consumed nodes).count (Label.stream k) = 1
  no_stream : ∀ n ∈ nodes, ∀ k, n.output ≠ Label.stream k

@[simp] lemma produced_append (ms ns : List Node) :
    produced (ms ++ ns) = produced ms ++ produced ns := List.map_append

@[simp] lemma produced_cons (n : Node) (ns : List Node) :
    produced (n :: ns) = n.output :: produced ns := rfl

@[simp] lemma produced_nil : produced [] = [] := rfl

@[simp] lemma consumed_append (ms ns : List Node) :
    consumed (ms ++ ns) = consumed ms ++ consumed ns := List.flatMap_append

@[simp] lemma consumed_cons (n : Node) (ns : List Node) :
    consumed (n :: ns) = n.inputs ++ consumed ns := List.flatMap_cons

@[simp] lemma consumed_nil : consumed [] = [] := rfl

/-! ## Nothing is taken before it is made -/

/-- Each node only takes labels that are known or made before it. -/
def Closed (known : List String) : List Node → Prop
  | [] => True
  | n :: rest => n.inputs ⊆ known ∧ Closed (known ++ [n.output]) rest

/-- Nodes take only what is known, and those after them also what was made before. -/
lemma closed_append {known : List String} {ms ns : List Node} :
    Closed known (ms ++ ns) ↔ Closed known ms ∧ Closed (known ++ produced ms) ns := by
  induction ms generalizing known with
  | nil => simp [Closed]
  | cons m rest ih => simp [Closed, ih, and_assoc]

/-- A node takes only what was known or made before it. -/
lemma Closed.inputs_subset {known : List String} {before : List Node} {n : Node}
    {after : List Node} (h : Closed known (before ++ n :: after)) :
    n.inputs ⊆ known ++ produced before :=
  (closed_append.mp h).2.1

/-- All nodes together take only what was known or made. -/
lemma Closed.consumed_subset {known : List String} {nodes : List Node} (h : Closed known nodes) :
    consumed nodes ⊆ known ++ produced nodes := by
  induction nodes generalizing known with
  | nil => exact List.nil_subset _
  | cons n rest ih =>
      have later := ih h.2
      rw [List.append_assoc, List.singleton_append] at later
      exact List.append_subset.mpr ⟨List.subset_append_of_subset_left _ h.1, later⟩

/-- Overlays take the picture so far, their own streams and what they scaled. -/
lemma closed_stackNodes {known : List String} {current : Mark} {os : List Overlay}
    (below : current.label ∈ known) (streams : ∀ o ∈ os, Label.stream o.stream ∈ known) :
    Closed known (stackNodes current os) := by
  induction os generalizing known current with
  | nil => trivial
  | cons o rest ih =>
      have mine := streams o List.mem_cons_self
      refine ⟨?_, ?_, ih ?_ ?_⟩
      · simpa [scaleNode] using mine
      · simp [overlayNode, scaleNode, below]
      · simp [overlayNode]
      · intro p hp
        have := streams p (List.mem_cons_of_mem _ hp)
        simp [this]

/-- The label on top is the first one, or one that was made on the way. -/
lemma topMark_mem (current : Mark) (os : List Overlay) :
    (topMark current os).label ∈ current.label :: produced (stackNodes current os) := by
  induction os generalizing current with
  | nil => exact List.mem_cons_self
  | cons o rest ih =>
      have := ih o.output
      simp only [topMark, stackNodes, Overlay.nodes, overlayNode, produced_append, produced_cons,
        produced_nil, List.mem_cons, List.mem_append] at this ⊢
      tauto

/-- Each caption takes the label of the one below it. -/
lemma closed_letterNodes {known : List String} {current : Mark} {index : Nat} {ls : List Lettering}
    (below : current.label ∈ known) : Closed known (letterNodes current index ls) := by
  induction ls generalizing known current index with
  | nil => exact ⟨by simpa [copyNode] using below, trivial⟩
  | cons l rest ih =>
      cases rest with
      | nil => exact ⟨by simpa [Lettering.node, captionNode] using below, trivial⟩
      | cons m rest =>
          refine ⟨by simpa [Lettering.node, captionNode] using below, ih ?_⟩
          simp [Lettering.node, captionNode]

/-! ## Everything made is taken once -/

/-- What overlays take is the picture so far, their streams and all they make but the last
picture. -/
lemma perm_consumed_stackNodes (current : Mark) (os : List Overlay) :
    (consumed (stackNodes current os) ++ [(topMark current os).label]).Perm
      (current.label :: (os.map fun o => Label.stream o.stream)
        ++ produced (stackNodes current os)) := by
  induction os generalizing current with
  | nil => exact .refl _
  | cons o rest ih =>
      refine List.perm_iff_count.mpr fun label => ?_
      have := (ih o.output).count_eq label
      simp only [stackNodes, Overlay.nodes, scaleNode, overlayNode, topMark, consumed_append,
        consumed_cons, consumed_nil, produced_append, produced_cons, produced_nil, List.map_cons,
        List.count_append, List.count_cons, List.count_nil] at this ⊢
      omega

/-- What captions take is the picture so far and all they make but the terminal one. -/
lemma perm_consumed_letterNodes (current : Mark) (index : Nat) (ls : List Lettering) :
    (consumed (letterNodes current index ls) ++ [terminalLabel]).Perm
      (current.label :: produced (letterNodes current index ls)) := by
  induction ls generalizing current index with
  | nil => exact .refl _
  | cons l rest ih =>
      cases rest with
      | nil => exact .refl _
      | cons m rest => exact (ih (.text index) (index + 1)).cons current.label

/-- What a plan takes is the streams and all it makes but the terminal picture. -/
lemma perm_consumed_plan (p : Plan) :
    (consumed p.nodes ++ [terminalLabel]).Perm
      (Label.stream 0 :: (p.overlays.map fun o => Label.stream o.stream) ++ produced p.nodes) := by
  refine List.perm_iff_count.mpr fun label => ?_
  have stack := (perm_consumed_stackNodes .base p.overlays).count_eq label
  have letters :=
    (perm_consumed_letterNodes (topMark .base p.overlays) 0 p.letterings).count_eq label
  simp only [Plan.nodes, baseNode, Mark.label, consumed_append, consumed_cons, produced_append,
    produced_cons, List.cons_append, List.count_append, List.count_cons, List.count_nil]
    at stack letters ⊢
  omega

/-! ## The marks of a plan -/

/-- The marks that captions make. -/
def letterMarks (index count : Nat) : List Mark :=
  (List.range' index (count - 1)).map .text ++ [.terminal]

/-- The captions make their labels in order. -/
lemma produced_letterNodes (current : Mark) (index : Nat) (ls : List Lettering) :
    produced (letterNodes current index ls) = (letterMarks index ls.length).map Mark.label := by
  induction ls generalizing current index with
  | nil => rfl
  | cons l rest ih =>
      cases rest with
      | nil => rfl
      | cons m rest =>
          rw [letterNodes_cons_cons, produced_cons, ih]
          rfl

/-- Every overlay makes two labels: one in its size, one with it on top. -/
lemma produced_stackNodes (current : Mark) (os : List Overlay) :
    produced (stackNodes current os)
      = (os.flatMap fun o => [o.scaled, o.output]).map Mark.label := by
  induction os generalizing current with
  | nil => rfl
  | cons o rest ih =>
      rw [stackNodes, produced_append, ih, List.flatMap_cons, List.map_append]
      rfl

/-- The marks that clips make; the first clip is not laid on anything. -/
def clipMarks (count : Nat) : List Mark :=
  (List.range' 1 (count - 1)).flatMap fun i => [.scaledClip i, .clip i]

/-- The labels that the images make, in order. -/
def imageMarks (count : Nat) : List Mark :=
  (List.range count).flatMap fun i => [.scaledImage i, .image i]

/-- The marks that the nodes of a timeline make, in order. -/
def Timeline.marks (t : Timeline) : List Mark :=
  .base :: (clipMarks t.clips.length ++ (imageMarks t.images.length
    ++ letterMarks 0 t.texts.length))

/-- The labels that a plan makes are the marks of the timeline, in order. -/
lemma produced_plan {t : Timeline} {p : Plan} (h : t.plan = .ok p) :
    produced p.nodes = t.marks.map Mark.label := by
  obtain ⟨_, _, _, _, -, -, -, -, -, hls, -⟩ := plan_eq_ok h
  have overlays : (p.overlays.flatMap fun o => [o.scaled, o.output])
      = (p.overlays.map Overlay.wiring).flatMap fun w => [w.2.1, w.2.2] := by
    rw [List.flatMap_map]
    rfl
  rw [Plan.nodes, List.cons_append, produced_cons, produced_append, produced_stackNodes,
    produced_letterNodes, overlays, wiring_of_plan h, ← hls.length_eq, List.flatMap_append,
    List.flatMap_map, List.flatMap_map, ← List.map_append, List.append_assoc]
  rfl

/-- The streams that a plan takes are those of all files, in order. -/
lemma streams_plan {t : Timeline} {p : Plan} (h : t.plan = .ok p) :
    (Label.stream 0 :: p.overlays.map fun o => Label.stream o.stream)
      = (List.range t.inputCount).map Label.stream := by
  obtain ⟨base, overlays, _, _, hcs, -⟩ := plan_eq_ok h
  have streams : (p.overlays.map fun o => Label.stream o.stream)
      = (p.overlays.map Overlay.wiring).map fun w => Label.stream w.1 := by
    rw [List.map_map]
    rfl
  have first : List.range t.clips.length = 0 :: List.range' 1 (t.clips.length - 1) := by
    rw [hcs, List.range_eq_range']
    rfl
  rw [Timeline.inputCount, List.range_add, first, streams, wiring_of_plan h]
  simp only [List.map_append, List.map_map, List.cons_append, List.map_cons]
  rfl

/-! ## No two marks are the same -/

/-- Labels made in pairs are distinct, if those of each kind are and the kinds are. -/
lemma nodup_pairs {f g : Nat → Mark} (hf : Function.Injective f) (hg : Function.Injective g)
    (apart : ∀ i j, f i ≠ g j) {is : List Nat} (h : is.Nodup) :
    (is.flatMap fun i => [f i, g i]).Nodup := by
  rw [List.nodup_flatMap]
  refine ⟨fun i _ => by simp [apart], h.imp fun {i j} hij => ?_⟩
  simp [Function.onFun, hf.eq_iff, hg.eq_iff, apart, hij.symm, (apart _ _).symm]

/-- The part of the graph that a mark belongs to, in the order of the parts. -/
def Mark.part : Mark → Nat
  | stream _ => 0
  | base => 1
  | scaledClip _ | clip _ => 2
  | scaledImage _ | image _ => 3
  | text _ | terminal => 4

/-- The labels of the clips are of the second kind. -/
lemma part_of_mem_clipMarks {count : Nat} {m : Mark} (h : m ∈ clipMarks count) : m.part = 2 := by
  simp only [clipMarks, List.mem_flatMap, List.mem_cons, List.not_mem_nil, or_false] at h
  obtain ⟨_, -, rfl | rfl⟩ := h <;> rfl

lemma part_of_mem_imageMarks {count : Nat} {m : Mark} (h : m ∈ imageMarks count) : m.part = 3 := by
  simp only [imageMarks, List.mem_flatMap, List.mem_cons, List.not_mem_nil, or_false] at h
  obtain ⟨_, -, rfl | rfl⟩ := h <;> rfl

lemma part_of_mem_letterMarks {index count : Nat} {m : Mark} (h : m ∈ letterMarks index count) :
    m.part = 4 := by
  simp only [letterMarks, List.mem_append, List.mem_map, List.mem_singleton] at h
  obtain ⟨_, -, rfl⟩ | rfl := h <;> rfl

/-- Marks of one part followed by marks of later parts. -/
lemma nodup_append_parts {ms ns : List Mark} {k : Nat} (hms : ms.Nodup) (hns : ns.Nodup)
    (here : ∀ m ∈ ms, m.part = k) (later : ∀ n ∈ ns, k < n.part) : (ms ++ ns).Nodup := by
  refine List.nodup_append.mpr ⟨hms, hns, fun m hm n hn same => ?_⟩
  have := here m hm
  have := later n hn
  rw [same] at *
  omega

/-- All labels above the base are of a later kind. -/
lemma part_of_mem_layers {t : Timeline} {m : Mark}
    (h : m ∈ clipMarks t.clips.length ++ (imageMarks t.images.length
      ++ letterMarks 0 t.texts.length)) : 1 < m.part := by
  rcases List.mem_append.mp h with h | h
  · rw [part_of_mem_clipMarks h]
    decide
  · rcases List.mem_append.mp h with h | h
    · rw [part_of_mem_imageMarks h]
      decide
    · rw [part_of_mem_letterMarks h]
      decide

lemma part_pos_of_mem_marks {t : Timeline} {m : Mark} (h : m ∈ t.marks) : 0 < m.part := by
  rcases List.mem_cons.mp h with rfl | h
  · decide
  · exact Nat.lt_of_succ_lt (part_of_mem_layers h)

/-- **No two pictures of a timeline share a mark**, the streams included. -/
lemma nodup_marks (t : Timeline) :
    ((List.range t.inputCount).map Mark.stream ++ t.marks).Nodup := by
  have streams : ((List.range t.inputCount).map Mark.stream).Nodup :=
    List.nodup_range.map fun i j => Mark.stream.inj
  have clips : (clipMarks t.clips.length).Nodup :=
    nodup_pairs (fun i j => Mark.scaledClip.inj) (fun i j => Mark.clip.inj) (by simp)
      List.nodup_range'
  have images : (imageMarks t.images.length).Nodup :=
    nodup_pairs (fun i j => Mark.scaledImage.inj) (fun i j => Mark.image.inj) (by simp)
      List.nodup_range
  have letters : (letterMarks 0 t.texts.length).Nodup :=
    List.nodup_append.mpr ⟨List.Nodup.map (fun i j => Mark.text.inj) List.nodup_range',
      List.nodup_singleton _, by simp⟩
  have upper := nodup_append_parts images letters (fun m => part_of_mem_imageMarks)
    fun n hn => by rw [part_of_mem_letterMarks hn]; decide
  have layers := nodup_append_parts clips upper (fun m => part_of_mem_clipMarks) fun n hn => by
    rcases List.mem_append.mp hn with hn | hn
    · rw [part_of_mem_imageMarks hn]; decide
    · rw [part_of_mem_letterMarks hn]; decide
  have made : t.marks.Nodup := nodup_append_parts (List.nodup_singleton Mark.base) layers
    (by simp [Mark.part]) fun n => part_of_mem_layers
  have incoming : ∀ m ∈ (List.range t.inputCount).map Mark.stream, m.part = 0 := by
    simp [Mark.part]
  exact nodup_append_parts streams made incoming fun n => part_pos_of_mem_marks

/-! ## Graphs of timelines are linear chains -/

/-- The labels of all pictures of a plan, the streams included, are different. -/
lemma nodup_labels {t : Timeline} {p : Plan} (h : t.plan = .ok p) :
    ((List.range t.inputCount).map Label.stream ++ produced p.nodes).Nodup := by
  have := (nodup_marks t).map fun m n => Mark.label_injective
  rw [List.map_append, List.map_map, ← produced_plan h] at this
  exact this

/-- What a plan takes and its terminal label are together what comes in and what it makes. -/
lemma perm_labels {t : Timeline} {p : Plan} (h : t.plan = .ok p) :
    (consumed p.nodes ++ [terminalLabel]).Perm
      ((List.range t.inputCount).map Label.stream ++ produced p.nodes) := by
  have := perm_consumed_plan p
  rwa [streams_plan h] at this

/-- A plan takes only the streams of the files and what it has made before. -/
lemma closed_plan {t : Timeline} {p : Plan} (h : t.plan = .ok p) :
    Closed ((List.range t.inputCount).map Label.stream) p.nodes := by
  rw [← streams_plan h, Plan.nodes, List.cons_append]
  refine ⟨by simp [baseNode], closed_append.mpr ⟨closed_stackNodes ?_ ?_, closed_letterNodes ?_⟩⟩
  · simp [baseNode, Mark.label]
  · intro o ho
    have : Label.stream o.stream ∈ p.overlays.map fun o => Label.stream o.stream :=
      List.mem_map_of_mem ho
    simp [this]
  · have := topMark_mem .base p.overlays
    rw [List.append_assoc]
    exact List.mem_append_right _ this

/-- The last label that is made is the terminal one. -/
lemma getLast?_produced {t : Timeline} {p : Plan} (h : t.plan = .ok p) :
    (produced p.nodes).getLast? = some terminalLabel := by
  rw [produced_plan h, Timeline.marks, letterMarks, ← List.append_assoc, ← List.append_assoc,
    ← List.cons_append, List.map_append]
  exact List.getLast?_concat

/-- No node makes a label that is the name of a stream. -/
lemma no_stream_plan {t : Timeline} {p : Plan} (h : t.plan = .ok p) {n : Node} (hn : n ∈ p.nodes)
    (k : Nat) : n.output ≠ Label.stream k := by
  intro same
  have made : n.output ∈ produced p.nodes := List.mem_map_of_mem hn
  rw [produced_plan h] at made
  obtain ⟨m, hm, label⟩ := List.mem_map.mp made
  have : m = .stream k := Mark.label_injective (label.trans same)
  have := part_pos_of_mem_marks hm
  simp_all [Mark.part]

/-- Whatever is known besides the terminal label is taken once. -/
lemma count_consumed_plan {t : Timeline} {p : Plan} (h : t.plan = .ok p) {label : String}
    (known : label ∈ (List.range t.inputCount).map Label.stream ++ produced p.nodes)
    (inner : label ≠ terminalLabel) : (consumed p.nodes).count label = 1 := by
  obtain ⟨takenOnce, -, -⟩ := List.nodup_append.mp ((perm_labels h).nodup_iff.mpr (nodup_labels h))
  have among : label ∈ consumed p.nodes ++ [terminalLabel] := (perm_labels h).mem_iff.mpr known
  rcases List.mem_append.mp among with taken | last
  · exact List.count_eq_one_of_mem takenOnce taken
  · exact absurd (List.mem_singleton.mp last) inner

/-- Neither a node nor those before it can take the label that is new at the node. -/
lemma count_consumed_after {sources : List String} {before after : List Node} {n : Node}
    (closed : Closed sources (before ++ n :: after))
    (nodup : (sources ++ produced (before ++ n :: after)).Nodup) :
    (consumed (before ++ n :: after)).count n.output = (consumed after).count n.output := by
  have fresh : n.output ∉ sources ++ produced before := by
    rw [produced_append, produced_cons, ← List.append_assoc] at nodup
    exact fun old => (List.nodup_append.mp nodup).2.2 _ old _ List.mem_cons_self rfl
  have early := List.count_eq_zero.mpr fun taken =>
    fresh ((closed_append.mp closed).1.consumed_subset taken)
  have here := List.count_eq_zero.mpr fun taken => fresh (closed.inputs_subset taken)
  rw [consumed_append, consumed_cons, List.count_append, List.count_append, early, here,
    Nat.zero_add, Nat.zero_add]

/-- A plan is a linear chain. -/
lemma linearChain_plan {t : Timeline} {p : Plan} (h : t.plan = .ok p) :
    LinearChain t.inputCount p.nodes := by
  have nodup := nodup_labels h
  have closed := closed_plan h
  obtain ⟨-, distinct, -⟩ := List.nodup_append.mp nodup
  obtain ⟨-, -, unused⟩ := List.nodup_append.mp ((perm_labels h).nodup_iff.mpr nodup)
  have made : ∀ n ∈ p.nodes, n.output ∈ produced p.nodes := fun n hn => List.mem_map_of_mem hn
  refine
    { distinct
      terminal_last := getLast?_produced h
      terminal_unused := fun taken => unused _ taken _ (List.mem_singleton_self _) rfl
      consumed_once := fun n hn => count_consumed_plan h (List.mem_append_right _ (made n hn))
      consumed_later := ?_
      known_before := ?_
      streams_once := ?_
      no_stream := fun n hn => no_stream_plan h hn }
  · intro before n after split inner
    have hn : n ∈ p.nodes := by rw [split]; exact List.mem_append_right _ List.mem_cons_self
    have total := count_consumed_plan h (List.mem_append_right _ (made n hn)) inner
    rw [split] at closed nodup total
    rwa [count_consumed_after closed nodup] at total
  · intro before n after split label taken
    rw [split] at closed
    rcases List.mem_append.mp (closed.inputs_subset taken) with stream | earlier
    · obtain ⟨k, hk, rfl⟩ := List.mem_map.mp stream
      exact .inr ⟨k, List.mem_range.mp hk, rfl⟩
    · exact .inl earlier
  · intro k hk
    have incoming : Label.stream k ∈ (List.range t.inputCount).map Label.stream :=
      List.mem_map_of_mem (List.mem_range.mpr hk)
    refine count_consumed_plan h (List.mem_append_left _ incoming) fun same => ?_
    obtain ⟨n, hn, output⟩ := List.mem_map.mp (List.mem_of_getLast? (getLast?_produced h))
    exact no_stream_plan h hn k (output.trans same.symm)

/-! ## The check of labels -/

/-- Distinct labels with the terminal one among them pass the check. -/
lemma checkLabels_of_nodup {nodes : List Node} (distinct : (produced nodes).Nodup)
    (terminal : terminalLabel ∈ produced nodes) : checkLabels nodes = .ok () := by
  have none : duplicates (produced nodes) = [] := by
    have single : ((produced nodes).filter fun l => 1 < (produced nodes).count l) = [] := by
      simpa using fun label _ => List.nodup_iff_count_le_one.mp distinct label
    simp [duplicates, single]
  have once := List.count_eq_one_of_mem distinct terminal
  unfold produced at none once
  simp only [checkLabels, none, once, if_true]

/-- **The graph of a timeline is a linear chain** over the streams of all its files; so the check of
labels, which every compilation makes, never fails. -/
theorem wiring_compile (t : Timeline) :
    (∀ g, t.compile = .ok g → LinearChain t.inputCount g.nodes)
      ∧ ∀ nodes, t.nodes = .ok nodes → checkLabels nodes = .ok () := by
  constructor
  · intro g hg
    obtain ⟨p, hp, rfl⟩ := exists_plan_of_compile hg
    exact linearChain_plan hp
  · intro nodes hnodes
    rw [nodes_eq_plan, map_eq_ok] at hnodes
    obtain ⟨p, hp, rfl⟩ := hnodes
    have chain := linearChain_plan hp
    exact checkLabels_of_nodup chain.distinct (List.mem_of_getLast? chain.terminal_last)

/-- The chain of a timeline with three files and two captions. -/
theorem wiring_compile_sample :
    ∃ g, Timeline.sample.compile = .ok g ∧ LinearChain 3 g.nodes
      ∧ ∃ nodes, Timeline.sample.nodes = .ok nodes ∧ checkLabels nodes = .ok () := by
  obtain ⟨g, hg⟩ := exists_of_isOk (x := Timeline.sample.compile) (by decide +kernel)
  obtain ⟨nodes, hnodes⟩ := exists_of_isOk (x := Timeline.sample.nodes) (by decide +kernel)
  have wiring := wiring_compile Timeline.sample
  exact ⟨g, hg, wiring.1 g hg, nodes, hnodes, wiring.2 nodes hnodes⟩

end Montage
