import Mathlib.Tactic.Common
import Montage.Proofs.Graph.Plan

/-!
# What a graph shows

A graph is a list of steps over named pictures.  Its meaning is found by taking the steps in order:
each picture is a stack of layers, the lowest first, and each node gives a stack a name.

* `Layer`, `Stack` — a scaled stream or a caption; what lies on what.
* `Node.stack?`, `Graph.picture?` — **the meaning of a node and of a graph**; there is none when a
  label is looked up that has no picture.
* `Timeline.layers?` — what a timeline asks for, said without labels and nodes.
* **`picture_compile`** — the graph of a timeline shows what the timeline asks for.
-/

namespace Montage

/-! ## Layers -/

/-- Where a layer lies on what is below it, and when it is seen. -/
structure Placement where
  left : String
  top : String
  visible : String
  deriving DecidableEq

/-- One layer of a picture: a stream in its size, or a caption with the arguments it is drawn with.
The whole picture is a `Stack` of these, the lowest first. -/
inductive Layer where
  /-- A stream scaled to a size; a stream on its own is not placed yet. -/
  | stream (input width height : String) (place : Option Placement)
  | caption (arguments : List (String × String))
  deriving DecidableEq

/-- The layers of a picture from the lowest up. -/
abbrev Stack := List Layer

/-- Pictures by their labels. -/
abbrev Pictures := String → Option Stack

namespace Pictures

/-- No label has a picture yet. -/
def none : Pictures := fun _ => Option.none

/-- Gives a picture a label, which may have had another one before. -/
def bind (env : Pictures) (label : String) (stack : Stack) : Pictures :=
  fun other => if other = label then some stack else env other

@[simp] lemma bind_self (env : Pictures) (label : String) (stack : Stack) :
    env.bind label stack label = some stack := if_pos rfl

/-- A label that is bound changes no other. -/
lemma bind_of_ne (env : Pictures) {label other : String} (stack : Stack) (h : other ≠ label) :
    env.bind label stack other = env other := if_neg h

end Pictures

/-! ## Running a graph -/

/-- The place that the arguments of an overlay give. -/
def Node.placement? (n : Node) : Option Placement := do
  return ⟨← n.arg? "x", ← n.arg? "y", ← n.arg? "enable"⟩

/-- The picture that a node makes, by its first filter. -/
def Node.stack? (env : Pictures) (n : Node) : Option Stack :=
  match n.operation?, n.inputs with
  | some "scale", [input] => do
    return [.stream input (← n.arg? "w") (← n.arg? "h") none]
  | some "overlay", [below, above] => do
    let lower ← env below
    let upper ← env above
    match upper with
    | [.stream input width height none] =>
      return lower ++ [.stream input width height (← n.placement?)]
    | _ => none
  | some "drawtext", [below] => do
    return (← env below) ++ [.caption (n.filters.flatMap Filter.args)]
  | some "copy", [below] => env below
  | _, _ => none

/-- The pictures after some nodes. -/
def runNodes (env : Pictures) : List Node → Option Pictures
  | [] => some env
  | n :: rest => (n.stack? env).bind fun stack => runNodes (env.bind n.output stack) rest

/-- What a graph shows: the picture with its output label after all nodes. -/
def Graph.picture? (g : Graph) : Option Stack :=
  (runNodes .none g.nodes).bind fun env => env g.outputLabel

/-- A node that has a picture binds it to its label, and the rest goes on from there. -/
lemma runNodes_cons {env : Pictures} {n : Node} {stack : Stack} (h : n.stack? env = some stack)
    (rest : List Node) : runNodes env (n :: rest) = runNodes (env.bind n.output stack) rest := by
  rw [runNodes, h, Option.bind_some]

/-- Two lists of nodes are run one after the other. -/
lemma runNodes_append (env : Pictures) (ms ns : List Node) :
    runNodes env (ms ++ ns) = (runNodes env ms).bind fun env => runNodes env ns := by
  induction ms generalizing env with
  | nil => rfl
  | cons n rest ih =>
      rw [List.cons_append, runNodes, runNodes]
      cases n.stack? env with
      | none => rfl
      | some stack => exact ih _

/-! ## What a timeline asks for -/

/-- A stream of a size and with a centre. -/
def placedLayer? (stream : Nat) (window : Window) (x y width height : Int) : Option Layer := do
  let (left, top) ← (topLeft x y width height).toOption
  return .stream (Label.stream stream) (toString width) (toString height)
    (some ⟨toString left, toString top, gate window⟩)

/-- The layer of the clip with a given number, whose stream has the same number. -/
def Clip.layer? (c : Clip) (index : Nat) : Option Layer := do
  placedLayer? index c.window c.x c.y (← c.width) (← c.height)

/-- The layer of an image from a given stream. -/
def ImageOverlay.layer? (i : ImageOverlay) (stream : Nat) : Option Layer :=
  placedLayer? stream i.window i.x i.y i.width i.height

/-- A caption with everything that is said about it. -/
def TextOverlay.layer? (t : TextOverlay) : Option Layer := do
  let (left, top) ← (topLeft t.x t.y t.width t.height).toOption
  return .caption
    [("text", "'" ++ Caption.escape t.description ++ "'"), ("fontsize", toString t.fontSize),
     ("fontcolor", t.color.literal), ("x", toString left), ("y", toString top),
     ("enable", gate t.window), ("expansion", "none")]

/-- The base clip fills the canvas. -/
def Timeline.baseLayer (t : Timeline) : Layer :=
  .stream (Label.stream 0) (toString t.canvasWidth) (toString t.canvasHeight) none

/-- The layers of a timeline: the base clip, the other clips, the images, whose streams come after
all clips, and the captions. -/
def Timeline.layers? (t : Timeline) : Option Stack := do
  let clips ← (t.overlayClips.zipIdx 1).mapM fun c => c.1.layer? c.2
  let images ← t.images.zipIdx.mapM fun i => i.1.layer? (t.clips.length + i.2)
  let captions ← t.texts.mapM TextOverlay.layer?
  return t.baseLayer :: clips ++ images ++ captions

/-! ## The meaning of single nodes -/

/-- The first node shows the base video, scaled. -/
lemma stack?_baseNode (env : Pictures) (w h : String) :
    (baseNode w h).stack? env = some [.stream (Label.stream 0) w h none] := by
  simp [Node.stack?, Node.operation?, Node.arg?, baseNode]

/-- A node that scales shows its stream alone. -/
lemma stack?_scaleNode (env : Pictures) (stream : Nat) (w h output : String) :
    (scaleNode stream w h output).stack? env = some [.stream (Label.stream stream) w h none] := by
  simp [Node.stack?, Node.operation?, Node.arg?, scaleNode]

/-- A node that overlays puts a stream on top of what is there, placed and with a gate. -/
lemma stack?_overlayNode {env : Pictures} {current scaled input w h : String} {lower : Stack}
    (below : env current = some lower) (above : env scaled = some [.stream input w h none])
    (window : Window) (left top : Int) (output : String) :
    (overlayNode current scaled window left top output).stack? env
      = some (lower
          ++ [.stream input w h (some ⟨toString left, toString top, gate window⟩)]) := by
  simp [Node.stack?, Node.operation?, Node.placement?, Node.arg?, overlayNode, below, above]

/-- A node that draws a text puts it on top of what is there. -/
lemma stack?_captionNode {env : Pictures} {current : String} {lower : Stack}
    (below : env current = some lower) (t : TextOverlay) (fontSize : String) (left top : Int)
    (output : String) :
    (captionNode current t fontSize left top output).stack? env
      = some (lower ++ [.caption
          [("text", "'" ++ Caption.escape t.description ++ "'"), ("fontsize", fontSize),
           ("fontcolor", t.color.literal), ("x", toString left), ("y", toString top),
           ("enable", gate t.window), ("expansion", "none")]]) := by
  simp [Node.stack?, Node.operation?, captionNode, below]

/-- The last node shows what is there. -/
lemma stack?_copyNode (env : Pictures) (current : String) :
    (copyNode current).stack? env = env current := by
  simp [Node.stack?, Node.operation?, copyNode]

/-! ## The meaning of plans -/

/-- What an overlay adds to the picture: the picture of a file in a size, at a place, while it is
visible. -/
def Overlay.layer (o : Overlay) : Layer :=
  .stream (Label.stream o.stream) o.width o.height
    (some ⟨toString o.left, toString o.top, gate o.window⟩)

/-- What a caption adds to the picture. -/
def Lettering.layer (l : Lettering) : Layer :=
  .caption
    [("text", "'" ++ Caption.escape l.text.description ++ "'"), ("fontsize", l.fontSize),
     ("fontcolor", l.text.color.literal), ("x", toString l.left), ("y", toString l.top),
     ("enable", gate l.text.window), ("expansion", "none")]

/-- A scaled stream waits for the overlay that takes it; nothing else is laid on it. -/
def Mark.isScaled : Mark → Bool
  | scaledClip _ | scaledImage _ => true
  | _ => false

/-- The marks of an overlay are of the right kinds. -/
structure Overlay.Tidy (o : Overlay) : Prop where
  scaled : o.scaled.isScaled = true
  output : o.output.isScaled = false

/-- One overlay puts one layer on the picture so far. -/
lemma runNodes_overlay {env : Pictures} {current : Mark} {lower : Stack}
    (below : env current.label = some lower) (finished : current.isScaled = false) {o : Overlay}
    (tidy : o.Tidy) :
    ∃ env', runNodes env (o.nodes current) = some env'
      ∧ env' o.output.label = some (lower ++ [o.layer]) := by
  have apart : current.label ≠ o.scaled.label := by
    intro same
    rw [Mark.label_injective same, tidy.scaled] at finished
    cases finished
  let scaled := env.bind o.scaled.label [.stream (Label.stream o.stream) o.width o.height none]
  have under : scaled current.label = some lower := (Pictures.bind_of_ne _ _ apart).trans below
  have above : scaled o.scaled.label
      = some [.stream (Label.stream o.stream) o.width o.height none] := Pictures.bind_self ..
  refine ⟨scaled.bind o.output.label (lower ++ [o.layer]), ?_, Pictures.bind_self ..⟩
  rw [Overlay.nodes, runNodes_cons (stack?_scaleNode ..)]
  exact runNodes_cons (stack?_overlayNode under above o.window o.left o.top o.output.label) []

/-- **Overlays are stacked in order**: after all of them the picture on top has one layer more for
each. -/
lemma runNodes_stackNodes {env : Pictures} {current : Mark} {lower : Stack}
    (below : env current.label = some lower) (finished : current.isScaled = false)
    {os : List Overlay} (tidy : ∀ o ∈ os, o.Tidy) :
    ∃ env', runNodes env (stackNodes current os) = some env'
      ∧ env' (topMark current os).label = some (lower ++ os.map Overlay.layer) := by
  induction os generalizing env current lower with
  | nil => exact ⟨env, rfl, by rw [List.map_nil, List.append_nil]; exact below⟩
  | cons o rest ih =>
      have first := tidy o List.mem_cons_self
      obtain ⟨middle, here, next⟩ := runNodes_overlay below finished first
      obtain ⟨env', more, top⟩ :=
        ih next first.output fun o ho => tidy o (List.mem_cons_of_mem _ ho)
      refine ⟨env', ?_, ?_⟩
      · rw [stackNodes, runNodes_append, here, Option.bind_some, more]
      · rw [topMark, top, List.map_cons, List.append_assoc]
        rfl

/-- A lettering puts its layer on top. -/
lemma stack?_lettering {env : Pictures} {current : Mark} {lower : Stack}
    (below : env current.label = some lower) (l : Lettering) (output : Mark) :
    (l.node current output).stack? env = some (lower ++ [l.layer]) :=
  stack?_captionNode below l.text l.fontSize l.left l.top output.label

/-- **Captions end at the terminal label**, whether there are any or not. -/
lemma runNodes_letterNodes {env : Pictures} {current : Mark} {lower : Stack}
    (below : env current.label = some lower) (index : Nat) (ls : List Lettering) :
    ∃ env', runNodes env (letterNodes current index ls) = some env'
      ∧ env' terminalLabel = some (lower ++ ls.map Lettering.layer) := by
  induction ls generalizing env current lower index with
  | nil =>
      refine ⟨env.bind terminalLabel lower, ?_, ?_⟩
      · exact runNodes_cons ((stack?_copyNode env current.label).trans below) []
      · rw [Pictures.bind_self, List.map_nil, List.append_nil]
  | cons l rest ih =>
      cases rest with
      | nil =>
          refine ⟨env.bind terminalLabel (lower ++ [l.layer]), ?_, Pictures.bind_self ..⟩
          exact runNodes_cons (stack?_lettering below l .terminal) []
      | cons m rest =>
          let next := env.bind (Mark.label (.text index)) (lower ++ [l.layer])
          have here : next (Mark.label (.text index)) = some (lower ++ [l.layer]) :=
            Pictures.bind_self ..
          obtain ⟨env', more, top⟩ := ih here (index + 1)
          refine ⟨env', ?_, ?_⟩
          · rw [letterNodes_cons_cons, runNodes_cons (stack?_lettering below l (.text index))]
            exact more
          · rw [top, List.map_cons, List.append_assoc]
            rfl

/-- What a plan shows. -/
lemma picture_plan (p : Plan) (tidy : ∀ o ∈ p.overlays, o.Tidy) :
    Graph.picture? { nodes := p.nodes }
      = some (.stream (Label.stream 0) p.width p.height none :: p.overlays.map Overlay.layer
          ++ p.letterings.map Lettering.layer) := by
  let base := Pictures.none.bind Label.base [.stream (Label.stream 0) p.width p.height none]
  have bottom : base (Mark.label .base) = some [.stream (Label.stream 0) p.width p.height none] :=
    Pictures.bind_self ..
  obtain ⟨middle, stack, top⟩ := runNodes_stackNodes bottom rfl tidy
  obtain ⟨env, letters, last⟩ := runNodes_letterNodes top 0 p.letterings
  have run : runNodes .none p.nodes = some env := by
    rw [Plan.nodes, List.cons_append, runNodes_cons (stack?_baseNode ..), runNodes_append]
    exact (congrArg (Option.bind · _) stack).trans letters
  rw [Graph.picture?, run]
  exact last

/-! ## Graphs of timelines -/

/-- The labels of a plan are of the right kinds. -/
lemma tidy_of_plan {t : Timeline} {p : Plan} (h : t.plan = .ok p) : ∀ o ∈ p.overlays, o.Tidy := by
  intro o ho
  have wired := List.mem_map_of_mem (f := Overlay.wiring) ho
  rw [wiring_of_plan h, List.mem_append, List.mem_map, List.mem_map] at wired
  rcases wired with ⟨i, -, hi⟩ | ⟨i, -, hi⟩
  · exact ⟨congrArg (·.2.1.isScaled) hi.symm, congrArg (·.2.2.isScaled) hi.symm⟩
  · exact ⟨congrArg (·.2.1.isScaled) hi.symm, congrArg (·.2.2.isScaled) hi.symm⟩

/-- An overlay that has been placed has the layer that the timeline means. -/
lemma placedLayer?_overlayOf {stream : Nat} {scaled output : Mark} {window : Window}
    {x y width height : Int} {o : Overlay}
    (h : overlayOf stream scaled output window x y width height = .ok o) :
    placedLayer? stream window x y width height = some o.layer := by
  obtain ⟨w, tall, left, top, hw, hh, hc, rfl⟩ := overlayOf_eq_ok h
  rw [placedLayer?, hc, (numeral_eq_ok hw).2, (numeral_eq_ok hh).2]
  rfl

/-- So has a text … -/
lemma layer?_lettering {t : TextOverlay} {l : Lettering} (h : t.lettering = .ok l) :
    t.layer? = some l.layer := by
  obtain ⟨fontSize, left, top, hs, hc, rfl⟩ := lettering_eq_ok h
  rw [TextOverlay.layer?, hc, (numeral_eq_ok hs).2]
  rfl

/-- … a clip … -/
lemma layer?_clip {c : Clip} {index : Nat} {o : Overlay} (h : c.overlay index = .ok o) :
    c.layer? index = some o.layer := by
  obtain ⟨width, height, hw, hh, ho⟩ := clip_overlay_eq_ok h
  rw [Clip.layer?, hw, hh, Option.bind_eq_bind, Option.bind_some, Option.bind_some,
    placedLayer?_overlayOf ho]

/-- … and an image. -/
lemma layer?_image {i : ImageOverlay} {offset index : Nat} {o : Overlay}
    (h : i.overlay offset index = .ok o) : i.layer? (offset + index) = some o.layer := by
  unfold ImageOverlay.overlay at h
  exact placedLayer?_overlayOf h

/-- What a timeline asks for, by its plan. -/
lemma layers?_of_plan {t : Timeline} {p : Plan} (h : t.plan = .ok p) :
    t.layers? = some (.stream (Label.stream 0) p.width p.height none
      :: p.overlays.map Overlay.layer ++ p.letterings.map Lettering.layer) := by
  obtain ⟨base, overlays, clips, images, hcs, hw, hh, hclips, himages, hls, hos⟩ := plan_eq_ok h
  have rest : t.overlayClips = overlays := congrArg (List.drop 1) hcs
  have clipLayers := mapM_eq_some_map hclips fun c o ho => layer?_clip ho
  have imageLayers := mapM_eq_some_map himages fun i o ho => layer?_image ho
  have captions := mapM_eq_some_map hls fun t l hl => layer?_lettering hl
  simp only [Timeline.layers?, rest, clipLayers, imageLayers, captions, Timeline.baseLayer,
    ← (numeral_eq_ok hw).2, ← (numeral_eq_ok hh).2, hos, List.map_append, Option.bind_eq_bind,
    Option.bind_some, Option.pure_def, List.cons_append]

/-- **The graph of a timeline shows what the timeline asks for**: every label that a node takes has
a picture, and the terminal label has exactly the layers of the timeline, from the base up. -/
theorem picture_compile {t : Timeline} {g : Graph} (h : t.compile = .ok g) :
    g.outputLabel = terminalLabel
      ∧ ∃ layers, t.layers? = some layers ∧ g.picture? = some layers := by
  obtain ⟨p, hp, rfl⟩ := exists_plan_of_compile h
  exact ⟨rfl, _, layers?_of_plan hp, picture_plan p (tidy_of_plan hp)⟩

/-- A run on a timeline with five layers. -/
theorem picture_compile_sample :
    ∃ g, Timeline.sample.compile = .ok g ∧ g.outputLabel = terminalLabel
      ∧ ∃ layers, Timeline.sample.layers? = some layers ∧ g.picture? = some layers := by
  obtain ⟨g, hg⟩ := exists_of_isOk (x := Timeline.sample.compile) (by decide +kernel)
  exact ⟨g, hg, picture_compile hg⟩

end Montage
