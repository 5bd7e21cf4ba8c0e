import Montage.Graph.Basic
import Montage.Graph.Escape
import Montage.Graph.Placement
import Montage.Timeline.Validation

/-!
# Graphs from timelines

The layers are stacked from the base upward: the overlay clips, the images, the captions.  The
streams are numbered as the files are: **all clips first, then all images**.

* `Timeline.compile` — the graph of a timeline, or why there is none.
* `checkLabels` — every label is made once, and the terminal one is made.

Each node builds on the label of the one before; the last one makes the terminal label.
-/

namespace Montage

/-! ## Labels -/

namespace Label

/-- The picture that everything else is laid upon. -/
def base : String := "base"

/-- The picture of the file with a given number. -/
def stream (index : Nat) : String := s!"{index}:v"

/-- An overlay clip in its size, before it is laid upon what is there. -/
def scaledClip (index : Nat) : String := s!"scaled_v{index}"

/-- What is to be seen once that clip lies on top. -/
def clip (index : Nat) : String := s!"v{index}"

/-- An image in its size, before it is laid upon what is there. -/
def scaledImage (index : Nat) : String := s!"scaled_img{index}"

/-- What is to be seen once that image lies on top. -/
def image (index : Nat) : String := s!"img{index}"

/-- What is to be seen once that caption lies on top. -/
def text (index : Nat) : String := s!"txt{index}"

end Label

/-! ## Nodes -/

/-- The base clip fills the canvas, its pixels made square. -/
def baseNode (width height : String) : Node :=
  { inputs := [Label.stream 0]
    filters := [⟨"scale", [("w", width), ("h", height)]⟩, ⟨"setsar", [("sar", "1")]⟩]
    output := Label.base }

/-- Brings the picture of a file to a size. -/
def scaleNode (index : Nat) (width height output : String) : Node :=
  { inputs := [Label.stream index]
    filters := [⟨"scale", [("w", width), ("h", height)]⟩]
    output }

/-- Lays a scaled stream on the picture so far. -/
def overlayNode (current scaled : String) (window : Window) (left top : Int) (output : String) :
    Node :=
  { inputs := [current, scaled]
    filters := [⟨"overlay", [("x", toString left), ("y", toString top), ("enable", gate window)]⟩]
    output }

/-- Writes a caption on the picture so far. -/
def captionNode (current : String) (t : TextOverlay) (fontSize : String) (left top : Int)
    (output : String) : Node :=
  { inputs := [current]
    filters := [⟨"drawtext",
      [("text", "'" ++ Caption.escape t.description ++ "'"), ("fontsize", fontSize),
       ("fontcolor", t.color.literal), ("x", toString left), ("y", toString top),
       ("enable", gate t.window), ("expansion", "none")]⟩]
    output }

/-- Gives the picture so far the terminal label. -/
def copyNode (current : String) : Node :=
  { inputs := [current], filters := [⟨"copy", []⟩], output := terminalLabel }

/-! ## The stack of layers -/

/-- A compilation fails for a reason of the graph, or because a number does not fit. -/
def graphFailure (problem : GraphProblem) : Failure := .expected (.compile problem)

/-- A fault in compiling is a failure that nobody foresaw. -/
def liftFault {α : Type} : Except Fault α → Except Failure α :=
  Except.mapError .unexpected

/-- The scaled stream and the overlay of one layer.  Width and height are written, and an integer of
too many digits makes that impossible (`numeral`). -/
def layerNodes (stream : Nat) (current scaled output : String) (window : Window)
    (x y width height : Int) : Except Failure (List Node) := do
  let w ← liftFault (numeral width)
  let h ← liftFault (numeral height)
  let (left, top) ← liftFault (topLeft x y width height)
  return [scaleNode stream w h scaled, overlayNode current scaled window left top output]

/-- The nodes of overlay clips, numbered from `index` on, and the label of the picture after them.
Clip numbers are those of the streams, since the base clip is stream 0 and clip 0. -/
def clipNodes (current : String) (index : Nat) : List Clip → Except Failure (List Node × String)
  | [] => .ok ([], current)
  | c :: rest =>
    match c.width, c.height with
    | some width, some height => do
      let here ← layerNodes index current (Label.scaledClip index) (Label.clip index) c.window
        c.x c.y width height
      let (more, last) ← clipNodes (Label.clip index) (index + 1) rest
      return (here ++ more, last)
    | _, _ => .error (graphFailure (.overlayWithoutSize index))

/-- The nodes of images, numbered from `index` on, and the label of the picture after them; their
streams come after those of `offset` clips. -/
def imageNodes (offset : Nat) (current : String) (index : Nat) :
    List ImageOverlay → Except Failure (List Node × String)
  | [] => .ok ([], current)
  | i :: rest => do
    let here ← layerNodes (offset + index) current (Label.scaledImage index) (Label.image index)
      i.window i.x i.y i.width i.height
    let (more, last) ← imageNodes offset (Label.image index) (index + 1) rest
    return (here ++ more, last)

/-- The node of one caption. -/
def captionLayer (current : String) (t : TextOverlay) (output : String) : Except Failure Node := do
  let (left, top) ← liftFault (topLeft t.x t.y t.width t.height)
  let fontSize ← liftFault (numeral t.fontSize)
  return captionNode current t fontSize left top output

/-- The nodes of captions, numbered from `index` on.  The last caption makes the terminal label;
without captions the picture is copied to it. -/
def captionNodes (current : String) (index : Nat) : List TextOverlay → Except Failure (List Node)
  | [] => .ok [copyNode current]
  | [t] => do
    let last ← captionLayer current t terminalLabel
    return [last]
  | t :: rest => do
    let here ← captionLayer current t (Label.text index)
    let more ← captionNodes (Label.text index) (index + 1) rest
    return here :: more

/-- What the nodes do: the name of the first filter of each. -/
def Graph.operations (g : Graph) : Except Fault (List String) :=
  g.nodes.mapM fun n => n.operation?.elim (.error .noFilter) .ok

/-! ## Labels are made once -/

/-- The texts that occur more than once, each one time, in increasing order. -/
def duplicates (labels : List String) : List String :=
  ((labels.filter fun l => 1 < labels.count l).eraseDups).mergeSort fun a b => !Text.precedes b a

/-- Every label is made once, and the terminal one is made.  Compiled graphs always pass; the check
is the last step of the compiler all the same, as in the program. -/
def checkLabels (nodes : List Node) : Except GraphProblem Unit :=
  let labels := nodes.map Node.output
  match duplicates labels with
  | [] => if labels.count terminalLabel = 1 then .ok () else .error .terminalCount
  | twice => .error (.duplicateLabels twice)

/-- The nodes of a timeline, from the base upward: the base clip, the other clips, the images and
the captions, each on top of those before it. -/
def Timeline.nodes (t : Timeline) : Except Failure (List Node) :=
  match t.clips with
  | [] => .error (graphFailure .noClips)
  | _ :: overlays => do
    let width ← liftFault (numeral t.canvasWidth)
    let height ← liftFault (numeral t.canvasHeight)
    let (clips, afterClips) ← clipNodes Label.base 1 overlays
    let (images, afterImages) ← imageNodes t.clips.length afterClips 0 t.images
    let captions ← captionNodes afterImages 0 t.texts
    return baseNode width height :: clips ++ images ++ captions

/-- The graph of a timeline, if it has a clip and all its numbers can be worked with.  It does not
ask whether the timeline is valid (`Timeline.validate`). -/
def Timeline.compile (t : Timeline) : Except Failure Graph := do
  let nodes ← t.nodes
  (checkLabels nodes).mapError graphFailure
  return { nodes }

end Montage
