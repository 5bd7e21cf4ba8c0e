/-!
# Filter graphs

A rendering is described by a list of nodes.  A node takes streams by their labels, sends them
through a chain of filters and gives the result a label of its own.

* `Filter`, `Node`, `Graph` — the pieces; `render` and `serialize` — their text.
* `Node.operation?`, `Node.arg?`, `Graph.producersOf` — what a graph can be asked.
-/

namespace Montage

/-- One filter with its arguments, in order. -/
structure Filter where
  name : String
  args : List (String × String) := []
  deriving DecidableEq

/-- A step of a graph: the labels it takes, its filters, and the label it makes.  A label that it
takes is a stream of an input, or is made by a node before it. -/
structure Node where
  inputs : List String
  filters : List Filter
  output : String
  deriving DecidableEq

/-- The label of the finished picture. -/
def terminalLabel : String := "outv"

/-- The sound of the base clip, if it has any.  Overlays are silent. -/
def baseAudio : String := "0:a?"

/-- A graph: its nodes in the order in which they are written, the label of the finished picture,
and where the sound comes from.  `Timeline.compile` makes one, `Graph.serialize` writes it. -/
structure Graph where
  nodes : List Node
  outputLabel : String := terminalLabel
  audioMap : String := baseAudio
  deriving DecidableEq

/-! ## Text -/

/-- A filter as it is written: its name, and its arguments after an equals sign.  Nothing is escaped
here; the texts of captions come escaped already (`Caption.escape`). -/
def Filter.render (f : Filter) : String :=
  if f.args.isEmpty then f.name
  else f.name ++ "=" ++ ":".intercalate (f.args.map fun a => a.1 ++ "=" ++ a.2)

/-- A label in brackets. -/
def bracketed (label : String) : String := "[" ++ label ++ "]"

/-- A node as it is written: the labels of its inputs, its filters, and the label of its output. -/
def Node.render (n : Node) : String :=
  String.join (n.inputs.map bracketed) ++ ",".intercalate (n.filters.map Filter.render)
    ++ bracketed n.output

/-- The whole graph as one argument, the nodes separated by semicolons. -/
def Graph.serialize (g : Graph) : String := ";".intercalate (g.nodes.map Node.render)

/-! ## Questions -/

/-- The name of the first filter. -/
def Node.operation? (n : Node) : Option String := n.filters.head?.map Filter.name

/-- The first argument with a given key, in any of the filters. -/
def Node.arg? (n : Node) (key : String) : Option String :=
  ((n.filters.flatMap Filter.args).find? fun a => a.1 = key).map Prod.snd

/-- The labels that the nodes make. -/
def Graph.outputLabels (g : Graph) : List String := g.nodes.map Node.output

/-- The nodes that make a label; in a compiled graph there is at most one. -/
def Graph.producersOf (g : Graph) (label : String) : List Node :=
  g.nodes.filter fun n => n.output = label

end Montage
