import Montage.Binary64.Decimal
import Montage.Field.Read
import Montage.Timeline.Basic

/-!
# Where and when a layer is seen

Editors place a layer by its centre, filters by its top left corner.  Nothing is clipped: a layer
may lie partly or wholly outside the canvas.

A layer is shown from its start on and **no longer at its end**, so that two windows that meet share
no frame and leave none out.

* `Length` — a coordinate or an extent, whole pixels or a fraction of them.
* `topLeft` — the corner of a layer with a given centre and size, rounded half upward.
* `secondsText` — a time with at most six places and no zeros at the end.
* `gate` — the condition on the time `t`, between quotes.
-/

namespace Montage

/-! ## Corners -/

/-- A coordinate or an extent on the canvas. -/
inductive Length where
  | pixels (count : Int)
  | fraction (x : Binary64)
  deriving DecidableEq

namespace Length

/-- A length as a number. -/
def value : Length → Except Fault Binary64
  | pixels i => Binary64.ofInt? i
  | fraction x => .ok x

/-- Half a length.  Half of a whole number is rounded once, not after the number itself. -/
def half : Length → Except Fault Binary64
  | pixels i => Binary64.ofRatio? i 2
  | fraction x => .ok (x / 2)

end Length

/-- The lower end of an extent with a given centre, rounded to a whole pixel.  It is worked out in
doubles, so numbers beyond them are a fault. -/
def lowerEnd (centre extent : Length) : Except Fault Int := do
  let half ← extent.half
  let middle ← centre.value
  Binary64.roundHalfUp (middle - half)

/-- The top left corner of a layer. -/
def cornerOf (x y width height : Length) : Except Fault (Int × Int) := do
  let left ← lowerEnd x width
  let top ← lowerEnd y height
  return (left, top)

/-- The top left corner of a layer in whole pixels. -/
def topLeft (x y width height : Int) : Except Fault (Int × Int) :=
  cornerOf (.pixels x) (.pixels y) (.pixels width) (.pixels height)

/-! ## Gates -/

/-- A text without the given character at its end. -/
def dropEndChar (c : Char) (cs : List Char) : List Char :=
  (cs.reverse.dropWhile (· == c)).reverse

/-- A time in seconds as it stands in a graph: `2`, `2.5`.  It has at most six places and no zeros
at its end. -/
def secondsText (x : Binary64) : String :=
  let text := String.ofList (dropEndChar '.' (dropEndChar '0' (x.placesText 6).toList))
  if text = "" then "0" else text

/-- The condition under which a layer is visible: from the start of its window on, and before the
end of it. -/
def gate (w : Window) : String :=
  "'gte(t," ++ secondsText w.start ++ ")*lt(t," ++ secondsText w.finish ++ ")'"

end Montage
