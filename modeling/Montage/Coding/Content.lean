import Montage.Coding.Inflate
import Montage.Text.Blank

/-!
# Content codings

The body of a response may be coded, and its pieces are decoded as they come.  Several codings are
undone in the reverse of their order.

* `ContentCoding.ofHeader` — the codings that a header names; names that are not known are passed
  over.
* `Pieces` — pieces, and what breaks them off.
* `Pieces.decode` — pieces with all codings undone, **one for each piece that was given**.
-/

namespace Montage.Coding

/-- How a body is coded. -/
inductive ContentCoding where
  | gzip
  | deflate
  deriving DecidableEq, Repr

/-- The coding of a name; others are passed over, so that the body is taken as it is. -/
def ContentCoding.ofName? (name : String) : Option ContentCoding :=
  if name = "gzip" then some .gzip else if name = "deflate" then some .deflate else none

/-- The codings of a header, in the order in which they were applied. -/
def ContentCoding.ofHeader (value : String) : List ContentCoding :=
  (Text.splitAt ',' value.toList).filterMap fun name =>
    ofName? (String.ofList ((Text.trim name).map Char.toLower))

/-- Pieces of a body, and the problem that comes in place of a further one. -/
structure Pieces where
  whole : List ByteArray
  problem : Option InflateProblem := none

/-- The pieces of inflated data: each is what its piece adds to the output.  `before` is what came
before, `given` how much output it gave. -/
def inflatePieces (frame : Frame) (before : ByteArray) (given : Nat) : List ByteArray → Pieces
  | [] => ⟨[], none⟩
  | piece :: rest =>
    let bytes := before ++ piece
    let r := inflate frame bytes
    match r.ending with
    | .failed p => ⟨[], some p⟩
    | _ =>
      let more := inflatePieces frame bytes r.output.size rest
      ⟨r.output.extract given r.output.size :: more.whole, more.problem⟩

/-- The frame of deflated pieces: none if the first piece cannot begin one. -/
def deflateFrame : List ByteArray → Frame
  | [] => .zlib
  | piece :: _ =>
    match (inflate .zlib piece).ending with
    | .failed _ => .bare
    | _ => .zlib

/-- What is around the compressed data.  For `deflate` this is seen from the first byte only. -/
def ContentCoding.frame (pieces : List ByteArray) : ContentCoding → Frame
  | gzip => .gzip
  | deflate => deflateFrame pieces

/-- Pieces with one coding undone. -/
def Pieces.inflate (p : Pieces) (c : ContentCoding) : Pieces :=
  let inflated := inflatePieces (c.frame p.whole) ByteArray.empty 0 p.whole
  { inflated with problem := inflated.problem.or p.problem }

/-- Pieces with all codings undone. -/
def Pieces.decode (p : Pieces) (codings : List ContentCoding) : Pieces :=
  codings.reverse.foldl Pieces.inflate p

end Montage.Coding
