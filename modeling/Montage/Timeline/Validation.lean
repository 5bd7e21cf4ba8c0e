import Montage.Failure
import Montage.Timeline.Decode

/-!
# Timelines that can be exported

* `Timeline.ofPayload` — a timeline from an editor's payload, all problems in one failure.
* `Timeline.validate` — what the fields alone cannot say: **there is a base clip, and every overlay
  clip has a size**.  An overlay may outlast the base; it is then simply not seen.
-/

namespace Montage

/-- The failure of a payload that is not a timeline. -/
def malformed (problems : List FieldProblem) : Failure :=
  .expected (.validation (.malformed problems))

/-- The value that was read, or why there is none. -/
def Checked.toExcept {α : Type} : Checked α → Except Failure α
  | .ok a => .ok a
  | .bad problems => .error (malformed problems)
  | .broken fault => .error (.unexpected fault)

namespace Timeline

/-- A timeline from a payload; entities without an id get `fresh`. -/
def ofPayload (fresh : String) (payload : Json) : Except Failure Timeline :=
  (decode fresh payload).toExcept

/-- Whether a clip has the size that an overlay needs. -/
def hasSize (c : Clip) : Bool := c.width.isSome && c.height.isSome

/-- Checks overlay clips, numbered from `index` on. -/
def validateOverlays (index : Nat) : List Clip → Except TimelineProblem Unit
  | [] => .ok ()
  | c :: rest =>
    if hasSize c then validateOverlays (index + 1) rest
    else .error (.overlayWithoutSize index c.id)

/-- Whether a timeline can be exported: it has a base clip, and every overlay clip has a size. -/
def validate (t : Timeline) : Except TimelineProblem Unit :=
  match t.clips with
  | [] => .error .noClips
  | _ :: overlays => validateOverlays 1 overlays

end Timeline

end Montage
