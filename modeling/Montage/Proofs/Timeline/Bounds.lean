import Montage.Proofs.Binary64.Order
import Montage.Proofs.Timeline.WellFormed

/-!
# The bounds of a decoded timeline

The parts of a timeline are bounded when they are read: nothing starts before zero, sizes are
rounded first and checked after, and a window that ends before or when it starts is refused.

* `Timeline.sizes` — all extents and font sizes of a timeline, as far as they are given.
* **`Timeline.bounds_of_payload`** — every size is at least one; every window ends after its start,
  **unless its end is not a number**.
* `Timeline.endless_accepted` — such an end does get through: it is not at most the start.
-/

namespace Montage

open Checked

/-! ## Windows -/

lemma Window.WellFormed.lasts_iff {w : Window} (h : w.WellFormed) :
    Binary64.lt w.start w.finish = true ↔ w.finish.isNan = false :=
  Binary64.lt_iff_of_le_eq_false (Binary64.not_isNan_of_le h.start).2 h.finish

/-- Every window of a timeline belongs to one of its entities. -/
lemma Timeline.WellFormed.windows {t : Timeline} (h : t.WellFormed) :
    ∀ w ∈ t.windows, w.WellFormed := by
  intro w hw
  simp only [Timeline.windows, List.mem_append, List.mem_map] at hw
  rcases hw with (⟨c, hc, rfl⟩ | ⟨i, hi, rfl⟩) | ⟨x, hx, rfl⟩
  · exact (h.clips c hc).window
  · exact (h.images i hi).window
  · exact (h.texts x hx).window

/-! ## Sizes -/

/-- The sizes of a clip that are there. -/
def Clip.sizes (c : Clip) : List Int := c.width.toList ++ c.height.toList

/-- The sizes of an image. -/
def ImageOverlay.sizes (i : ImageOverlay) : List Int := [i.width, i.height]

/-- The sizes of a caption, that of its letters among them. -/
def TextOverlay.sizes (x : TextOverlay) : List Int := [x.width, x.height, x.fontSize]

/-- All extents and font sizes, the canvas first. -/
def Timeline.sizes (t : Timeline) : List Int :=
  [t.canvasWidth, t.canvasHeight] ++ t.clips.flatMap Clip.sizes
    ++ t.images.flatMap ImageOverlay.sizes ++ t.texts.flatMap TextOverlay.sizes

lemma Clip.WellFormed.sizes {c : Clip} (h : c.WellFormed) : ∀ n ∈ c.sizes, 1 ≤ n := by
  intro n hn
  simp only [Clip.sizes, List.mem_append, Option.mem_toList] at hn
  rcases hn with hn | hn
  · exact h.width n hn
  · exact h.height n hn

lemma ImageOverlay.WellFormed.sizes {i : ImageOverlay} (h : i.WellFormed) :
    ∀ n ∈ i.sizes, 1 ≤ n := by
  intro n hn
  simp only [ImageOverlay.sizes, List.mem_cons, List.not_mem_nil, or_false] at hn
  rcases hn with rfl | rfl
  · exact h.width
  · exact h.height

lemma TextOverlay.WellFormed.sizes {x : TextOverlay} (h : x.WellFormed) :
    ∀ n ∈ x.sizes, 1 ≤ n := by
  intro n hn
  simp only [TextOverlay.sizes, List.mem_cons, List.not_mem_nil, or_false] at hn
  rcases hn with rfl | rfl | rfl
  · exact h.width
  · exact h.height
  · exact h.fontSize

lemma Timeline.WellFormed.sizes {t : Timeline} (h : t.WellFormed) : ∀ n ∈ t.sizes, 1 ≤ n := by
  intro n hn
  simp only [Timeline.sizes, List.mem_append, List.mem_cons, List.not_mem_nil, or_false,
    List.mem_flatMap] at hn
  rcases hn with (((rfl | rfl) | ⟨c, hc, hn⟩) | ⟨i, hi, hn⟩) | ⟨x, hx, hn⟩
  · exact h.canvasWidth
  · exact h.canvasHeight
  · exact (h.clips c hc).sizes n hn
  · exact (h.images i hi).sizes n hn
  · exact (h.texts x hx).sizes n hn

/-! ## What gets through -/

/-- **A decoded timeline is within its bounds**: every given size is at least one, and every window
starts at zero or later and ends after its start exactly when its end is a number. -/
theorem Timeline.bounds_of_payload {fresh : String} {payload : Json} {t : Timeline}
    (h : Timeline.ofPayload fresh payload = .ok t) :
    (∀ n ∈ t.sizes, 1 ≤ n) ∧
    ∀ w ∈ t.windows, Binary64.le 0 w.start = true ∧
      (Binary64.lt w.start w.finish = true ↔ w.finish.isNan = false) := by
  have wellFormed := Timeline.wellFormed_of_payload h
  constructor
  · exact wellFormed.sizes
  · intro w hw
    have window := wellFormed.windows w hw
    exact ⟨window.start, window.lasts_iff⟩

/-- A payload with one clip that ends when the argument says. -/
def Timeline.payloadUntil (finish : Json) : Json :=
  .obj [("canvasWidth", .int 1280), ("canvasHeight", .int 720),
    ("clips", .arr [.obj [("id", .str "a"), ("sourceRef", .str "a.mp4"), ("startTime", .int 0),
      ("endTime", finish)]])]

/-- The timeline of that payload, when the end is a number after zero or not a number. -/
def Timeline.untilFinish (finish : Binary64) : Timeline where
  canvasWidth := 1280
  canvasHeight := 720
  clips := [⟨"a", ⟨0, finish⟩, "a.mp4", none, none, 0, 0⟩]
  images := []
  texts := []

/-- An end without bound is a number, so the window lasts. -/
theorem Timeline.bounds_of_payload_infinite :
    Timeline.ofPayload "" (payloadUntil (.str "inf")) = .ok (untilFinish (.infinite false)) ∧
    ∀ w ∈ (untilFinish (.infinite false)).windows, Binary64.lt w.start w.finish = true := by
  have accepted : Timeline.ofPayload "" (payloadUntil (.str "inf"))
      = .ok (untilFinish (.infinite false)) := by
    decide +kernel
  have bounds := (Timeline.bounds_of_payload accepted).2
  refine ⟨accepted, ?_⟩
  intro w hw
  refine (bounds w hw).2.mpr ?_
  rcases List.mem_singleton.mp hw with rfl
  rfl

/-- An end that is not a number is accepted, and the window does not last. -/
theorem Timeline.endless_accepted :
    Timeline.ofPayload "" (payloadUntil (.num .nan)) = .ok (untilFinish .nan) ∧
    ∃ w ∈ (untilFinish .nan).windows, Binary64.lt w.start w.finish = false := by
  constructor
  · decide +kernel
  · exact ⟨⟨0, .nan⟩, List.mem_singleton_self _, by decide +kernel⟩

end Montage
