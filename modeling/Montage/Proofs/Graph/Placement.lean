import Montage.Proofs.Binary64.HalfUp
import Montage.Proofs.Graph.Plan

/-!
# Exact corners

The corner of a layer is its centre without half of its size.  Both are whole numbers of halves, and
up to 53 bits these are numbers of the binary format, so on the way to a corner nothing is rounded
but the last half, upward.  What the canvas measures plays no part.

* `Binary64.Halves` — a number that is so many halves; `Halves.ofInt`, `Halves.ofRatio`,
  `Halves.sub` — what is computed with such numbers; `Halves.roundHalfUp` — and what they are
  rounded to.
* `InRange` — centres and sizes with room for that.
* `lowerEnd_eq` — one coordinate of a corner.
* `Timeline.compile_resized` — another canvas gives the same graph on another base.
* **`corners_exact`** — corners are exact, they move with the centre, and nothing is clipped.
-/

namespace Montage

/-! ## Whole numbers of halves -/

namespace Binary64

lemma ofQuotient_eq {s : Bool} {n d g : ℕ} (grid : OnGrid g) (same : nearest n d = g) :
    ofQuotient s n d = finite s g grid := by
  subst same
  exact dif_pos grid.below

/-- A quotient that is a point of the grid is that point. -/
lemma nearest_mul {g d : ℕ} (pos : 0 < d) (significant : Significant g) : nearest (g * d) d = g :=
  Nat.le_antisymm (nearest_le_of_significant significant (Nat.le_refl _))
    (le_nearest_of_significant pos significant (Nat.le_refl _))

lemma signedUnits_scaled (i : ℤ) (u : ℕ) : signedUnits (i < 0) (i.natAbs * u) = i * u := by
  rcases lt_or_ge i 0 with negative | positive
  · have abs : (i.natAbs : ℤ) = -i := by omega
    rw [decide_eq_true negative, signedUnits, if_pos rfl, Int.natCast_mul, abs, Int.neg_mul,
      Int.neg_neg]
  · have abs : (i.natAbs : ℤ) = i := by omega
    rw [decide_eq_false (by omega), signedUnits, if_neg Bool.false_ne_true, Int.natCast_mul, abs]

lemma signedUnits_not (s : Bool) (n : ℕ) : signedUnits (!s) n = -signedUnits s n := by
  cases s <;> simp [signedUnits]

/-- A number that is so many halves. -/
def Halves (k : ℤ) (x : Binary64) : Prop :=
  ∃ s n grid, x = finite s n grid ∧ signedUnits s n = k * halfUnits

lemma onGrid_halves {n : ℕ} (small : n < twoTo 53) : OnGrid (n * halfUnits) :=
  onGrid_shifted small (by decide)

namespace Halves

variable {j k : ℤ} {x y : Binary64}

/-- A finite number is no fault. -/
lemma unlessInfinite (h : Halves k x) (fault : Fault) : unlessInfinite fault x = .ok x := by
  obtain ⟨s, n, grid, rfl, -⟩ := h
  rfl

/-- An integer is twice as many halves. -/
lemma ofInt {i : ℤ} (small : i.natAbs < twoTo 53) : Halves (2 * i) (ofInt i) := by
  have grid := onGrid_ofNat small
  refine ⟨_, _, grid, ofQuotient_eq grid (nearest_of_significant grid.significant), ?_⟩
  rw [signedUnits_scaled, one_eq]
  push_cast
  ring

/-- Half an integer. -/
lemma ofRatio {n : ℤ} (small : n.natAbs < twoTo 53) : Halves n (ofRatio n 2) := by
  have grid := onGrid_halves small
  have double : n.natAbs * one = n.natAbs * halfUnits * 2 := by
    rw [one_eq]
    ring
  have quotient : Binary64.ofRatio n 2 = finite (n < 0) (n.natAbs * halfUnits) grid := by
    rw [Binary64.ofRatio, double, show decide ((2 : ℤ) < 0) = false from rfl, Bool.bne_false]
    exact ofQuotient_eq grid (nearest_mul Nat.two_pos grid.significant)
  exact ⟨_, _, grid, quotient, signedUnits_scaled n halfUnits⟩

lemma ofUnits {zeroSign : Bool} (small : k.natAbs < twoTo 53) :
    Halves k (ofUnits zeroSign (k * halfUnits)) := by
  have grid := onGrid_halves small
  have abs : (k * halfUnits).natAbs = k.natAbs * halfUnits := by
    rw [Int.natAbs_mul, Int.natAbs_natCast]
  refine ⟨if k * halfUnits = 0 then zeroSign else k * halfUnits < 0, k.natAbs * halfUnits, grid,
    ?_, ?_⟩
  · rw [Binary64.ofUnits, abs]
    exact ofQuotient_eq grid (nearest_of_significant grid.significant)
  · have pos : (0 : ℤ) < halfUnits := by exact_mod_cast halfUnits_pos
    rcases eq_or_ne k 0 with rfl | nonzero
    · rw [Int.zero_mul, if_pos rfl, Int.natAbs_zero, Nat.zero_mul]
      cases zeroSign <;> rfl
    · have sign : k * halfUnits < 0 ↔ k < 0 := by
        rw [Int.mul_neg_iff]
        omega
      rw [if_neg (Int.mul_ne_zero nonzero (Int.ne_of_gt pos)), decide_eq_decide.mpr sign]
      exact signedUnits_scaled k halfUnits

/-- A difference of such numbers is one, as long as it has 53 bits. -/
lemma sub (hx : Halves j x) (hy : Halves k y) (small : (j - k).natAbs < twoTo 53) :
    Halves (j - k) (x - y) := by
  obtain ⟨s, m, _, rfl, first⟩ := hx
  obtain ⟨t, n, _, rfl, second⟩ := hy
  rw [finite_sub_finite, finite_add_finite, signedUnits_not, first, second, ← Int.sub_eq_add_neg,
    ← Int.sub_mul]
  exact ofUnits small

/-- None of these numbers is rounded too far: the last number below a half is no whole number of
halves, and the odd integers that are rounded too far have more of them. -/
lemma steady (h : Halves k x) (small : k.natAbs < twoTo 53) : ¬ x.Strays := by
  obtain ⟨s, n, grid, rfl, units⟩ := h
  have pos : (0 : ℤ) < halfUnits := by exact_mod_cast halfUnits_pos
  rintro (last | ⟨i, same, -, large, -⟩)
  · rw [value_eq_lastBelowHalf, units] at last
    have less : k * halfUnits < 1 * halfUnits := by
      rw [last, Int.one_mul]
      exact_mod_cast lastBelowHalf_lt
    have more : 0 * (halfUnits : ℤ) < k * halfUnits := by
      rw [last, Int.zero_mul]
      exact_mod_cast Nat.mul_pos (show 0 < fullBits by decide) (twoTo_pos 1020)
    have := Int.lt_of_mul_lt_mul_right less (Int.le_of_lt pos)
    have := Int.lt_of_mul_lt_mul_right more (Int.le_of_lt pos)
    omega
  · have twice : k = 2 * i := by
      rw [value_eq_intCast, units, one_eq] at same
      push_cast at same
      exact Int.eq_of_mul_eq_mul_right (Int.ne_of_gt pos) (by rw [same]; ring)
    have double : twoTo 53 = 2 * twoTo 52 := by decide
    omega

/-- **Halves are rounded upward.** -/
lemma roundHalfUp (h : Halves k x) (small : k.natAbs < twoTo 53) :
    x.roundHalfUp = .ok ((k + 1) / 2) := by
  have steady := h.steady small
  obtain ⟨s, n, grid, rfl, units⟩ := h
  refine (roundHalfUp_eq rfl (isHalfUp_value.mpr ?_)).1 steady
  have pos : (0 : ℤ) ≤ halfUnits := Int.natCast_nonneg _
  have low := Int.mul_le_mul_of_nonneg_right (show 2 * ((k + 1) / 2) ≤ k + 1 by omega) pos
  have high : (k + 1) * halfUnits < (2 * ((k + 1) / 2) + 2) * (halfUnits : ℤ) :=
    Int.mul_lt_mul_of_pos_right (by omega) (by exact_mod_cast halfUnits_pos)
  have double : ((one : ℕ) : ℤ) = 2 * halfUnits := by exact_mod_cast one_eq
  rw [units, double]
  constructor
  · linarith
  · linarith

end Halves

end Binary64

/-! ## Corners -/

/-- Centres and sizes of up to 2^51 pixels.  Twice such a number, and a half more, is still exact in
a double, which is what the placement needs. -/
structure InRange (x y width height : ℤ) : Prop where
  x : |x| ≤ 2 ^ 51
  y : |y| ≤ 2 ^ 51
  width : 1 ≤ width ∧ width ≤ 2 ^ 51
  height : 1 ≤ height ∧ height ≤ 2 ^ 51

section Corners

variable {x y width height centre extent : ℤ}

lemma lowerEnd_eq (place : |centre| ≤ 2 ^ 51) (size : 1 ≤ extent ∧ extent ≤ 2 ^ 51) :
    lowerEnd (.pixels centre) (.pixels extent) = .ok (centre - extent / 2) := by
  obtain ⟨low, high⟩ := abs_le.mp place
  have bits : twoTo 53 = 2 ^ 53 := rfl
  have half := Binary64.Halves.ofRatio (n := extent) (by omega)
  have middle := Binary64.Halves.ofInt (i := centre) (by omega)
  have rest := middle.sub half (by omega)
  have shrunk : (Length.pixels extent).half = .ok (Binary64.ofRatio extent 2) := by
    rw [Length.half, Binary64.ofRatio?, half.unlessInfinite]
  have placed : (Length.pixels centre).value = .ok (Binary64.ofInt centre) := by
    rw [Length.value, Binary64.ofInt?, middle.unlessInfinite]
  have corner : (2 * centre - extent + 1) / 2 = centre - extent / 2 := by omega
  rw [lowerEnd, bind_eq_ok]
  refine ⟨_, shrunk, bind_eq_ok.mpr ⟨_, placed, ?_⟩⟩
  rw [rest.roundHalfUp (by omega), corner]

lemma topLeft_eq (h : InRange x y width height) :
    topLeft x y width height = .ok (x - width / 2, y - height / 2) := by
  rw [topLeft, cornerOf, lowerEnd_eq h.x h.width, lowerEnd_eq h.y h.height]
  rfl

/-- Sizes in range are short enough to be written. -/
lemma numeral_of_le {n : ℤ} (size : 1 ≤ n ∧ n ≤ 2 ^ 51) : numeral n = .ok (toString n) := by
  have few : 2 ^ 51 < tenTo Text.Numeral.digitLimit := by decide +kernel
  rw [numeral, if_neg (by omega)]

/-- A layer in range is there in its whole size. -/
lemma layerNodes_inRange (h : InRange x y width height) (stream : Nat)
    (current scaled output : String) (window : Window) :
    layerNodes stream current scaled output window x y width height
      = .ok [scaleNode stream (toString width) (toString height) scaled,
          overlayNode current scaled window (x - width / 2) (y - height / 2) output] := by
  rw [layerNodes, numeral_of_le h.width, numeral_of_le h.height, topLeft_eq h]
  rfl

lemma captionLayer_inRange {t : TextOverlay} (h : InRange t.x t.y t.width t.height)
    {fontSize : String} (size : numeral t.fontSize = .ok fontSize) (current output : String) :
    captionLayer current t output
      = .ok (captionNode current t fontSize (t.x - t.width / 2) (t.y - t.height / 2) output) := by
  rw [captionLayer, topLeft_eq h, size]
  rfl

end Corners

/-! ## The canvas -/

/-- **The canvas is the size of the base and nothing else**: on another one there is another base,
and the same layers lie on it at the same places. -/
theorem Timeline.compile_resized {t : Timeline} {g : Graph} {canvasWidth canvasHeight : ℤ}
    {width height : String} (h : t.compile = .ok g) (wide : numeral canvasWidth = .ok width)
    (high : numeral canvasHeight = .ok height) :
    ({ t with canvasWidth, canvasHeight } : Timeline).compile
      = .ok { nodes := baseNode width height :: g.nodes.tail } := by
  simp only [Timeline.compile, nodes_eq_plan, bind_eq_ok, map_eq_ok, mapError_eq_ok,
    pure_eq_ok] at h ⊢
  obtain ⟨_, ⟨p, plan, rfl⟩, _, checked, rfl⟩ := h
  refine ⟨_, ⟨{ p with width, height }, ?_, rfl⟩, (), ?_, rfl⟩
  · unfold Timeline.plan at plan ⊢
    cases clips : t.clips with
    | nil =>
        rw [clips] at plan
        cases plan
    | cons base overlays =>
        simp only [clips, bind_eq_ok, liftFault_eq_ok, pure_eq_ok] at plan ⊢
        obtain ⟨_, -, _, -, os, overlaid, ps, imaged, ls, lettered, rfl⟩ := plan
        exact ⟨width, wide, height, high, os, overlaid, ps, imaged, ls, lettered, rfl⟩
  · exact checked

/-! ## Exactness -/

/-- **Corners are exact.**  In range a corner is the centre without half of the size, the half pixel
of an odd size rounded upward; so it moves with the centre.  Nothing is clipped: layers are written
in their whole size and at that corner, and another canvas changes nothing but the base. -/
theorem corners_exact {x y width height : ℤ} (h : InRange x y width height) :
    topLeft x y width height = .ok (x - width / 2, y - height / 2)
    ∧ (∀ dx dy, InRange (x + dx) (y + dy) width height →
        topLeft (x + dx) (y + dy) width height
          = (fun c => (c.1 + dx, c.2 + dy)) <$> topLeft x y width height)
    ∧ (∀ stream current scaled output window,
        layerNodes stream current scaled output window x y width height
          = .ok [scaleNode stream (toString width) (toString height) scaled,
              overlayNode current scaled window (x - width / 2) (y - height / 2) output])
    ∧ (∀ (t : TextOverlay) (fontSize current output : String),
        t.x = x → t.y = y → t.width = width → t.height = height →
        numeral t.fontSize = .ok fontSize →
        captionLayer current t output
          = .ok (captionNode current t fontSize (x - width / 2) (y - height / 2) output))
    ∧ ∀ (t : Timeline) (g : Graph) (canvasWidth canvasHeight : ℤ) (wide high : String),
        t.compile = .ok g → numeral canvasWidth = .ok wide → numeral canvasHeight = .ok high →
        ({ t with canvasWidth, canvasHeight } : Timeline).compile
          = .ok { nodes := baseNode wide high :: g.nodes.tail } := by
  refine ⟨topLeft_eq h, fun dx dy moved => ?_, fun stream current scaled output window =>
    layerNodes_inRange h stream current scaled output window, ?_, ?_⟩
  · rw [topLeft_eq h, topLeft_eq moved]
    change Except.ok _ = Except.ok _
    rw [Except.ok.injEq, Prod.mk.injEq]
    constructor <;> ring
  · rintro t fontSize current output rfl rfl rfl rfl size
    exact captionLayer_inRange h size current output
  · intro t g canvasWidth canvasHeight wide high compiled width height
    exact t.compile_resized compiled width height

/-- A caption of odd width that begins outside the canvas. -/
def TextOverlay.sampleOutside : TextOverlay :=
  ⟨"a", ⟨0, 5⟩, "It's", 24, .white, -5, 7, 51, 50⟩

/-- That caption, the same elsewhere, and a timeline on a very small canvas. -/
theorem corners_exact_sample :
    (InRange (-5) 7 51 50 ∧ topLeft (-5) 7 51 50 = .ok (-30, -18))
    ∧ (InRange (-5 + 10) (7 + -20) 51 50 ∧ topLeft (-5 + 10) (7 + -20) 51 50 = .ok (-20, -38))
    ∧ (numeral 24 = .ok "24" ∧ captionLayer "base" .sampleOutside "outv"
        = .ok (captionNode "base" .sampleOutside "24" (-30) (-18) "outv"))
    ∧ ∃ g, Timeline.sample.compile = .ok g ∧ numeral 2 = .ok "2" ∧ numeral 1 = .ok "1"
        ∧ ({ Timeline.sample with canvasWidth := 2, canvasHeight := 1 } : Timeline).compile
          = .ok { nodes := baseNode "2" "1" :: g.nodes.tail } := by
  have range : InRange (-5) 7 51 50 := ⟨by decide, by decide, by decide, by decide⟩
  have moved : InRange (-5 + 10) (7 + -20) 51 50 := ⟨by decide, by decide, by decide, by decide⟩
  have written : ∀ n : ℤ, n ∈ [1, 2, 24] → numeral n = .ok (toString n) := by decide +kernel
  obtain ⟨corner, moves, -, captions, resized⟩ := corners_exact range
  obtain ⟨g, compiled⟩ := exists_of_isOk (x := Timeline.sample.compile) (by decide +kernel)
  refine ⟨⟨range, corner⟩, ⟨moved, ?_⟩, ⟨written 24 (by decide), ?_⟩, g, compiled,
    written 2 (by decide), written 1 (by decide), ?_⟩
  · rw [moves 10 (-20) moved, corner]
    rfl
  · exact captions .sampleOutside "24" "base" "outv" rfl rfl rfl rfl (written 24 (by decide))
  · exact resized .sample g 2 1 "2" "1" compiled (written 2 (by decide)) (written 1 (by decide))

end Montage
