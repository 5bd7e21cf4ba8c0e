import Montage.Proofs.Progress.Forward

/-!
# Bands of the bar

Every phase has its own part of the whole bar.  Within a phase a place grows with the progress, from
one end of the band to the other, however often it is rounded on the way; and the bands lie in the
order of their phases.

* `Phase.clamp_of_isNan`, `Phase.clamp_of_le_zero`, `Phase.clamp_of_hundred_le` — what a progress is
  cut off to; `Phase.clamp_mono` — cutting off keeps the order.
* `Phase.onBand_ends` — the ends of a band are reached exactly.
* **`Phase.onBand_mono`** — each step of the computation keeps the order, so all of them do.
* **`Phase.places_banded`** — where the places of a phase lie, and in which order.
-/

namespace Montage

open Binary64

namespace Phase

variable {p q x y : Binary64}

/-! ## Cutting off -/

lemma zero_lt_hundred : lt 0 100 = true := by decide +kernel

/-- What is not above zero becomes zero. -/
lemma clamp_of_not_lt (low : lt 0 p = false) : clamp p = 0 := by
  rw [clamp, maxFirst, low, if_neg Bool.false_ne_true, minFirst, if_pos zero_lt_hundred]

lemma clamp_of_isNan (missing : p.isNan = true) : clamp p = 0 := by
  refine clamp_of_not_lt (Bool.eq_false_iff.mpr fun above => ?_)
  rw [(not_isNan_of_lt above).2] at missing
  cases missing

lemma clamp_of_le_zero (below : le p 0 = true) : clamp p = 0 :=
  clamp_of_not_lt (lt_eq_false_of_le below)

lemma clamp_of_hundred_le (above : le 100 p = true) : clamp p = 100 := by
  have positive : lt 0 p = true := lt_of_lt_of_le zero_lt_hundred above
  rw [clamp, maxFirst, if_pos positive, minFirst, lt_eq_false_of_le above,
    if_neg Bool.false_ne_true]

lemma clamp_mono (h : le p q = true) : le (clamp p) (clamp q) = true :=
  le_minFirst (isNan_ofInt 100) (maxFirst_le_maxFirst (isNan_ofInt 0) h)

/-! ## Places on a band -/

variable (phase : Phase)

/-- The ends of the scale lie at the ends of the band. -/
lemma onBand_ends : phase.onBand 0 = phase.band.1 ∧ phase.onBand 100 = phase.band.2 := by
  cases phase <;> decide +kernel

/-- **A place grows with the progress**, because each step of its computation keeps the order. -/
theorem onBand_mono (hx : UpTo fullUnits x) (hy : UpTo fullUnits y) (h : le x y = true) :
    le (phase.onBand x) (phase.onBand y) = true := by
  have scaled := phase.upTo_extent.le_mul hx hy h
  have shares := UpTo.le_div_ofNat (k := 100) (phase.upTo_scaled hx) (phase.upTo_scaled hy)
    (by decide) (by decide) scaled
  have sums := phase.upTo_start.le_add (phase.upTo_share hx) (phase.upTo_share hy) shares
  exact UpTo.le_roundPlaces (by decide) (phase.upTo_sum hx) (phase.upTo_sum hy) sums

lemma band_le_place (p : Binary64) : le phase.band.1 (phase.place p) = true := by
  have clamped := upTo_clamp p
  rw [← phase.onBand_ends.1, place_eq]
  exact phase.onBand_mono upTo_zero clamped clamped.zero_le

lemma place_le_band (p : Binary64) : le (phase.place p) phase.band.2 = true := by
  have clamped := upTo_clamp p
  rw [← phase.onBand_ends.2, place_eq]
  exact phase.onBand_mono clamped upTo_hundred clamped.le_full

/-- A band ends before a later one starts, or where it starts. -/
lemma band_le_band {f g : Phase} (earlier : f.rank < g.rank) : le f.band.2 g.band.1 = true := by
  have order : f.start + f.extent ≤ g.start := by
    cases f <;> cases g <;> simp_all [rank, start, extent]
  have room := g.start_add_extent_le
  have ends : f.start + f.extent < twoTo 53 := small_of_le (by omega)
  have starts : g.start < twoTo 53 := small_of_le (by omega)
  rw [band_eq, band_eq, ofInt_natCast ends, ofInt_natCast starts]
  exact (UpTo.le_iff UpTo.unsigned UpTo.unsigned).mpr (Nat.mul_le_mul_right one order)

/-- **Places keep to their bands and to their order.**  A place lies in the band of its phase, at
its lower end without progress and at its upper end with all of it; it grows with the progress; and
no place of an earlier phase is beyond one of a later phase. -/
theorem places_banded (f g : Phase) (p q : Binary64) :
    (le f.band.1 (f.place p) = true ∧ le (f.place p) f.band.2 = true)
    ∧ (p.isNan = true ∨ le p 0 = true → f.place p = f.band.1)
    ∧ (le 100 p = true → f.place p = f.band.2)
    ∧ (le p q = true → le (f.place p) (f.place q) = true)
    ∧ (f.rank < g.rank → le (f.place p) (g.place q) = true) := by
  refine ⟨⟨f.band_le_place p, f.place_le_band p⟩, ?_, ?_, ?_, ?_⟩
  · rintro (missing | below)
    · rw [place_eq, clamp_of_isNan missing, f.onBand_ends.1]
    · rw [place_eq, clamp_of_le_zero below, f.onBand_ends.1]
  · intro above
    rw [place_eq, clamp_of_hundred_le above, f.onBand_ends.2]
  · intro order
    rw [place_eq, place_eq]
    exact f.onBand_mono (upTo_clamp p) (upTo_clamp q) (clamp_mono order)
  · intro earlier
    exact le_trans (f.place_le_band p) (le_trans (band_le_band earlier) (g.band_le_place q))

/-- Less than nothing, not-a-number, more than all, and a third of a phase before a later one. -/
theorem places_banded_sample :
    (le (ofInt (-5)) 0 = true ∧ preparing.place (ofInt (-5)) = 10)
    ∧ (isNan nan = true ∧ preparing.place nan = 10)
    ∧ (le 100 (infinite false) = true ∧ preparing.place (infinite false) = 50)
    ∧ (le (ofRatio 100 3) 50 = true
        ∧ le (preparing.place (ofRatio 100 3)) (preparing.place 50) = true)
    ∧ (preparing.rank < processing.rank
        ∧ le (preparing.place (ofRatio 100 3)) (processing.place nan) = true) := by
  obtain ⟨below, beyond, order⟩ : le (ofInt (-5)) 0 = true ∧ le 100 (infinite false) = true
      ∧ le (ofRatio 100 3) 50 = true := by decide +kernel
  obtain ⟨-, lower, -⟩ := places_banded preparing processing (ofInt (-5)) 0
  obtain ⟨-, missing, -⟩ := places_banded preparing processing nan 0
  obtain ⟨-, -, upper, -⟩ := places_banded preparing processing (infinite false) 0
  obtain ⟨-, -, -, grows, -⟩ := places_banded preparing processing (ofRatio 100 3) 50
  obtain ⟨-, -, -, -, later⟩ := places_banded preparing processing (ofRatio 100 3) nan
  exact ⟨⟨below, lower (.inr below)⟩, ⟨rfl, missing (.inl rfl)⟩, ⟨beyond, upper beyond⟩,
    ⟨order, grows order⟩, ⟨by decide, later (by decide)⟩⟩

end Phase

end Montage
