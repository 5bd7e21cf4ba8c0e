import Mathlib.Tactic.Common
import Montage.Binary64.Arithmetic
import Montage.Proofs.Binary64.Order
import Montage.Proofs.Binary64.Rounding

/-!
# Rounding keeps the order

A part of a whole grows with the part, however it is rounded: what a share is computed from may only
grow, and then the share does not go back.

* `roundQuotient_mono`, **`nearest_mono`** — a larger dividend has no smaller quotient.
* `le_trans`, `le_of_lt` — the order of numbers that compare.
* **`le_percent`** — percentages of one whole.
* `minFirst_le`, `le_minFirst`, `maxFirst_le_maxFirst` — numbers that are cut off at a bound.
* `UpTo.of_between` — a number between two others.
* `UpTo.le_mul`, `UpTo.le_div_ofNat`, `UpTo.le_add`, `UpTo.le_roundPlaces` — what an operation makes
  of two numbers in order.
-/

namespace Montage.Binary64

/-! ## Quotients -/

/-- A greater dividend has no smaller rounded quotient. -/
lemma roundQuotient_mono {m n : Nat} (d : Nat) (h : m ≤ n) :
    roundQuotient m d ≤ roundQuotient n d := by
  have quotients : m / d ≤ n / d := Nat.div_le_div_right h
  rcases Nat.lt_or_eq_of_le quotients with less | same
  · -- one integer part is above the other, and there is room for a carry
    calc roundQuotient m d ≤ m / d + 1 := roundQuotient_le_succ m d
      _ ≤ n / d := less
      _ ≤ roundQuotient n d := div_le_roundQuotient n d
  · have rests : m % d ≤ n % d := by
      have first := Nat.div_add_mod m d
      have second := Nat.div_add_mod n d
      rw [same] at first
      omega
    unfold roundQuotient
    dsimp only
    rw [same]
    split_ifs <;> omega

/-- A greater dividend has no finer grid. -/
lemma stepExponent_mono {m n : Nat} (d : Nat) (h : m ≤ n) :
    stepExponent m d ≤ stepExponent n d := by
  have quotients : m / d ≤ n / d := Nat.div_le_div_right h
  have logs : (m / d).log2 ≤ (n / d).log2 := by
    rcases Nat.eq_zero_or_pos (m / d) with none | some
    · rw [none, Nat.log2_zero]
      exact Nat.zero_le _
    · exact (Nat.le_log2 (by omega)).mpr (Nat.le_trans (Nat.log2_self_le (by omega)) quotients)
  unfold stepExponent
  omega

/-- **Rounding to the grid keeps the order.** -/
theorem nearest_mono {m n d : Nat} (pos : 0 < d) (h : m ≤ n) : nearest m d ≤ nearest n d := by
  rcases Nat.lt_or_eq_of_le (stepExponent_mono d h) with less | same
  · -- between the two lies the power of two at which the step grows
    have log : (n / d).log2 = 52 + stepExponent n d := by
      unfold stepExponent at less ⊢
      omega
    have large : n / d ≠ 0 := by
      intro zero
      rw [zero, Nat.log2_zero] at log
      omega
    have between : Significant (twoTo (52 + stepExponent n d)) :=
      ⟨twoTo 52, stepExponent n d, by decide, twoTo_add 52 _⟩
    have below : m ≤ twoTo (52 + stepExponent n d) * d := by
      have quotient : m / d < twoTo (52 + stepExponent n d) := by
        refine Nat.lt_of_lt_of_le (lt_twoTo_log (m / d)) (twoTo_le ?_)
        unfold stepExponent at less ⊢
        omega
      exact Nat.le_of_lt ((Nat.div_lt_iff_lt_mul pos).mp quotient)
    have above : twoTo (52 + stepExponent n d) * d ≤ n := by
      rw [← Nat.le_div_iff_mul_le pos, ← log]
      exact twoTo_log_le large
    exact Nat.le_trans (nearest_le_of_significant between below)
      (le_nearest_of_significant pos between above)
  · unfold nearest
    rw [same]
    exact Nat.mul_le_mul_right _ (roundQuotient_mono _ h)

/-! ## The order -/

/-- Finite numbers compare as their signed units do. -/
lemma le_finite {s t : Bool} {m n : Nat} {grid : OnGrid m} {other : OnGrid n} :
    le (finite s m grid) (finite t n other) = true ↔ signedUnits s m ≤ signedUnits t n := by
  rw [le, compare?, Option.any_some, bne_iff_ne, Ne, Int.compare_eq_gt]
  omega

/-- What is below is not above. -/
lemma le_of_lt {x y : Binary64} (h : lt x y = true) : le x y = true := by
  rw [lt_eq_true] at h
  simp [le, h]

/-- A number is at most itself. -/
lemma le_self {x : Binary64} (number : x.isNan = false) : le x x = true := by
  cases x with
  | nan => cases number
  | infinite s => cases s <;> rfl
  | finite s n grid => exact le_finite.mpr (Int.le_refl _)

/-- Of two numbers the one that is not below the other is at least as great. -/
lemma le_of_lt_eq_false {x y : Binary64} (number : x.isNan = false) (other : y.isNan = false)
    (h : lt y x = false) : le x y = true := by
  by_contra fails
  rw [Bool.not_eq_true, le_eq_false, h, number, other] at fails
  simp at fails

/-- The order is transitive … -/
lemma le_trans {x y z : Binary64} (first : le x y = true) (rest : le y z = true) :
    le x z = true := by
  cases x with
  | nan => cases first
  | infinite a =>
      cases a with
      | true =>
          -- nothing is below
          have number := (not_isNan_of_le rest).2
          cases z with
          | nan => cases number
          | infinite c => cases c <;> rfl
          | finite u k grid => rfl
      | false =>
          cases y with
          | nan => cases rest
          | infinite b => cases b with
            | true => cases first
            | false => exact rest
          | finite t n grid => cases first
  | finite s m grid =>
      cases y with
      | nan => cases rest
      | infinite b =>
          cases b with
          | true => cases first
          | false =>
              cases z with
              | nan => cases rest
              | infinite c => cases c with
                | true => cases rest
                | false => rfl
              | finite u k grid => cases rest
      | finite t n other =>
          cases z with
          | nan => cases rest
          | infinite c => cases c with
            | true => cases rest
            | false => rfl
          | finite u k last =>
              rw [le_finite] at first rest ⊢
              omega

/-- … also where the first comparison is strict … -/
lemma lt_of_lt_of_le {x y z : Binary64} (first : lt x y = true) (rest : le y z = true) :
    lt x z = true := by
  by_contra fails
  have back : le z x = true := le_of_lt_eq_false (not_isNan_of_le rest).2 (not_isNan_of_lt first).1
    (Bool.eq_false_iff.mpr fails)
  exact Bool.false_ne_true ((le_eq_false_of_lt first).symm.trans (le_trans rest back))

/-- … and where the second is. -/
lemma lt_of_le_of_lt {x y z : Binary64} (first : le x y = true) (rest : lt y z = true) :
    lt x z = true := by
  by_contra fails
  have back : le z x = true := le_of_lt_eq_false (not_isNan_of_lt rest).2 (not_isNan_of_le first).1
    (Bool.eq_false_iff.mpr fails)
  exact Bool.false_ne_true ((le_eq_false_of_lt rest).symm.trans (le_trans back first))

/-- What is cut off at a bound is not above it. -/
lemma minFirst_le {bound : Binary64} (number : bound.isNan = false) (x : Binary64) :
    le (minFirst bound x) bound = true := by
  unfold minFirst
  split
  · rename_i below
    exact le_of_lt below
  · exact le_self number

/-- Cutting off at a bound keeps the order. -/
lemma le_minFirst {x y bound : Binary64} (number : bound.isNan = false) (h : le x y = true) :
    le (minFirst bound x) (minFirst bound y) = true := by
  obtain ⟨numberX, numberY⟩ := not_isNan_of_le h
  unfold minFirst
  split
  · rename_i below
    split
    · exact h
    · exact le_of_lt below
  · rename_i above
    have beyond : le bound x = true :=
      le_of_lt_eq_false number numberX (Bool.eq_false_iff.mpr above)
    split
    · exact le_trans beyond h
    · exact le_self number

/-- Raising to a bound keeps the order. -/
lemma maxFirst_le_maxFirst {x y bound : Binary64} (number : bound.isNan = false)
    (h : le x y = true) : le (maxFirst bound x) (maxFirst bound y) = true := by
  obtain ⟨-, numberY⟩ := not_isNan_of_le h
  unfold maxFirst
  split
  · rename_i above
    rw [if_pos (lt_of_lt_of_le above h)]
    exact h
  · split
    · rename_i above
      exact le_of_lt above
    · exact le_self number

/-- What lies between two numbers from zero to a bound is one of them. -/
lemma UpTo.of_between {b : Nat} {x y z : Binary64} (hx : UpTo b x) (hz : UpTo b z)
    (low : le x y = true) (high : le y z = true) : UpTo b y := by
  obtain ⟨s, m, _, rfl, -, signX⟩ := hx
  obtain ⟨u, k, _, rfl, bound, signZ⟩ := hz
  cases y with
  | nan => cases low
  | infinite t => cases t with
    | true => cases low
    | false => cases high
  | finite t n grid =>
      rw [le_finite, UpTo.signedUnits_eq signX] at low
      rw [le_finite, UpTo.signedUnits_eq signZ] at high
      refine ⟨t, n, grid, rfl, ?_, fun negative => ?_⟩
      · cases t with
        | false => simp only [signedUnits, Bool.false_eq_true, if_false] at high; omega
        | true => simp only [signedUnits, if_true] at low; omega
      · rw [negative] at low
        simp only [signedUnits, if_true] at low
        omega

/-! ## Operations on numbers from zero up -/

/-- Numbers from zero compare as their units do. -/
lemma UpTo.le_iff {s t : Bool} {m n : Nat} {grid : OnGrid m} {other : OnGrid n}
    (signX : s = true → m = 0) (signY : t = true → n = 0) :
    le (finite s m grid) (finite t n other) = true ↔ m ≤ n := by
  rw [le_finite, UpTo.signedUnits_eq signX, UpTo.signedUnits_eq signY]
  exact Int.ofNat_le

/-- A larger quotient is no smaller a number; a zero may have either sign. -/
lemma le_ofQuotient {s t : Bool} {m n d : Nat} (pos : 0 < d) (h : m ≤ n)
    (signX : s = true → m = 0) (signY : t = true → n = 0) :
    le (ofQuotient s m d) (ofQuotient t n d) = true := by
  have units := nearest_mono pos h
  unfold ofQuotient
  split
  · split
    · refine (UpTo.le_iff (fun negative => ?_) fun negative => ?_).mpr units
      · rw [signX negative, nearest_zero]
      · rw [signY negative, nearest_zero]
    · rename_i large
      cases t with
      | false => rfl
      | true =>
          rw [signY rfl, nearest_zero] at large
          exact absurd overflowUnits_pos large
  · rename_i large
    have larger : ¬ nearest n d < overflowUnits :=
      Nat.not_lt.mpr (Nat.le_trans (Nat.not_lt.mp large) units)
    rw [dif_neg larger]
    cases s with
    | true =>
        rw [signX rfl, nearest_zero] at large
        exact absurd overflowUnits_pos large
    | false =>
        cases t with
        | false => rfl
        | true =>
            rw [signY rfl, nearest_zero] at larger
            exact absurd overflowUnits_pos larger

namespace UpTo

variable {a b c : Nat} {x y z : Binary64}

/-- Multiplication by a number from zero is monotone … -/
lemma le_mul (hz : UpTo a z) (hx : UpTo b x) (hy : UpTo c y) (h : le x y = true) :
    le (z * x) (z * y) = true := by
  obtain ⟨u, k, _, rfl, -, signZ⟩ := hz
  obtain ⟨s, m, _, rfl, -, signX⟩ := hx
  obtain ⟨t, n, _, rfl, -, signY⟩ := hy
  rw [le_iff signX signY] at h
  rw [finite_mul_finite, finite_mul_finite]
  exact le_ofQuotient one_pos (Nat.mul_le_mul_left k h) (mul_eq_zero_of_sign signZ signX)
    (mul_eq_zero_of_sign signZ signY)

/-- … and so are division by an integer … -/
lemma le_div_ofNat {k : Nat} (hx : UpTo a x) (hy : UpTo b y) (small : k < twoTo 53) (pos : 0 < k)
    (h : le x y = true) : le (x / ofInt k) (y / ofInt k) = true := by
  obtain ⟨s, m, _, rfl, -, signX⟩ := hx
  obtain ⟨t, n, _, rfl, -, signY⟩ := hy
  rw [le_iff signX signY] at h
  have units : 0 < k * one := Nat.mul_pos pos one_pos
  have quotient : ∀ {s : Bool} {n : Nat} (grid : OnGrid n),
      finite s n grid / ofInt k = Binary64.ofQuotient s (n * one) (k * one) := by
    intro s n grid
    rw [ofInt_natCast small]
    show div (finite s n grid) (finite false (k * one) _) = _
    rw [div, if_neg (Nat.ne_of_gt units), Bool.bne_false]
  rw [quotient, quotient]
  refine le_ofQuotient units (Nat.mul_le_mul_right one h) (fun negative => ?_) fun negative => ?_
  · rw [signX negative, Nat.zero_mul]
  · rw [signY negative, Nat.zero_mul]

/-- … addition … -/
lemma le_add (hz : UpTo a z) (hx : UpTo b x) (hy : UpTo c y) (h : le x y = true) :
    le (z + x) (z + y) = true := by
  obtain ⟨u, k, gridZ, rfl, -, signZ⟩ := hz
  obtain ⟨s, m, gridX, rfl, -, signX⟩ := hx
  obtain ⟨t, n, gridY, rfl, -, signY⟩ := hy
  rw [le_iff signX signY] at h
  obtain ⟨v, first, signV⟩ := exists_add gridZ gridX signZ signX
  obtain ⟨w, second, signW⟩ := exists_add gridZ gridY signZ signY
  rw [first, second]
  exact le_ofQuotient Nat.one_pos (Nat.add_le_add_left h k) signV signW

/-- … and rounding to some places. -/
lemma le_roundPlaces {places : Nat} (few : places ≤ 400) (hx : UpTo a x) (hy : UpTo b y)
    (h : le x y = true) :
    le (Binary64.roundPlaces places x) (Binary64.roundPlaces places y) = true := by
  obtain ⟨s, m, _, rfl, -, signX⟩ := hx
  obtain ⟨t, n, _, rfl, -, signY⟩ := hy
  rw [le_iff signX signY] at h
  have digits : toPlaces m places ≤ toPlaces n places :=
    roundQuotient_mono one (Nat.mul_le_mul_right _ h)
  rw [Binary64.roundPlaces, Binary64.roundPlaces, ofDecimal_places few, ofDecimal_places few]
  refine le_ofQuotient (tenTo_pos places) (Nat.mul_le_mul_right one digits) (fun negative => ?_)
    fun negative => ?_
  · rw [signX negative, toPlaces_zero, Nat.zero_mul]
  · rw [signY negative, toPlaces_zero, Nat.zero_mul]

end UpTo

/-! ## Percentages -/

/-- The same of a hundred times such quotients. -/
lemma le_mul_hundred {m n d : Nat} (pos : 0 < d) (h : m ≤ n) :
    le (ofQuotient false m d * 100) (ofQuotient false n d * 100) = true := by
  have units := nearest_mono pos h
  have hundred : (100 : Binary64) = finite false (100 * one) (onGrid_ofNat (by decide)) :=
    ofInt_natCast (k := 100) (by decide)
  have some : 100 * one ≠ 0 := Nat.mul_ne_zero (by decide) (Nat.ne_of_gt one_pos)
  have finitely : ∀ {k : Nat} (grid : OnGrid k),
      finite false k grid * 100 = ofQuotient false (k * (100 * one)) one := by
    intro k grid
    rw [hundred, finite_mul_finite, bne_self_eq_false]
  have infinitely : infinite false * 100 = infinite false := by
    rw [hundred]
    show mul (infinite false) (finite false (100 * one) _) = _
    rw [mul, if_neg some, bne_self_eq_false]
  by_cases small : nearest n d < overflowUnits
  · have smaller : nearest m d < overflowUnits := Nat.lt_of_le_of_lt units small
    have scaled : nearest m d * (100 * one) ≤ nearest n d * (100 * one) :=
      Nat.mul_le_mul_right _ units
    have first : ofQuotient false m d = finite false (nearest m d) _ := dif_pos smaller
    have second : ofQuotient false n d = finite false (nearest n d) _ := dif_pos small
    rw [first, second, finitely, finitely]
    exact le_ofQuotient one_pos scaled UpTo.unsigned UpTo.unsigned
  · have largest : ofQuotient false n d = infinite false := dif_neg small
    rw [largest, infinitely]
    unfold ofQuotient
    split
    · rw [finitely]
      unfold ofQuotient
      split <;> rfl
    · rw [infinitely]
      rfl

/-- **A percentage grows with the part.** -/
theorem le_percent {m n : Nat} {d : Int} (pos : 0 < d) (h : m ≤ n) :
    le (ofRatio m d * 100) (ofRatio n d * 100) = true := by
  have ratio : ∀ k : Nat, ofRatio k d = ofQuotient false (k * one) d.natAbs := by
    intro k
    have whole : decide ((k : Int) < 0) = false := decide_eq_false (by omega)
    have positive : decide (d < 0) = false := decide_eq_false (by omega)
    rw [ofRatio, whole, positive, Int.natAbs_natCast]
    rfl
  rw [ratio, ratio]
  exact le_mul_hundred (by omega) (Nat.mul_le_mul_right _ h)

/-- A part is at most a hundred percent. -/
lemma upTo_percent {m : Nat} {d : Nat} (pos : 0 < d) (h : m ≤ d) :
    UpTo (100 * one) (ofRatio m d * 100) := by
  have part : UpTo (1 * one) (ofRatio m d) := by
    refine UpTo.ofQuotient (onGrid_ofNat (by decide)) ?_ ?_
    · rw [Int.natAbs_natCast, Int.natAbs_natCast, Nat.mul_comm (1 * one), Nat.one_mul]
      exact Nat.mul_le_mul_right _ h
    · intro negative
      rw [decide_eq_false (by omega), decide_eq_false (by omega)] at negative
      cases negative
  refine part.mul (UpTo.ofNat (k := 100) (by decide)) (onGrid_ofNat (by decide)) ?_
  rw [Nat.one_mul, Nat.mul_comm]

end Montage.Binary64
