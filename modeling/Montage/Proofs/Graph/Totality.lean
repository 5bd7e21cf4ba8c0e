import Montage.Proofs.Binary64.Range
import Montage.Proofs.Graph.Wiring

/-!
# Which timelines have a graph

Checking a timeline and compiling it are two walks over the same lists.  They meet the same missing
clips and sizes; beyond that, compiling can only run into a number that is too large.

* `Timeline.Fits` — every number of a timeline can be written, and every corner worked out.
* `Settles` — how a compilation ends, given how the check ends and whether the numbers fit;
  `Settles.bind` and `Settles.mapM` put such endings together.
* `settles_compile` — a compilation ends that way.
* **`Timeline.compile_agrees`** — with numbers that fit, compiling succeeds exactly when the check
  does, and fails for the very reason that the check names.
* `Timeline.compile_overflow` — numbers that do not fit do get past the check.
-/

namespace Montage

/-! ## Corners that can be worked out -/

/-- The lower end of an extent can be worked out: the centre, half the extent, and their distance
with a half added are all within the range of binary64 numbers. -/
structure CornerInRange (centre extent : Int) : Prop where
  ofExtent : (Binary64.ofRatio extent 2).isFinite = true
  ofCentre : (Binary64.ofInt centre).isFinite = true
  ofEnd : (Binary64.ofInt centre - Binary64.ofRatio extent 2 + Binary64.half).isFinite = true

/-- The faults of numbers that are too large, for the binary format or to be written. -/
def Fault.isOverflow : Fault → Bool
  | .integerTooLarge | .quotientTooLarge | .infiniteNumber | .longNumeral => true
  | _ => false

/-! ## How a compilation ends -/

/-- The check and the compiler stumble over the same thing. -/
inductive Mirrors : TimelineProblem → GraphProblem → Prop
  | noClips : Mirrors .noClips .noClips
  | overlayWithoutSize (index : Nat) (id : String) :
      Mirrors (.overlayWithoutSize index id) (.overlayWithoutSize index)

/-- How a step of the compiler ends, by the numbers that it needs and by what the check says about
the same part of the timeline. -/
inductive Settles {α : Type} (fits : Prop) (verdict : Except TimelineProblem Unit) :
    Except Failure α → Prop
  | done (a : α) : fits → verdict = .ok () → Settles fits verdict (.ok a)
  | refused {p : TimelineProblem} {q : GraphProblem} : verdict = .error p → Mirrors p q →
      Settles fits verdict (.error (graphFailure q))
  | overflow {fault : Fault} : ¬ fits → fault.isOverflow = true →
      Settles fits verdict (.error (.unexpected fault))

namespace Settles

variable {α β : Type} {fits fits' : Prop} {verdict verdict' : Except TimelineProblem Unit}
  {x : Except Failure α}

/-- A computation settles on any other way to say the same condition. -/
lemma of_iff (same : fits ↔ fits') (h : Settles fits verdict x) : Settles fits' verdict x := by
  rwa [propext same] at h

/-- One step after the other. -/
lemma bind {f : α → Except Failure β} (h : Settles fits verdict x)
    (next : ∀ a, x = .ok a → Settles fits' verdict' (f a)) :
    Settles (fits ∧ fits') (verdict >>= fun _ => verdict') (x >>= f) := by
  cases h with
  | done a here fine =>
      rw [fine]
      show Settles (fits ∧ fits') verdict' (f a)
      have after := next a rfl
      generalize f a = y at after
      cases after with
      | done b there fine' => exact .done b ⟨here, there⟩ fine'
      | refused p q => exact .refused p q
      | overflow large fault => exact .overflow (fun both => large both.2) fault
  | refused p q =>
      rw [p]
      exact .refused rfl q
  | overflow large fault => exact .overflow (fun both => large both.1) fault

/-- A step that the check has nothing to say about comes first. -/
lemma bind_right {f : α → Except Failure β} (h : Settles fits (.ok ()) x)
    (next : ∀ a, x = .ok a → Settles fits' verdict' (f a)) :
    Settles (fits ∧ fits') verdict' (x >>= f) :=
  h.bind next

/-- A step that the check has nothing to say about comes last. -/
lemma bind_left {f : α → Except Failure β} (h : Settles fits verdict x)
    (next : ∀ a, x = .ok a → Settles fits' (.ok ()) (f a)) :
    Settles (fits ∧ fits') verdict (x >>= f) := by
  have both := h.bind next
  cases verdict with
  | ok _ => exact both
  | error p => exact both

/-- What is left cannot go wrong. -/
lemma bind_pure {f : α → Except Failure β} (h : Settles fits verdict x)
    (fine : ∀ a, ∃ b, f a = .ok b) : Settles fits verdict (x >>= f) := by
  cases h with
  | done a here fine' =>
      obtain ⟨b, eq⟩ := fine a
      show Settles fits verdict (f a)
      rw [eq]
      exact .done b here fine'
  | refused p q => exact .refused p q
  | overflow large fault => exact .overflow large fault

/-- What is made of the value settles where the value does. -/
lemma map (f : α → β) (h : Settles fits verdict x) : Settles fits verdict (f <$> x) := by
  cases h with
  | done a here fine => exact .done (f a) here fine
  | refused p q => exact .refused p q
  | overflow large fault => exact .overflow large fault

/-- The same step for every item of a list, where the check has nothing to say. -/
lemma mapM {γ : Type} {f : γ → Except Failure α} {P : γ → Prop} {cs : List γ}
    (each : ∀ c ∈ cs, Settles (P c) (.ok ()) (f c)) :
    Settles (∀ c ∈ cs, P c) (.ok ()) (cs.mapM f) := by
  induction cs with
  | nil => exact .done [] (by simp) rfl
  | cons c rest ih =>
      rw [List.mapM_cons]
      have others := ih fun d hd => each d (List.mem_cons_of_mem _ hd)
      refine of_iff List.forall_mem_cons.symm ?_
      refine (each c List.mem_cons_self).bind_right fun a _ => ?_
      exact others.bind_pure fun as => ⟨a :: as, rfl⟩

end Settles

/-! ## Single numbers -/

/-- A numeral can be written exactly when its integer has few enough digits. -/
lemma settles_numeral (i : Int) : Settles (IsShort i) (.ok ()) (liftFault (numeral i)) := by
  unfold numeral
  split
  · rename_i long
    exact .overflow (Nat.not_lt_of_le long) rfl
  · rename_i short
    exact .done _ (Nat.lt_of_not_le short) rfl

namespace Binary64

/-- A number that passes the check against infinity is that number, and finite. -/
lemma unlessInfinite_eq_ok {fault : Fault} {x y : Binary64} (number : x.isNan = false)
    (h : unlessInfinite fault x = .ok y) : y = x ∧ x.isFinite = true := by
  cases x with
  | nan => cases number
  | infinite s => cases h
  | finite s n grid =>
      cases h
      exact ⟨rfl, rfl⟩

/-- The check against infinity passes exactly what is finite. -/
lemma settles_unlessInfinite {fault : Fault} (large : fault.isOverflow = true) {x : Binary64}
    (number : x.isNan = false) :
    Settles (x.isFinite = true) (.ok ()) (liftFault (unlessInfinite fault x)) := by
  cases x with
  | nan => cases number
  | infinite s => exact .overflow nofun large
  | finite s n grid => exact .done _ rfl rfl

/-- The next lower integer is found exactly where the number is finite. -/
lemma settles_floor? {x : Binary64} (number : x.isNan = false) :
    Settles (x.isFinite = true) (.ok ()) (liftFault (floor? x)) := by
  cases x with
  | nan => cases number
  | infinite s => exact .overflow nofun rfl
  | finite s n grid => exact .done _ rfl rfl

end Binary64

/-- Faults of two computations in a row are the faults of each. -/
lemma liftFault_bind {α β : Type} (x : Except Fault α) (f : α → Except Fault β) :
    liftFault (x >>= f) = liftFault x >>= fun a => liftFault (f a) := by
  cases x <;> rfl

/-- Half the extent, then the centre, then the end that lies between them. -/
lemma settles_lowerEnd (centre extent : Int) :
    Settles (CornerInRange centre extent) (.ok ())
      (liftFault (lowerEnd (.pixels centre) (.pixels extent))) := by
  have extentNumber := Binary64.isNan_ofRatio extent 2
  have centreNumber := Binary64.isNan_ofInt centre
  have whole : CornerInRange centre extent ↔ (Binary64.ofRatio extent 2).isFinite = true
      ∧ (Binary64.ofInt centre).isFinite = true
      ∧ (Binary64.ofInt centre - Binary64.ofRatio extent 2 + Binary64.half).isFinite = true := by
    constructor
    · rintro ⟨ofExtent, ofCentre, ofEnd⟩
      exact ⟨ofExtent, ofCentre, ofEnd⟩
    · rintro ⟨ofExtent, ofCentre, ofEnd⟩
      exact ⟨ofExtent, ofCentre, ofEnd⟩
  rw [whole]
  simp only [lowerEnd, Length.half, Length.value, Binary64.ofRatio?, Binary64.ofInt?,
    liftFault_bind, Binary64.roundHalfUp]
  generalize Binary64.ofRatio extent 2 = half at extentNumber ⊢
  generalize Binary64.ofInt centre = middle at centreNumber ⊢
  refine (Binary64.settles_unlessInfinite rfl extentNumber).bind_right fun x hx => ?_
  obtain ⟨rfl, extentFinite⟩ := Binary64.unlessInfinite_eq_ok extentNumber (liftFault_eq_ok.mp hx)
  refine (Binary64.settles_unlessInfinite rfl centreNumber).bind_right fun y hy => ?_
  obtain ⟨rfl, centreFinite⟩ := Binary64.unlessInfinite_eq_ok centreNumber (liftFault_eq_ok.mp hy)
  exact Binary64.settles_floor? (Binary64.isNan_add_half
    (Binary64.isNan_sub centreFinite extentFinite))

/-- A corner is found exactly when both its coordinates are in range. -/
lemma settles_topLeft (x y width height : Int) :
    Settles (CornerInRange x width ∧ CornerInRange y height) (.ok ())
      (liftFault (topLeft x y width height)) := by
  simp only [topLeft, cornerOf, liftFault_bind]
  refine (settles_lowerEnd x width).bind_right fun left _ => ?_
  exact (settles_lowerEnd y height).bind_pure fun top => ⟨(left, top), rfl⟩

/-! ## Layers -/

/-- The numbers of a layer with an extent fit: its size can be written, and its corner is one in
range (`CornerInRange`). -/
structure LayerFits (x y width height : Int) : Prop where
  shortWidth : IsShort width
  shortHeight : IsShort height
  left : CornerInRange x width
  top : CornerInRange y height

/-- A layer is placed exactly when its numbers fit. -/
lemma settles_overlayOf (stream : Nat) (scaled output : Mark) (window : Window)
    (x y width height : Int) :
    Settles (LayerFits x y width height) (.ok ())
      (overlayOf stream scaled output window x y width height) := by
  have steps : Settles
      (IsShort width ∧ IsShort height ∧ CornerInRange x width ∧ CornerInRange y height)
      (.ok ()) (overlayOf stream scaled output window x y width height) := by
    unfold overlayOf
    refine (settles_numeral width).bind_right fun w _ => ?_
    refine (settles_numeral height).bind_right fun tall _ => ?_
    exact (settles_topLeft x y width height).bind_pure fun corner => ⟨_, rfl⟩
  refine steps.of_iff ⟨?_, ?_⟩
  · rintro ⟨hw, hh, hl, ht⟩
    exact ⟨hw, hh, hl, ht⟩
  · rintro ⟨hw, hh, hl, ht⟩
    exact ⟨hw, hh, hl, ht⟩

/-- The numbers of an overlay clip fit; one without a size has none to be worked out. -/
def Clip.Fits (c : Clip) : Prop :=
  ∀ width ∈ c.width, ∀ height ∈ c.height, LayerFits c.x c.y width height

/-- An image can be placed: its corner is a number that can be computed. -/
def ImageOverlay.Fits (i : ImageOverlay) : Prop := LayerFits i.x i.y i.width i.height

/-- A caption can be placed, and the size of its letters can be written down. -/
structure TextOverlay.Fits (t : TextOverlay) : Prop where
  left : CornerInRange t.x t.width
  top : CornerInRange t.y t.height
  fontSize : IsShort t.fontSize

/-- All numbers of a timeline fit: those that are written are short enough, and every corner can be
worked out. -/
structure Timeline.Fits (t : Timeline) : Prop where
  canvasWidth : IsShort t.canvasWidth
  canvasHeight : IsShort t.canvasHeight
  clips : ∀ c ∈ t.overlayClips, c.Fits
  images : ∀ i ∈ t.images, i.Fits
  texts : ∀ x ∈ t.texts, x.Fits

/-- A text is drawn exactly when its numbers fit. -/
lemma settles_lettering (t : TextOverlay) : Settles t.Fits (.ok ()) t.lettering := by
  have steps : Settles
      ((CornerInRange t.x t.width ∧ CornerInRange t.y t.height) ∧ IsShort t.fontSize)
      (.ok ()) t.lettering := by
    unfold TextOverlay.lettering
    refine (settles_topLeft t.x t.y t.width t.height).bind_right fun corner _ => ?_
    exact (settles_numeral t.fontSize).bind_pure fun fontSize => ⟨_, rfl⟩
  refine steps.of_iff ⟨?_, ?_⟩
  · rintro ⟨⟨hl, ht⟩, hf⟩
    exact ⟨hl, ht, hf⟩
  · rintro ⟨hl, ht, hf⟩
    exact ⟨⟨hl, ht⟩, hf⟩

/-- One overlay clip; the check calls it by its number and its id. -/
lemma settles_clip (c : Clip) (index : Nat) :
    Settles c.Fits
      (if Timeline.hasSize c then .ok () else .error (.overlayWithoutSize index c.id))
      (c.overlay index) := by
  unfold Clip.overlay
  cases hw : c.width with
  | none =>
      simp only [Timeline.hasSize, hw]
      exact .refused rfl (.overlayWithoutSize index c.id)
  | some width =>
      cases hh : c.height with
      | none =>
          simp only [Timeline.hasSize, hw, hh]
          exact .refused rfl (.overlayWithoutSize index c.id)
      | some height =>
          simp only [Timeline.hasSize, hw, hh]
          refine (settles_overlayOf index _ _ c.window c.x c.y width height).of_iff ?_
          simp [Clip.Fits, hw, hh]

/-- The overlays are checked in their order, and the first one without a size is what is complained
about. -/
lemma validateOverlays_cons (index : Nat) (c : Clip) (rest : List Clip) :
    Timeline.validateOverlays index (c :: rest)
      = ((if Timeline.hasSize c then .ok () else .error (.overlayWithoutSize index c.id)) >>=
          fun _ => Timeline.validateOverlays (index + 1) rest) := by
  rw [Timeline.validateOverlays]
  cases Timeline.hasSize c <;> rfl

/-- The overlay clips, one by one, as the check and the compiler count them. -/
lemma settles_clips (clips : List Clip) (index : Nat) :
    Settles (∀ c ∈ clips, c.Fits) (Timeline.validateOverlays index clips)
      ((clips.zipIdx index).mapM fun c => c.1.overlay c.2) := by
  induction clips generalizing index with
  | nil => exact .done [] (by simp) rfl
  | cons c rest ih =>
      rw [validateOverlays_cons, List.zipIdx_cons, List.mapM_cons]
      refine Settles.of_iff List.forall_mem_cons.symm ?_
      refine (settles_clip c index).bind fun o _ => ?_
      exact (ih (index + 1)).bind_pure fun os => ⟨o :: os, rfl⟩

/-- All images are placed exactly when the numbers of each fit. -/
lemma settles_images (images : List ImageOverlay) (offset : Nat) :
    Settles (∀ i ∈ images, i.Fits) (.ok ())
      (images.zipIdx.mapM fun i => i.1.overlay offset i.2) := by
  refine Settles.of_iff ?_ <| Settles.mapM (P := fun i : ImageOverlay × Nat => i.1.Fits)
    fun i _ => settles_overlayOf _ _ _ i.1.window i.1.x i.1.y i.1.width i.1.height
  constructor
  · intro numbered i hi
    rw [← List.zipIdx_map_fst 0 images] at hi
    obtain ⟨j, hj, rfl⟩ := List.mem_map.mp hi
    exact numbered j hj
  · intro each j hj
    exact each j.1 (List.fst_mem_of_mem_zipIdx hj)

/-! ## Whole timelines -/

/-- A plan comes of a timeline exactly when its numbers fit, and otherwise with what the gate
complains about. -/
lemma settles_plan (t : Timeline) : Settles t.Fits t.validate t.plan := by
  unfold Timeline.plan Timeline.validate
  cases hcs : t.clips with
  | nil => exact .refused rfl .noClips
  | cons base overlays =>
      have steps : Settles (IsShort t.canvasWidth ∧ IsShort t.canvasHeight
          ∧ (∀ c ∈ overlays, c.Fits) ∧ (∀ i ∈ t.images, i.Fits) ∧ ∀ x ∈ t.texts, x.Fits)
          (Timeline.validateOverlays 1 overlays) t.plan := by
        simp only [Timeline.plan, hcs]
        refine (settles_numeral t.canvasWidth).bind_right fun width _ => ?_
        refine (settles_numeral t.canvasHeight).bind_right fun height _ => ?_
        refine (settles_clips overlays 1).bind_left fun clips _ => ?_
        refine (settles_images t.images _).bind_right fun images _ => ?_
        refine Settles.bind_pure ?_ fun letterings => ⟨_, rfl⟩
        exact Settles.mapM fun x _ => settles_lettering x
      simp only [Timeline.plan, hcs] at steps
      refine steps.of_iff ⟨?_, ?_⟩
      · rintro ⟨hw, hh, clips, images, texts⟩
        refine ⟨hw, hh, ?_, images, texts⟩
        rwa [Timeline.overlayClips, hcs]
      · rintro ⟨hw, hh, clips, images, texts⟩
        rw [Timeline.overlayClips, hcs] at clips
        exact ⟨hw, hh, clips, images, texts⟩

/-- The check of labels passes, so nothing but the plan can go wrong. -/
lemma compile_eq_plan (t : Timeline) :
    t.compile = (fun p : Plan => ({ nodes := p.nodes } : Graph)) <$> t.plan := by
  simp only [Timeline.compile, nodes_eq_plan]
  cases h : t.plan with
  | error f => rfl
  | ok p =>
      have chain := linearChain_plan h
      have labels := checkLabels_of_nodup chain.distinct (List.mem_of_getLast? chain.terminal_last)
      simp only [Functor.map, Except.map, bind, Except.bind, labels, Except.mapError]
      rfl

/-- So does a graph. -/
lemma settles_compile (t : Timeline) : Settles t.Fits t.validate t.compile := by
  rw [compile_eq_plan]
  exact (settles_plan t).map _

/-! ## Numbers of moderate size fit -/

/-- Numbers of at most 307 digits, and a little more, are moderate. -/
def IsModerate (i : Int) : Prop := i.natAbs ≤ tenTo 307

/-- An integer of moderate size has few enough digits. -/
lemma IsModerate.isShort {i : Int} (h : IsModerate i) : IsShort i := by
  have : tenTo 307 < tenTo Text.Numeral.digitLimit := by decide +kernel
  exact Nat.lt_of_le_of_lt h this

/-- There is room for sixteen moderate numbers below the largest one. -/
lemma room : 16 * (tenTo 307 * Binary64.one) + 4 * Binary64.one + 13 < overflowUnits := by
  decide +kernel

/-- A corner of moderate numbers is in range. -/
lemma reaches_of_isModerate {centre extent : Int} (hc : IsModerate centre)
    (he : IsModerate extent) : CornerInRange centre extent := by
  have room := room
  have hc : centre.natAbs * Binary64.one ≤ tenTo 307 * Binary64.one := Nat.mul_le_mul_right _ hc
  have he : extent.natAbs * Binary64.one ≤ tenTo 307 * Binary64.one := Nat.mul_le_mul_right _ he
  generalize tenTo 307 * Binary64.one = b at hc he room
  have middle := Binary64.Within.ofInt hc (by omega)
  have half := Binary64.Within.ofRatio (d := 2) he (by omega)
  have lower := middle.sub half (by omega)
  have ending := lower.add Binary64.Within.half (by omega)
  exact ⟨half.isFinite, middle.isFinite, ending.isFinite⟩

/-- A layer of moderate numbers fits. -/
lemma layerFits_of_isModerate {x y width height : Int} (hx : IsModerate x) (hy : IsModerate y)
    (hw : IsModerate width) (hh : IsModerate height) : LayerFits x y width height :=
  ⟨hw.isShort, hh.isShort, reaches_of_isModerate hx hw, reaches_of_isModerate hy hh⟩

/-- The whole numbers of a clip, as far as it has them. -/
def Clip.numbers (c : Clip) : List Int := [c.x, c.y] ++ c.width.toList ++ c.height.toList

/-- The whole numbers of an image. -/
def ImageOverlay.numbers (i : ImageOverlay) : List Int := [i.x, i.y, i.width, i.height]

/-- The whole numbers of a caption. -/
def TextOverlay.numbers (x : TextOverlay) : List Int := [x.x, x.y, x.width, x.height, x.fontSize]

/-- All integers of a timeline; those of the base clip are not used. -/
def Timeline.numbers (t : Timeline) : List Int :=
  [t.canvasWidth, t.canvasHeight] ++ t.overlayClips.flatMap Clip.numbers
    ++ t.images.flatMap ImageOverlay.numbers ++ t.texts.flatMap TextOverlay.numbers

/-- **A timeline whose numbers are of moderate size can be compiled**, as far as numbers go. -/
lemma Timeline.fits_of_isModerate {t : Timeline} (h : ∀ n ∈ t.numbers, IsModerate n) : t.Fits := by
  simp only [Timeline.numbers, List.forall_mem_append, List.forall_mem_cons, List.mem_flatMap,
    forall_exists_index, and_imp] at h
  obtain ⟨⟨⟨⟨canvasWidth, canvasHeight, -⟩, clips⟩, images⟩, texts⟩ := h
  refine ⟨canvasWidth.isShort, canvasHeight.isShort, ?_, ?_, ?_⟩
  · intro c hc width hw height hh
    have each : ∀ n ∈ c.numbers, IsModerate n := fun n => clips n c hc
    refine layerFits_of_isModerate (each _ ?_) (each _ ?_) (each _ ?_) (each _ ?_)
    · simp [Clip.numbers]
    · simp [Clip.numbers]
    · simp [Clip.numbers, Option.mem_def.mp hw]
    · simp [Clip.numbers, Option.mem_def.mp hh]
  · intro i hi
    have each : ∀ n ∈ i.numbers, IsModerate n := fun n => images n i hi
    refine layerFits_of_isModerate (each _ ?_) (each _ ?_) (each _ ?_) (each _ ?_)
    all_goals simp [ImageOverlay.numbers]
  · intro x hx
    have each : ∀ n ∈ x.numbers, IsModerate n := fun n => texts n x hx
    refine ⟨reaches_of_isModerate (each _ ?_) (each _ ?_),
      reaches_of_isModerate (each _ ?_) (each _ ?_), (each _ ?_).isShort⟩
    all_goals simp [TextOverlay.numbers]

/-! ## The check and the compiler -/

/-- **The check and the compiler agree** on every timeline whose numbers fit: there is a graph when
the check passes, and otherwise the compiler fails for the reason that the check names.  Numbers of
moderate size fit.  When numbers do not fit there is no graph, and the failure is still either the
one that the check names or an overflow. -/
theorem Timeline.compile_agrees (t : Timeline) :
    ((∃ g, t.compile = .ok g) ↔ t.validate = .ok () ∧ t.Fits) ∧
    (t.Fits → ∀ p, t.validate = .error p →
      ∃ q, Mirrors p q ∧ t.compile = .error (graphFailure q)) ∧
    (∀ f, t.compile = .error f →
      (∃ p q, t.validate = .error p ∧ Mirrors p q ∧ f = graphFailure q) ∨
      ¬ t.Fits ∧ ∃ fault : Fault, fault.isOverflow = true ∧ f = .unexpected fault) ∧
    ((∀ n ∈ t.numbers, IsModerate n) → t.Fits) := by
  have ending := settles_compile t
  refine ⟨?_, ?_, ?_, Timeline.fits_of_isModerate⟩
  · constructor
    · rintro ⟨g, hg⟩
      rw [hg] at ending
      cases ending with
      | done _ fits fine => exact ⟨fine, fits⟩
    · rintro ⟨fine, fits⟩
      generalize t.compile = outcome at ending
      cases ending with
      | done g _ _ => exact ⟨g, rfl⟩
      | refused bad _ =>
          rw [fine] at bad
          cases bad
      | overflow large _ => exact absurd fits large
  · intro fits p bad
    generalize t.compile = outcome at ending
    cases ending with
    | done g _ fine =>
        rw [fine] at bad
        cases bad
    | refused bad' mirrors =>
        rw [bad] at bad'
        cases bad'
        exact ⟨_, mirrors, rfl⟩
    | overflow large _ => exact absurd fits large
  · intro f hf
    rw [hf] at ending
    cases ending with
    | refused bad mirrors => exact .inl ⟨_, _, bad, mirrors, rfl⟩
    | overflow large fault => exact .inr ⟨large, _, fault, rfl⟩

/-- The sample passes the check and its numbers are moderate, so it has a graph. -/
theorem Timeline.compile_agrees_sample :
    (∀ n ∈ Timeline.sample.numbers, IsModerate n) ∧ Timeline.sample.validate = .ok () ∧
    ∃ g, Timeline.sample.compile = .ok g := by
  have moderate : ∀ n ∈ Timeline.sample.numbers, IsModerate n := by
    show ∀ n ∈ Timeline.sample.numbers, n.natAbs ≤ tenTo 307
    decide +kernel
  have agrees := Timeline.compile_agrees Timeline.sample
  have fits := agrees.2.2.2 moderate
  exact ⟨moderate, rfl, agrees.1.mpr ⟨rfl, fits⟩⟩

/-- A timeline with an image whose centre is at `x`, wherever that is. -/
def Timeline.farImage (x : Int) : Timeline where
  canvasWidth := 1280
  canvasHeight := 720
  clips := [⟨"c0", ⟨0, 10⟩, "a.mp4", none, none, 0, 0⟩]
  images := [⟨"i0", ⟨0, 10⟩, "b.png", 100, 50, x, 0⟩]
  texts := []

/-- A payload that such a timeline is read from. -/
def Timeline.farPayload (x : Int) : Json :=
  .obj [("canvasWidth", .int 1280), ("canvasHeight", .int 720),
    ("clips", .arr [.obj [("id", .str "c0"), ("sourceRef", .str "a.mp4"), ("startTime", .int 0),
      ("endTime", .int 10)]]),
    ("images", .arr [.obj [("id", .str "i0"), ("sourceRef", .str "b.png"), ("startTime", .int 0),
      ("endTime", .int 10), ("width", .int 100), ("height", .int 50), ("x", .int x),
      ("y", .int 0)]])]

/-- Numbers that do not fit get past the check, and the compiler then breaks. -/
theorem Timeline.compile_overflow :
    Timeline.ofPayload "" (farPayload (tenTo 320)) = .ok (farImage (tenTo 320)) ∧
    (farImage (tenTo 320)).validate = .ok () ∧
    (farImage (tenTo 320)).compile = .error (.unexpected .integerTooLarge) := by
  refine ⟨?_, rfl, ?_⟩
  · decide +kernel
  · decide +kernel

end Montage
