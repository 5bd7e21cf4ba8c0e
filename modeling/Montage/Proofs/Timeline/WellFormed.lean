import Mathlib.Tactic.Common
import Montage.Proofs.Field.Checked
import Montage.Proofs.Text.Decimal
import Montage.Timeline.Validation

/-!
# What every decoded timeline satisfies

A timeline is only ever made by decoding a payload, so whatever decoding checks or normalises holds
of every timeline.

* `Color.WellFormed`, `Window.WellFormed`, `Clip.WellFormed`, … — what is known of each part.
* `Timeline.WellFormed` — what is known of the whole.
* **`Timeline.wellFormed_of_payload`** — a decoded timeline is well-formed.
-/

namespace Montage

open Checked

/-! ## Colours -/

/-- A hexadecimal digit in upper case. -/
def isUpperHex (c : Char) : Bool := ('0' ≤ c && c ≤ '9') || ('A' ≤ c && c ≤ 'F')

/-- A hexadecimal digit in either case. -/
def isHex (c : Char) : Bool :=
  ('0' ≤ c && c ≤ '9') || ('a' ≤ c && c ≤ 'f') || ('A' ≤ c && c ≤ 'F')

lemma toNat_lt_of_isHex {c : Char} (h : isHex c = true) : c.toNat < 103 := by
  simp only [isHex, Bool.or_eq_true, Bool.and_eq_true, decide_eq_true_eq, Char.le_def,
    UInt32.le_iff_toNat_le] at h
  change c.val.toNat < 103
  have : '9'.val.toNat = 57 := rfl
  have : 'f'.val.toNat = 102 := rfl
  have : 'F'.val.toNat = 70 := rfl
  omega

/-- What holds of the hexadecimal digits, by looking at each character before `g`. -/
lemma isUpperHex_toUpper {c : Char} (h : isHex c = true) : isUpperHex c.toUpper = true := by
  have each : ∀ n < 103, isHex (Char.ofNat n) = true →
      isUpperHex (Char.ofNat n).toUpper = true := by decide
  have := each c.toNat (toNat_lt_of_isHex h)
  rw [Char.ofNat_toNat] at this
  exact this h

/-- Digits in capitals are digits. -/
lemma isHex_of_isUpperHex {c : Char} (h : isUpperHex c = true) : isHex c = true := by
  simp only [isUpperHex, isHex, Bool.or_eq_true] at h ⊢
  tauto

lemma toUpper_of_isUpperHex {c : Char} (h : isUpperHex c = true) : c.toUpper = c := by
  have each : ∀ n < 103, isUpperHex (Char.ofNat n) = true →
      (Char.ofNat n).toUpper = Char.ofNat n := by
    decide
  have := each c.toNat (toNat_lt_of_isHex (isHex_of_isUpperHex h))
  rw [Char.ofNat_toNat] at this
  exact this h

/-- Six hexadecimal digits in upper case. -/
structure Color.WellFormed (c : Color) : Prop where
  length : c.digits.toList.length = 6
  digits : c.digits.toList.all isUpperHex = true

/-- The digits of a colour, with what may stand before them taken away. -/
def Color.bareDigits (s : String) : List Char :=
  match s.toList with
  | '#' :: rest => rest
  | cs => cs

lemma Color.ofText?_eq (s : String) :
    Color.ofText? s
      = if (bareDigits s).length = 6 && (bareDigits s).all isHex then
          some ⟨String.ofList ((bareDigits s).map Char.toUpper)⟩
        else none := rfl

/-- A colour that was read has six digits in capitals. -/
lemma Color.wellFormed_of_ofText? {s : String} {c : Color} (h : Color.ofText? s = some c) :
    c.WellFormed := by
  rw [Color.ofText?_eq] at h
  split at h
  · rename_i six
    rw [Bool.and_eq_true, decide_eq_true_iff, List.all_eq_true] at six
    cases h
    constructor
    · rw [String.toList_ofList, List.length_map, six.1]
    · rw [String.toList_ofList, List.all_map, List.all_eq_true]
      exact fun d hd => isUpperHex_toUpper (six.2 d hd)
  · cases h

/-- **A stored colour is read as itself.** -/
lemma Color.WellFormed.ofText?_text {c : Color} (h : c.WellFormed) :
    Color.ofText? c.text = some c := by
  have digits := List.all_eq_true.mp h.digits
  have bare : bareDigits c.text = c.digits.toList := by
    rw [bareDigits, Color.text, String.toList_append]
    rfl
  have hex : c.digits.toList.all isHex = true :=
    List.all_eq_true.mpr fun d hd => isHex_of_isUpperHex (digits d hd)
  have upper : c.digits.toList.map Char.toUpper = c.digits.toList :=
    (List.map_congr_left (g := id) fun d hd => toUpper_of_isUpperHex (digits d hd)).trans
      (List.map_id _)
  rw [Color.ofText?_eq, bare, h.length, hex, upper, String.ofList_toList]
  rfl

/-- There is no half in a colour. -/
lemma Color.WellFormed.hasHalf_text {c : Color} (h : c.WellFormed) :
    Text.hasHalf c.text = false := by
  have digits := List.all_eq_true.mp h.digits
  have chars : c.text = String.ofList ('#' :: c.digits.toList) := by
    rw [← String.toList_inj]
    simp [Color.text]
  rw [chars]
  refine Text.hasHalf_ofList_eq_false fun d hd => ?_
  rcases List.mem_cons.mp hd with rfl | hd
  · decide
  · exact Nat.lt_trans (toNat_lt_of_isHex (isHex_of_isUpperHex (digits d hd))) (by decide)

/-! ## Entities -/

/-- A window starts at zero or later and ends after its start, if its end is a number. -/
structure Window.WellFormed (w : Window) : Prop where
  start : Binary64.le 0 w.start = true
  finish : Binary64.le w.finish w.start = false

/-- What a file may be called: a text that is not empty and has no half of a surrogate pair. -/
structure IsReference (s : String) : Prop where
  nonempty : s ≠ ""
  unicode : Text.hasHalf s = false

/-- A clip as it comes out of reading: its window is one, its file has a name, and sizes that are
there are positive. -/
structure Clip.WellFormed (c : Clip) : Prop where
  window : c.window.WellFormed
  source : IsReference c.source
  width : ∀ w ∈ c.width, 0 < w
  height : ∀ h ∈ c.height, 0 < h

/-- An image as it comes out of reading; its size is always there. -/
structure ImageOverlay.WellFormed (i : ImageOverlay) : Prop where
  window : i.window.WellFormed
  source : IsReference i.source
  width : 0 < i.width
  height : 0 < i.height

/-- A caption as it comes out of reading: its window, its size and its color have passed their
checks. -/
structure TextOverlay.WellFormed (t : TextOverlay) : Prop where
  window : t.window.WellFormed
  fontSize : 0 < t.fontSize
  color : t.color.WellFormed
  width : 0 < t.width
  height : 0 < t.height

/-- A timeline as it comes out of reading.  It may have no clip: that is refused later, by
`Timeline.validate`. -/
structure Timeline.WellFormed (t : Timeline) : Prop where
  canvasWidth : 0 < t.canvasWidth
  canvasHeight : 0 < t.canvasHeight
  clips : ∀ c ∈ t.clips, c.WellFormed
  images : ∀ i ∈ t.images, i.WellFormed
  texts : ∀ x ∈ t.texts, x.WellFormed

/-! ## What readers return -/

namespace Read

/-- What passes the check is positive. -/
lemma pos_of_positive {x : Checked Int} {i : Int} (h : positive x = ok i) : 0 < i := by
  obtain ⟨j, -, hj⟩ := andThen_eq_ok.mp h
  split at hj
  · rename_i pos
    cases hj
    exact pos
  · cases hj

lemma pos_of_optionalSize {j : Json} {o : Option Int} (h : optionalSize j = ok o) :
    ∀ i ∈ o, 0 < i := by
  unfold optionalSize at h
  split at h
  · cases h
    exact nofun
  · cases hx : positive (pixel j) with
    | ok i =>
        rw [hx] at h
        cases h
        rintro _ ⟨⟩
        exact pos_of_positive hx
    | bad ps => rw [hx] at h; cases h
    | broken e => rw [hx] at h; cases h

lemma le_of_startSeconds {j : Json} {x : Binary64} (h : startSeconds j = ok x) :
    Binary64.le 0 x = true := by
  obtain ⟨y, -, hy⟩ := andThen_eq_ok.mp h
  split at hy
  · rename_i le
    cases hy
    exact le
  · cases hy

/-- A text is looked at when it has no half. -/
lemma looked_eq_ok {α : Type} {read : String → Checked α} {s : String} {a : α} :
    looked read s = ok a ↔ Text.hasHalf s = false ∧ read s = ok a := by
  unfold looked
  cases Text.hasHalf s with
  | false => simp
  | true => simp

/-- What passes for a reference has a character and no half. -/
lemma isReference_of_nonEmptyText {j : Json} {s : String} (h : nonEmptyText j = ok s) :
    IsReference s := by
  obtain ⟨t, -, ht⟩ := andThen_eq_ok.mp h
  obtain ⟨whole, ht⟩ := looked_eq_ok.mp ht
  split at ht
  · cases ht
  · rename_i nonempty
    cases ht
    exact ⟨nonempty, whole⟩

lemma wellFormed_of_color {j : Json} {c : Color} (h : color j = ok c) : c.WellFormed := by
  obtain ⟨t, -, ht⟩ := andThen_eq_ok.mp h
  obtain ⟨-, ht⟩ := looked_eq_ok.mp ht
  cases hc : Color.ofText? t with
  | none => rw [hc] at ht; cases ht
  | some d =>
      rw [hc] at ht
      cases ht
      exact Color.wellFormed_of_ofText? hc

end Read

/-- The check passes a window that does not end before it starts; a comparison with what is no
number is false, so that passes as well. -/
lemma Window.checked_eq_ok {α : Type} {window : α → Window} {a b : α} :
    Window.checked window a = ok b ↔
      a = b ∧ Binary64.le (window b).finish (window b).start = false := by
  simp only [Window.checked]
  cases late : Binary64.le (window a).finish (window a).start with
  | true =>
      constructor
      · nofun
      · rintro ⟨rfl, early⟩
        rw [early] at late
        cases late
  | false =>
      constructor
      · rintro ⟨⟩
        exact ⟨rfl, late⟩
      · rintro ⟨rfl, -⟩
        rfl

/-! ## Decoded entities -/

/-- An entity is read when its id, its window and the rest are. -/
lemma decodeEntity_eq_ok {α : Type} {fresh : String} {ms : Members}
    {rest : Checked (String → Window → α)} {a : α} :
    decodeEntity fresh ms rest = ok a ↔
      ∃ id start finish make, Field.id.optional Read.text fresh ms = ok id
        ∧ Field.startTime.required Read.startSeconds ms = ok start
        ∧ Field.endTime.required Read.seconds ms = ok finish
        ∧ rest = ok make ∧ make id ⟨start, finish⟩ = a := by
  simp only [decodeEntity, seq_eq_ok, fmap_eq_ok]
  constructor
  · rintro ⟨_, make, ⟨_, finish, ⟨_, start, ⟨id, hid, rfl⟩, hs, rfl⟩, hf, rfl⟩, hm, rfl⟩
    exact ⟨id, start, finish, make, hid, hs, hf, hm, rfl⟩
  · rintro ⟨id, start, finish, make, hid, hs, hf, hm, rfl⟩
    exact ⟨_, make, ⟨_, finish, ⟨_, start, ⟨id, hid, rfl⟩, hs, rfl⟩, hf, rfl⟩, hm, rfl⟩

lemma le_of_startTime {ms : Members} {x : Binary64}
    (h : Field.startTime.required Read.startSeconds ms = ok x) : Binary64.le 0 x = true := by
  obtain ⟨j, hj⟩ := FieldName.required_eq_ok h
  exact Read.le_of_startSeconds hj

lemma pos_of_requiredSize {name : FieldName} {ms : Members} {i : Int}
    (h : name.required Read.size ms = ok i) : 0 < i := by
  obtain ⟨_, hj⟩ := FieldName.required_eq_ok h
  exact Read.pos_of_positive hj

lemma pos_of_defaultSize {name : FieldName} {ms : Members} {i default : Int} (pos : 0 < default)
    (h : name.optional Read.size default ms = ok i) : 0 < i := by
  rcases FieldName.optional_eq_ok h with ⟨_, hj⟩ | rfl
  · exact Read.pos_of_positive hj
  · exact pos

/-- A size that is there is positive. -/
lemma pos_of_openSize {name : FieldName} {ms : Members} {o : Option Int}
    (h : name.optional Read.optionalSize none ms = ok o) : ∀ i ∈ o, 0 < i := by
  rcases FieldName.optional_eq_ok h with ⟨_, hj⟩ | rfl
  · exact Read.pos_of_optionalSize hj
  · exact nofun

lemma isReference_of_sourceRef {ms : Members} {s : String}
    (h : Field.sourceRef.required Read.nonEmptyText ms = ok s) : IsReference s := by
  obtain ⟨_, hj⟩ := FieldName.required_eq_ok h
  exact Read.isReference_of_nonEmptyText hj

/-- The default passes the check of the field. -/
lemma Color.wellFormed_white : Color.white.WellFormed := ⟨by decide, by decide⟩

/-- A clip that was read is well-formed. -/
lemma Clip.wellFormed_of_decode {fresh : String} {j : Json} {c : Clip}
    (h : Clip.decode fresh j = ok c) : c.WellFormed := by
  obtain ⟨ms, -, hms⟩ := andThen_eq_ok.mp h
  obtain ⟨d, hd, hw⟩ := andThen_eq_ok.mp hms
  obtain ⟨rfl, early⟩ := Window.checked_eq_ok.mp hw
  obtain ⟨_, _, _, _, -, start, -, hm, rfl⟩ := decodeEntity_eq_ok.mp hd
  simp only [seq_eq_ok, fmap_eq_ok] at hm
  obtain ⟨_, _, ⟨_, _, ⟨_, _, ⟨_, _, ⟨_, source, rfl⟩, width, rfl⟩, height, rfl⟩, -, rfl⟩, -,
    rfl⟩ := hm
  exact ⟨⟨le_of_startTime start, early⟩, isReference_of_sourceRef source, pos_of_openSize width,
    pos_of_openSize height⟩

/-- An image that was read is well-formed. -/
lemma ImageOverlay.wellFormed_of_decode {fresh : String} {j : Json} {i : ImageOverlay}
    (h : ImageOverlay.decode fresh j = ok i) : i.WellFormed := by
  obtain ⟨ms, -, hms⟩ := andThen_eq_ok.mp h
  obtain ⟨d, hd, hw⟩ := andThen_eq_ok.mp hms
  obtain ⟨rfl, early⟩ := Window.checked_eq_ok.mp hw
  obtain ⟨_, _, _, _, -, start, -, hm, rfl⟩ := decodeEntity_eq_ok.mp hd
  simp only [seq_eq_ok, fmap_eq_ok] at hm
  obtain ⟨_, _, ⟨_, _, ⟨_, _, ⟨_, _, ⟨_, source, rfl⟩, width, rfl⟩, height, rfl⟩, -, rfl⟩, -,
    rfl⟩ := hm
  exact ⟨⟨le_of_startTime start, early⟩, isReference_of_sourceRef source,
    pos_of_requiredSize width, pos_of_requiredSize height⟩

/-- A caption that was read is well-formed. -/
lemma TextOverlay.wellFormed_of_decode {fresh : String} {j : Json} {t : TextOverlay}
    (h : TextOverlay.decode fresh j = ok t) : t.WellFormed := by
  obtain ⟨ms, -, hms⟩ := andThen_eq_ok.mp h
  obtain ⟨d, hd, hw⟩ := andThen_eq_ok.mp hms
  obtain ⟨rfl, early⟩ := Window.checked_eq_ok.mp hw
  obtain ⟨_, _, _, _, -, start, -, hm, rfl⟩ := decodeEntity_eq_ok.mp hd
  simp only [seq_eq_ok, fmap_eq_ok] at hm
  obtain ⟨_, _, ⟨_, _, ⟨_, _, ⟨_, _, ⟨_, _, ⟨_, _, ⟨_, -, rfl⟩, fontSize, rfl⟩, color, rfl⟩, -,
    rfl⟩, -, rfl⟩, width, rfl⟩, height, rfl⟩ := hm
  refine ⟨⟨le_of_startTime start, early⟩, pos_of_defaultSize (by decide) fontSize, ?_,
    pos_of_defaultSize (by decide) width, pos_of_defaultSize (by decide) height⟩
  rcases FieldName.optional_eq_ok color with ⟨_, hj⟩ | rfl
  · exact Read.wellFormed_of_color hj
  · exact Color.wellFormed_white

/-! ## Decoded timelines -/

/-- What holds of every decoded item holds of every item of a decoded list, also of one that was
left out. -/
lemma forall_of_optionalList {α : Type} {P : α → Prop} {read : Json → Checked α}
    (each : ∀ j a, read j = ok a → P a) {name : FieldName} {ms : Members} {as : List α}
    (h : name.optional (Read.list read) [] ms = ok as) : ∀ a ∈ as, P a := by
  rcases FieldName.optional_eq_ok h with ⟨j, hj⟩ | rfl
  · unfold Read.list at hj
    split at hj
    · have pairs := all_eq_ok.mp hj
      clear h hj
      induction pairs with
      | nil => exact nofun
      | cons here _ ih => exact List.forall_mem_cons.mpr ⟨each _ _ here, ih⟩
    · cases hj
  · exact nofun

lemma pos_of_canvas {name : FieldName} {ms : Members} {i : Int}
    (h : name.required (Read.positive ∘ Read.whole) ms = ok i) : 0 < i := by
  obtain ⟨_, hj⟩ := FieldName.required_eq_ok h
  exact Read.pos_of_positive hj

/-- **A decoded timeline is well-formed.** -/
theorem Timeline.wellFormed_of_payload {fresh : String} {payload : Json} {t : Timeline}
    (h : Timeline.ofPayload fresh payload = .ok t) : t.WellFormed := by
  have decoded : Timeline.decode fresh payload = ok t := by
    unfold Timeline.ofPayload at h
    cases hd : Timeline.decode fresh payload with
    | ok u => rw [hd] at h; cases h; rfl
    | bad ps => rw [hd] at h; cases h
    | broken e => rw [hd] at h; cases h
  obtain ⟨ms, -, hms⟩ := andThen_eq_ok.mp decoded
  simp only [seq_eq_ok, fmap_eq_ok] at hms
  obtain ⟨_, _, ⟨_, _, ⟨_, _, ⟨_, _, ⟨_, width, rfl⟩, height, rfl⟩, clips, rfl⟩, images, rfl⟩,
    texts, rfl⟩ := hms
  exact ⟨pos_of_canvas width, pos_of_canvas height,
    forall_of_optionalList (fun _ _ => Clip.wellFormed_of_decode) clips,
    forall_of_optionalList (fun _ _ => ImageOverlay.wellFormed_of_decode) images,
    forall_of_optionalList (fun _ _ => TextOverlay.wellFormed_of_decode) texts⟩

end Montage
