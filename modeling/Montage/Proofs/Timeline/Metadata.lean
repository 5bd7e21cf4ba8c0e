import Mathlib.Tactic.Common
import Montage.Proofs.Graph.Plan
import Montage.Proofs.Json.RoundTrip
import Montage.Proofs.Timeline.WellFormed
import Montage.Timeline.Metadata

/-!
# Metadata and back

A worker gets the metadata of a timeline and, apart from it, the places where the files were stored.

* `Timeline.integers` — the integers of a timeline; `Timeline.integers_toMetadata` — those that its
  metadata has, which can be written unless one of them is too long.
* `Timeline.movedTo` — **a timeline that reads other files**, everything else being the same.
* `Clip.WellFormed.decode_placed` and the like — one entity, written and read.
* **`Timeline.ofMetadata_toMetadata`** — what a worker reads from metadata is the timeline itself
  with the places of the files in it.
-/

namespace Montage

open Checked

/-! ## Integers in metadata -/

/-- The integers of a clip: its size, if it has one, and its place. -/
def Clip.integers (c : Clip) : List Int := c.width.toList ++ c.height.toList ++ [c.x, c.y]

/-- The integers of an image: its size and its place. -/
def ImageOverlay.integers (i : ImageOverlay) : List Int := [i.width, i.height, i.x, i.y]

/-- The integers of a caption: the size of its letters, its place and its size. -/
def TextOverlay.integers (t : TextOverlay) : List Int :=
  [t.fontSize, t.x, t.y, t.width, t.height]

/-- The integers of the entities of a timeline, in the order in which its metadata has them. -/
def Timeline.integers (t : Timeline) : List Int :=
  t.clips.flatMap Clip.integers ++ t.images.flatMap ImageOverlay.integers
    ++ t.texts.flatMap TextOverlay.integers

section Integers

open Json (itemIntegers memberIntegers)

/-- The integers of a list of entities, each with integers of its own. -/
lemma itemIntegers_map {α : Type} {write : α → Json} {own : α → List Int}
    (each : ∀ a, (write a).integers = own a) (as : List α) :
    itemIntegers (as.map write) = as.flatMap own := by
  induction as with
  | nil => rfl
  | cons a as ih => rw [List.map_cons, itemIntegers, each, ih, List.flatMap_cons]

lemma integers_optionalInt (o : Option Int) : (optionalInt o).integers = o.toList := by
  cases o <;> simp [optionalInt, Json.integers]

/-- The whole numbers in the metadata of a clip are its own. -/
lemma Clip.integers_toMetadata (c : Clip) : c.toMetadata.integers = c.integers := by
  simp [Clip.toMetadata, Clip.integers, entityMembers, Json.integers, memberIntegers,
    integers_optionalInt]

lemma ImageOverlay.integers_toMetadata (i : ImageOverlay) :
    i.toMetadata.integers = i.integers := by
  simp [ImageOverlay.toMetadata, ImageOverlay.integers, entityMembers, Json.integers, memberIntegers]

lemma TextOverlay.integers_toMetadata (t : TextOverlay) : t.toMetadata.integers = t.integers := by
  simp [TextOverlay.toMetadata, TextOverlay.integers, entityMembers, Json.integers, memberIntegers]

/-- The integers of the metadata are those of the entities. -/
lemma Timeline.integers_toMetadata (t : Timeline) : t.toMetadata.integers = t.integers := by
  have clips := itemIntegers_map Clip.integers_toMetadata t.clips
  have images := itemIntegers_map ImageOverlay.integers_toMetadata t.images
  have texts := itemIntegers_map TextOverlay.integers_toMetadata t.texts
  simp [Timeline.toMetadata, Timeline.integers, Json.integers, memberIntegers, clips, images, texts]

end Integers

/-! ## Values that were written -/

namespace Read

/-- A number that is not negative is read as a start. -/
lemma startSeconds_num {x : Binary64} (h : Binary64.le 0 x = true) :
    startSeconds (.num x) = ok x :=
  andThen_eq_ok.mpr ⟨x, rfl, if_pos h⟩

lemma size_int {i : Int} (h : 0 < i) : size (.int i) = ok i := by
  rw [size, positive]
  exact andThen_eq_ok.mpr ⟨i, rfl, if_pos h⟩

lemma canvas_int {i : Int} (h : 0 < i) : (positive ∘ whole) (.int i) = ok i := by
  rw [Function.comp, positive]
  exact andThen_eq_ok.mpr ⟨i, rfl, if_pos h⟩

/-- A size that may be missing is read back as it is. -/
lemma optionalSize_optionalInt {o : Option Int} (h : ∀ i ∈ o, 0 < i) :
    optionalSize (optionalInt o) = ok o := by
  cases o with
  | none => rfl
  | some i =>
      have pos : positive (pixel (.int i)) = ok i := size_int (h i rfl)
      simp only [optionalInt, optionalSize, pos, Checked.map]

/-- A reference is read back as it is. -/
lemma nonEmptyText_str {s : String} (h : IsReference s) : nonEmptyText (.str s) = ok s :=
  andThen_eq_ok.mpr ⟨s, rfl, looked_eq_ok.mpr ⟨h.unicode, if_neg h.nonempty⟩⟩

/-- A colour is read back as it is. -/
lemma color_str {c : Color} (h : c.WellFormed) : color (.str c.text) = ok c := by
  refine andThen_eq_ok.mpr ⟨c.text, rfl, looked_eq_ok.mpr ⟨h.hasHalf_text, ?_⟩⟩
  rw [h.ofText?_text]
  rfl

end Read

/-! ## Entities -/

/-- The members of a clip's metadata with the place of its file at their end. -/
def Clip.placed (c : Clip) (source : String) : Members :=
  [("id", .str c.id), ("startTime", .num c.window.start), ("endTime", .num c.window.finish),
   ("width", optionalInt c.width), ("height", optionalInt c.height), ("x", .int c.x),
   ("y", .int c.y), ("sourceRef", .str source)]

/-- The metadata of a clip take the place of its file in. -/
lemma Clip.withSource_toMetadata (c : Clip) (source : String) :
    Timeline.withSource c.toMetadata source = .ok (.obj (c.placed source)) := by
  simp [Timeline.withSource, Clip.toMetadata, entityMembers, Json.insert, Clip.placed, Field.id,
    Field.startTime, Field.endTime, Field.width, Field.height, Field.x, Field.y, Field.sourceRef,
    FieldName.single]

/-- A clip that was told and placed is read back, at its new place. -/
lemma Clip.WellFormed.decode_placed {c : Clip} (h : c.WellFormed) (fresh : String) {source : String}
    (hs : IsReference source) :
    Clip.decode fresh (.obj (c.placed source)) = ok { c with source } := by
  refine andThen_eq_ok.mpr ⟨c.placed source, rfl, andThen_eq_ok.mpr ⟨{ c with source }, ?_,
    Window.checked_eq_ok.mpr ⟨rfl, h.window.finish⟩⟩⟩
  have file : Field.sourceRef.required Read.nonEmptyText (c.placed source) = ok source :=
    FieldName.required_of_lookup rfl (Read.nonEmptyText_str hs)
  have width : Field.width.optional Read.optionalSize none (c.placed source) = ok c.width :=
    FieldName.optional_of_lookup rfl (Read.optionalSize_optionalInt h.width)
  have height : Field.height.optional Read.optionalSize none (c.placed source) = ok c.height :=
    FieldName.optional_of_lookup rfl (Read.optionalSize_optionalInt h.height)
  have x : Field.x.optional Read.pixel 0 (c.placed source) = ok c.x :=
    FieldName.optional_of_lookup rfl rfl
  have y : Field.y.optional Read.pixel 0 (c.placed source) = ok c.y :=
    FieldName.optional_of_lookup rfl rfl
  rw [file, width, height, x, y]
  exact decodeEntity_eq_ok.mpr ⟨c.id, c.window.start, c.window.finish,
    fun id window => ⟨id, window, source, c.width, c.height, c.x, c.y⟩,
    FieldName.optional_of_lookup rfl rfl,
    FieldName.required_of_lookup rfl (Read.startSeconds_num h.window.start),
    FieldName.required_of_lookup rfl rfl, rfl, rfl⟩

/-- The members of an image's metadata with the place of its file at their end. -/
def ImageOverlay.placed (i : ImageOverlay) (source : String) : Members :=
  [("id", .str i.id), ("startTime", .num i.window.start), ("endTime", .num i.window.finish),
   ("width", .int i.width), ("height", .int i.height), ("x", .int i.x), ("y", .int i.y),
   ("sourceRef", .str source)]

lemma ImageOverlay.withSource_toMetadata (i : ImageOverlay) (source : String) :
    Timeline.withSource i.toMetadata source = .ok (.obj (i.placed source)) := by
  simp [Timeline.withSource, ImageOverlay.toMetadata, entityMembers, Json.insert,
    ImageOverlay.placed, Field.id, Field.startTime, Field.endTime, Field.width, Field.height,
    Field.x, Field.y, Field.sourceRef, FieldName.single]

/-- So is an image. -/
lemma ImageOverlay.WellFormed.decode_placed {i : ImageOverlay} (h : i.WellFormed) (fresh : String)
    {source : String} (hs : IsReference source) :
    ImageOverlay.decode fresh (.obj (i.placed source)) = ok { i with source } := by
  refine andThen_eq_ok.mpr ⟨i.placed source, rfl, andThen_eq_ok.mpr ⟨{ i with source }, ?_,
    Window.checked_eq_ok.mpr ⟨rfl, h.window.finish⟩⟩⟩
  have file : Field.sourceRef.required Read.nonEmptyText (i.placed source) = ok source :=
    FieldName.required_of_lookup rfl (Read.nonEmptyText_str hs)
  have width : Field.width.required Read.size (i.placed source) = ok i.width :=
    FieldName.required_of_lookup rfl (Read.size_int h.width)
  have height : Field.height.required Read.size (i.placed source) = ok i.height :=
    FieldName.required_of_lookup rfl (Read.size_int h.height)
  have x : Field.x.required Read.pixel (i.placed source) = ok i.x :=
    FieldName.required_of_lookup rfl rfl
  have y : Field.y.required Read.pixel (i.placed source) = ok i.y :=
    FieldName.required_of_lookup rfl rfl
  rw [file, width, height, x, y]
  exact decodeEntity_eq_ok.mpr ⟨i.id, i.window.start, i.window.finish,
    fun id window => ⟨id, window, source, i.width, i.height, i.x, i.y⟩,
    FieldName.optional_of_lookup rfl rfl,
    FieldName.required_of_lookup rfl (Read.startSeconds_num h.window.start),
    FieldName.required_of_lookup rfl rfl, rfl, rfl⟩

/-- So is a caption, which has no place. -/
lemma TextOverlay.WellFormed.decode_toMetadata {t : TextOverlay} (h : t.WellFormed)
    (fresh : String) : TextOverlay.decode fresh t.toMetadata = ok t := by
  let ms : Members :=
    [("id", .str t.id), ("startTime", .num t.window.start), ("endTime", .num t.window.finish),
     ("description", .str t.description), ("fontSize", .int t.fontSize),
     ("color", .str t.color.text), ("x", .int t.x), ("y", .int t.y), ("width", .int t.width),
     ("height", .int t.height)]
  refine andThen_eq_ok.mpr ⟨ms, rfl, andThen_eq_ok.mpr ⟨t, ?_,
    Window.checked_eq_ok.mpr ⟨rfl, h.window.finish⟩⟩⟩
  have description : Field.description.required Read.text ms = ok t.description :=
    FieldName.required_of_lookup rfl rfl
  have fontSize : Field.fontSize.optional Read.size defaultFontSize ms = ok t.fontSize :=
    FieldName.optional_of_lookup rfl (Read.size_int h.fontSize)
  have color : Field.color.optional Read.color Color.white ms = ok t.color :=
    FieldName.optional_of_lookup rfl (Read.color_str h.color)
  have x : Field.x.required Read.pixel ms = ok t.x := FieldName.required_of_lookup rfl rfl
  have y : Field.y.required Read.pixel ms = ok t.y := FieldName.required_of_lookup rfl rfl
  have width : Field.width.optional Read.size defaultWidth ms = ok t.width :=
    FieldName.optional_of_lookup rfl (Read.size_int h.width)
  have height : Field.height.optional Read.size defaultHeight ms = ok t.height :=
    FieldName.optional_of_lookup rfl (Read.size_int h.height)
  rw [description, fontSize, color, x, y, width, height]
  exact decodeEntity_eq_ok.mpr ⟨t.id, t.window.start, t.window.finish,
    fun id window => ⟨id, window, t.description, t.fontSize, t.color, t.x, t.y, t.width, t.height⟩,
    FieldName.optional_of_lookup rfl rfl,
    FieldName.required_of_lookup rfl (Read.startSeconds_num h.window.start),
    FieldName.required_of_lookup rfl rfl, rfl, rfl⟩

/-! ## Lists of entities and files -/

namespace Timeline

/-- The same timeline with its files in other places. -/
def movedTo (t : Timeline) (clipSources imageSources : List String) : Timeline :=
  { t with
    clips := t.clips.zipWith (fun c source => { c with source }) clipSources
    images := t.images.zipWith (fun i source => { i with source }) imageSources }

lemma forall₂_zipWith {α β γ δ : Type} {R : γ → δ → Prop} {f : α → β → γ} {g : α → β → δ}
    {as : List α} {bs : List β} (h : ∀ a ∈ as, ∀ b ∈ bs, R (f a b) (g a b)) :
    List.Forall₂ R (as.zipWith f bs) (as.zipWith g bs) := by
  induction as generalizing bs with
  | nil => exact .nil
  | cons a as ih =>
      cases bs with
      | nil => exact .nil
      | cons b bs =>
          have rest := ih fun a ha b hb => h a (List.mem_cons_of_mem _ ha) b
            (List.mem_cons_of_mem _ hb)
          exact .cons (h a List.mem_cons_self b List.mem_cons_self) rest

/-- Metadata and places are put together one by one. -/
lemma withSources_map {α : Type} {write : α → Json} {placed : α → String → Members}
    (each : ∀ a source, withSource (write a) source = .ok (.obj (placed a source))) (as : List α)
    (sources : List String) :
    withSources (as.map write) sources
      = .ok (as.zipWith (fun a source => .obj (placed a source)) sources) := by
  induction as generalizing sources with
  | nil => rfl
  | cons a as ih =>
      cases sources with
      | nil => rfl
      | cons source sources =>
          rw [List.map_cons, withSources, each, ih]
          rfl

/-- The members of the payload that the metadata of a timeline and the places of its files stand
for. -/
def placedMembers (t : Timeline) (clipSources imageSources : List String) : Members :=
  [("canvasWidth", .int t.canvasWidth), ("canvasHeight", .int t.canvasHeight),
   ("clips", .arr (t.clips.zipWith (fun c source => .obj (c.placed source)) clipSources)),
   ("images", .arr (t.images.zipWith (fun i source => .obj (i.placed source)) imageSources)),
   ("texts", .arr (t.texts.map TextOverlay.toMetadata))]

/-- The metadata of a timeline are put together with as many places as there are files. -/
lemma payloadOfMetadata_toMetadata {t : Timeline} {clipSources imageSources : List String}
    (clips : clipSources.length = t.clips.length)
    (images : imageSources.length = t.images.length) :
    payloadOfMetadata t.toMetadata (.int t.canvasWidth) (.int t.canvasHeight) clipSources
      imageSources = .ok (.obj (placedMembers t clipSources imageSources)) := by
  have noClips : ¬ (t.clips.map Clip.toMetadata).length ≠ clipSources.length := by
    rw [List.length_map, clips]
    exact fun h => h rfl
  have noImages : ¬ (t.images.map ImageOverlay.toMetadata).length ≠ imageSources.length := by
    rw [List.length_map, images]
    exact fun h => h rfl
  refine bind_eq_ok.mpr ⟨_, rfl, bind_eq_ok.mpr ⟨t.clips.map Clip.toMetadata, rfl,
    bind_eq_ok.mpr ⟨t.images.map ImageOverlay.toMetadata, rfl,
      bind_eq_ok.mpr ⟨t.texts.map TextOverlay.toMetadata, rfl, ?_⟩⟩⟩⟩
  rw [if_neg noClips, if_neg noImages, withSources_map Clip.withSource_toMetadata,
    withSources_map ImageOverlay.withSource_toMetadata]
  rfl

/-- A list under one of the keys of a payload. -/
lemma list_zipWith {α β : Type} {read : Json → Checked α} {write : α → β → Json} {move : α → β → α}
    {as : List α} {bs : List β}
    (each : ∀ a ∈ as, ∀ b ∈ bs, read (write a b) = ok (move a b)) :
    Read.list read (.arr (as.zipWith write bs)) = ok (as.zipWith move bs) :=
  all_eq_ok.mpr (forall₂_zipWith each)

lemma list_toMetadata {texts : List TextOverlay} (h : ∀ x ∈ texts, x.WellFormed) (fresh : String) :
    Read.list (TextOverlay.decode fresh) (.arr (texts.map TextOverlay.toMetadata)) = ok texts :=
  all_eq_ok.mpr (List.forall₂_map_left_iff.mpr
    (List.forall₂_same.mpr fun x hx => (h x hx).decode_toMetadata fresh))

/-- **Entities that were written are read as they were**, with their files in other places. -/
lemma ofPayload_placedMembers {t : Timeline} (h : t.WellFormed) (fresh : String)
    {clipSources imageSources : List String}
    (references : ∀ source ∈ clipSources ++ imageSources, IsReference source) :
    ofPayload fresh (.obj (placedMembers t clipSources imageSources))
      = .ok (t.movedTo clipSources imageSources) := by
  have first : ∀ source ∈ clipSources, IsReference source := fun source hs =>
    references source (List.mem_append_left _ hs)
  have second : ∀ source ∈ imageSources, IsReference source := fun source hs =>
    references source (List.mem_append_right _ hs)
  have decoded : decode fresh (.obj (placedMembers t clipSources imageSources))
      = ok (t.movedTo clipSources imageSources) := by
    refine andThen_eq_ok.mpr ⟨_, rfl, ?_⟩
    have width : Field.canvasWidth.required (Read.positive ∘ Read.whole)
        (placedMembers t clipSources imageSources) = ok t.canvasWidth :=
      FieldName.required_of_lookup rfl (Read.canvas_int h.canvasWidth)
    have height : Field.canvasHeight.required (Read.positive ∘ Read.whole)
        (placedMembers t clipSources imageSources) = ok t.canvasHeight :=
      FieldName.required_of_lookup rfl (Read.canvas_int h.canvasHeight)
    have clips : Field.clips.optional (Read.list (Clip.decode fresh)) []
        (placedMembers t clipSources imageSources)
        = ok (t.clips.zipWith (fun c source => { c with source }) clipSources) :=
      FieldName.optional_of_lookup rfl
        (list_zipWith fun c hc s hs => (h.clips c hc).decode_placed fresh (first s hs))
    have images : Field.images.optional (Read.list (ImageOverlay.decode fresh)) []
        (placedMembers t clipSources imageSources)
        = ok (t.images.zipWith (fun i source => { i with source }) imageSources) :=
      FieldName.optional_of_lookup rfl
        (list_zipWith fun i hi s hs => (h.images i hi).decode_placed fresh (second s hs))
    have texts : Field.texts.optional (Read.list (TextOverlay.decode fresh)) []
        (placedMembers t clipSources imageSources) = ok t.texts :=
      FieldName.optional_of_lookup rfl (list_toMetadata h.texts fresh)
    rw [width, height, clips, images, texts]
    rfl
  rw [ofPayload, decoded]
  rfl

/-- A timeline as it comes out of reading is read back from its metadata, at new places. -/
lemma ofMetadata_of_wellFormed {t : Timeline} (h : t.WellFormed) (fresh : String)
    {clipSources imageSources : List String} (clips : clipSources.length = t.clips.length)
    (images : imageSources.length = t.images.length)
    (references : ∀ source ∈ clipSources ++ imageSources, IsReference source) :
    ofMetadata fresh t.toMetadata (.int t.canvasWidth) (.int t.canvasHeight) clipSources
      imageSources = .ok (t.movedTo clipSources imageSources) :=
  bind_eq_ok.mpr ⟨_, payloadOfMetadata_toMetadata clips images,
    ofPayload_placedMembers h fresh references⟩

/-- A timeline that reads its own files. -/
lemma movedTo_self (t : Timeline) :
    t.movedTo (t.clips.map Clip.source) (t.images.map ImageOverlay.source) = t := by
  simp [movedTo, List.zipWith_map_right]

/-- All files of such a timeline have references. -/
lemma WellFormed.isReference {t : Timeline} (h : t.WellFormed) :
    ∀ source ∈ t.clips.map Clip.source ++ t.images.map ImageOverlay.source,
      IsReference source := by
  intro source hs
  rcases List.mem_append.mp hs with hs | hs
  · obtain ⟨c, hc, rfl⟩ := List.mem_map.mp hs
    exact (h.clips c hc).source
  · obtain ⟨i, hi, rfl⟩ := List.mem_map.mp hs
    exact (h.images i hi).source

/-- A payload with what a timeline holds. -/
def payload (t : Timeline) : Json :=
  .obj (placedMembers t (t.clips.map Clip.source) (t.images.map ImageOverlay.source))

/-! ## Files play no part in graphs -/

lemma mapM_zipIdx_congr {ε α β : Type} {f : α → Nat → Except ε β} {as bs : List α}
    (same : List.Forall₂ (fun a b => ∀ index, f a index = f b index) as bs) (index : Nat) :
    (as.zipIdx index).mapM (fun a => f a.1 a.2) = (bs.zipIdx index).mapM fun b => f b.1 b.2 := by
  induction same generalizing index with
  | nil => rfl
  | cons here _ ih => simp only [List.zipIdx_cons, List.mapM_cons, here index, ih (index + 1)]

/-- Timelines with the same layers have the same plan. -/
lemma plan_congr {t u : Timeline} (width : t.canvasWidth = u.canvasWidth)
    (height : t.canvasHeight = u.canvasHeight)
    (clips : List.Forall₂ (fun c d => ∀ index, Clip.overlay c index = d.overlay index)
      t.clips u.clips)
    (images : List.Forall₂
      (fun i j => ∀ offset index, ImageOverlay.overlay offset i index = j.overlay offset index)
      t.images u.images)
    (texts : t.texts = u.texts) : t.plan = u.plan := by
  obtain ⟨_, _, tclips, timages, _⟩ := t
  obtain ⟨_, _, uclips, uimages, _⟩ := u
  simp only at width height clips images texts
  subst width height texts
  cases clips with
  | nil => rfl
  | cons here rest =>
      have offset := rest.length_eq
      have later := fun offset => mapM_zipIdx_congr (f := ImageOverlay.overlay offset)
        (images.imp fun i j same => same offset) 0
      simp only [plan, List.length_cons, offset, mapM_zipIdx_congr rest 1, later]

/-- Putting sources in place of others changes nothing else. -/
lemma forall₂_zipWith_move {α : Type} {R : α → α → Prop} (move : α → String → α)
    (each : ∀ a source, R (move a source) a) {as : List α} {sources : List String}
    (length : sources.length = as.length) : List.Forall₂ R (as.zipWith move sources) as := by
  induction as generalizing sources with
  | nil => exact .nil
  | cons a as ih =>
      obtain ⟨source, sources, rfl⟩ := List.exists_cons_of_length_eq_add_one length
      exact .cons (each a source) (ih (Nat.succ.inj length))

/-- Which files a timeline reads plays no part in its graph. -/
lemma compile_movedTo {t : Timeline} {clipSources imageSources : List String}
    (clips : clipSources.length = t.clips.length)
    (images : imageSources.length = t.images.length) :
    (t.movedTo clipSources imageSources).compile = t.compile := by
  have plan : (t.movedTo clipSources imageSources).plan = t.plan :=
    plan_congr rfl rfl
      (forall₂_zipWith_move (fun c source => { c with source }) (fun _ _ _ => rfl) clips)
      (forall₂_zipWith_move (fun i source => { i with source }) (fun _ _ _ _ => rfl) images) rfl
  rw [compile, compile, nodes_eq_plan, nodes_eq_plan, plan]

/-- Sizes play the only part in what is asked of overlay clips. -/
lemma validateOverlays_congr {cs ds : List Clip}
    (same : List.Forall₂ (fun c d => hasSize c = hasSize d ∧ c.id = d.id) cs ds) (index : Nat) :
    validateOverlays index cs = validateOverlays index ds := by
  induction same generalizing index with
  | nil => rfl
  | cons here _ ih => rw [validateOverlays, validateOverlays, here.1, here.2, ih (index + 1)]

/-- Whether a timeline can be exported does not depend on where its files are. -/
lemma validate_movedTo {t : Timeline} {clipSources : List String} (imageSources : List String)
    (clips : clipSources.length = t.clips.length) :
    (t.movedTo clipSources imageSources).validate = t.validate := by
  have same : List.Forall₂ (fun c d => hasSize c = hasSize d ∧ c.id = d.id)
      (t.movedTo clipSources imageSources).clips t.clips :=
    forall₂_zipWith_move (fun c source => { c with source }) (fun _ _ => ⟨rfl, rfl⟩) clips
  unfold validate
  generalize (t.movedTo clipSources imageSources).clips = moved, t.clips = own at same
  cases same with
  | nil => rfl
  | cons _ rest => exact validateOverlays_congr rest 1

/-! ## The round trip -/

/-- **Metadata round trip**: every timeline that a payload decodes to is read from its metadata and
the places of its files, with these places in it and nothing else changed.  So it has the same graph
or fails for the same reason, and with its own places it is the same timeline. -/
theorem ofMetadata_toMetadata {fresh : String} {payload : Json} {t : Timeline}
    (h : ofPayload fresh payload = .ok t) (fresh' : String)
    {clipSources imageSources : List String} (clips : clipSources.length = t.clips.length)
    (images : imageSources.length = t.images.length)
    (references : ∀ source ∈ clipSources ++ imageSources, IsReference source) :
    ofMetadata fresh' t.toMetadata (.int t.canvasWidth) (.int t.canvasHeight) clipSources
        imageSources = .ok (t.movedTo clipSources imageSources)
      ∧ (t.movedTo clipSources imageSources).compile = t.compile
      ∧ ofMetadata fresh' t.toMetadata (.int t.canvasWidth) (.int t.canvasHeight)
          (t.clips.map Clip.source) (t.images.map ImageOverlay.source) = .ok t := by
  have wellFormed := wellFormed_of_payload h
  have own := ofMetadata_of_wellFormed wellFormed fresh' (List.length_map _) (List.length_map _)
    wellFormed.isReference
  rw [movedTo_self] at own
  exact ⟨ofMetadata_of_wellFormed wellFormed fresh' clips images references,
    compile_movedTo clips images, own⟩

/-- A timeline with clips, an image and captions, moved to other places and back. -/
theorem ofMetadata_toMetadata_sample :
    ofPayload "" sample.payload = .ok sample
      ∧ ofMetadata "" sample.toMetadata (.int 640) (.int 360) ["u", "v"] ["w"]
        = .ok (sample.movedTo ["u", "v"] ["w"])
      ∧ (sample.movedTo ["u", "v"] ["w"]).compile = sample.compile
      ∧ ofMetadata "" sample.toMetadata (.int 640) (.int 360) ["a.mp4", "b.mp4"] ["c.png"]
        = .ok sample := by
  have payload : ofPayload "" sample.payload = .ok sample := by decide +kernel
  have references : ∀ source ∈ ["u", "v"] ++ ["w"], IsReference source := by
    intro source hs
    have each : ∀ source ∈ ["u", "v"] ++ ["w"], source ≠ "" ∧ Text.hasHalf source = false := by
      decide
    exact ⟨(each source hs).1, (each source hs).2⟩
  exact ⟨payload, ofMetadata_toMetadata payload "" rfl rfl references⟩

/-- A reference with half of a surrogate pair is not empty, and still refused: the text of a
reference is looked into for its length. -/
theorem ofMetadata_half_refused :
    ofPayload "" sample.payload = .ok sample
      ∧ (∀ source ∈ [String.ofList (Text.spelled [0xD800]), "v", "w"], source ≠ "")
      ∧ ofMetadata "" sample.toMetadata (.int 640) (.int 360)
          [String.ofList (Text.spelled [0xD800]), "v"] ["w"]
        = .error (malformed [⟨[.key "clips", .index 0, .key "sourceRef"], .notUnicode⟩]) := by
  refine ⟨by decide +kernel, by decide +kernel, by decide +kernel⟩

end Timeline

end Montage
