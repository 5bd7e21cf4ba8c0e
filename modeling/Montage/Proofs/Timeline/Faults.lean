import Mathlib.Tactic.Common
import Montage.Proofs.Field.Faults
import Montage.Proofs.Steps
import Montage.Timeline.Metadata

/-!
# The ways in which decoding ends

A payload becomes a timeline or is refused with all that is wrong with it; so is metadata.  There
are two exceptions, and a payload meets the first alone: **an infinite pixel**, which cannot be
rounded, and **an entity of the metadata that is no object**, into which no place of a file can be
put.

* `Timeline.hasInfinite` — a payload with an infinite pixel; `Timeline.metadataFault?` — what breaks
  the reading of metadata.
* `Timeline.EndsWith` — a timeline, a refusal or a fault.
* **`Timeline.decoding_ends`** — every object ends in one of these ways, and with a fault exactly
  when it has one.
* `Timeline.decoding_breaks` — both exceptions do occur.
-/

namespace Montage

open Checked

/-! ## Infinities -/

/-- One infinite number among two parts is one among both. -/
@[simp] lemma infinityIf_or (a b : Bool) :
    (infinityIf a).or (infinityIf b) = infinityIf (a || b) := by
  cases a <;> rfl

@[simp] lemma bind_infinityIf {α : Type} (o : Option α) (p : α → Bool) :
    (o.bind fun a => infinityIf (p a)) = infinityIf (o.any p) := by
  cases o <;> rfl

@[simp] lemma findSome?_infinityIf {α : Type} (as : List α) (p : α → Bool) :
    (as.findSome? fun a => infinityIf (p a)) = infinityIf (as.any p) := by
  induction as with
  | nil => rfl
  | cons a rest ih =>
      rw [List.findSome?_cons, ih, List.any_cons]
      cases p a <;> rfl

/-- Whether a field was found with an infinity in it. -/
def FieldName.isInfinite (name : FieldName) (ms : Members) : Bool :=
  (name.find? ms).any fun found => found.2.isInfinite

/-- Whether a value is an object with an infinity in one of the fields. -/
def Json.hasInfinite (fields : List FieldName) : Json → Bool
  | .obj ms => fields.any fun name => name.isInfinite ms
  | _ => false

namespace Field

/-- The pixels of a clip or an image. -/
def box : List FieldName := [width, height, x, y]

/-- The pixels of a text. -/
def lettering : List FieldName := [fontSize, x, y, width, height]

/-- The items of a field that is a list. -/
def items (name : FieldName) (ms : Members) : List Json :=
  match name.find? ms with
  | some (_, .arr items) => items
  | _ => []

end Field

/-! ## Fields that are no pixels -/

namespace Read

/-- To read a text never breaks, whatever stands there. -/
@[simp] lemma fault?_text (j : Json) : (text j).fault? = none := by
  cases j <;> rfl

@[simp] lemma fault?_nonEmptyText (j : Json) : (nonEmptyText j).fault? = none := by
  have nonEmpty : ∀ s : String, (if s = "" then error .emptyText else ok s).fault? = none :=
    fun s => by split <;> rfl
  rw [nonEmptyText, fault?_andThen (fault?_looked nonEmpty), fault?_text]

@[simp] lemma fault?_color (j : Json) : (color j).fault? = none := by
  have colored : ∀ s, ((Color.ofText? s).elim (error .badColor) ok).fault? = none :=
    fun s => by cases Color.ofText? s <;> rfl
  rw [color, fault?_andThen (fault?_looked colored), fault?_text]

@[simp] lemma fault?_seconds (j : Json) : (seconds j).fault? = none := by
  have number : ∀ s, ((numberOfText? s).elim (error .badNumber) ok).fault? = none :=
    fun s => by cases numberOfText? s <;> rfl
  fun_cases seconds j with
  | case5 s => exact fault?_looked number s
  | _ => rfl

@[simp] lemma fault?_startSeconds (j : Json) : (startSeconds j).fault? = none := by
  rw [startSeconds, fault?_andThen (fun x => by split <;> rfl), fault?_seconds]

/-- To read a whole number never breaks: a number that is none is refused. -/
@[simp] lemma fault?_whole (j : Json) : (whole j).fault? = none := by
  fun_cases whole j with
  | case7 s => exact fault?_wholeOfText s
  | _ => rfl

lemma fault?_canvas (j : Json) : (positive (whole j)).fault? = none := by
  rw [fault?_positive, fault?_whole]

/-- To read a size breaks on infinite numbers, since it rounds before it asks whether they are
positive. -/
lemma fault?_size (j : Json) : (size j).fault? = infinityIf j.isInfinite := by
  rw [size, fault?_positive, fault?_pixel]

/-- A list breaks at the first item that does. -/
lemma fault?_list {α : Type} {read : Json → Checked α} {p : Json → Bool}
    (each : ∀ j, (read j).fault? = infinityIf (p j)) (name : FieldName) (ms : Members) :
    (name.optional (list read) [] ms).fault? = infinityIf ((Field.items name ms).any p) := by
  rw [FieldName.fault?_optional, Field.items]
  cases name.find? ms with
  | none => rfl
  | some found =>
      obtain ⟨key, j⟩ := found
      cases j with
      | arr items => simp [list, each]
      | null => rfl
      | bool b => rfl
      | int i => rfl
      | num x => rfl
      | str s => rfl
      | obj members => rfl

end Read

/-! ## Entities -/

/-- The check of a window refuses, and never breaks. -/
lemma fault?_windowChecked {α : Type} (window : α → Window) (x : Checked α) :
    (x.andThen (Window.checked window)).fault? = x.fault? :=
  fault?_andThen (fun a => by unfold Window.checked; dsimp only; split <;> rfl) x

/-- What every entity starts with does not break. -/
lemma fault?_decodeEntity {α : Type} (fresh : String) (ms : Members)
    (rest : Checked (String → Window → α)) :
    (decodeEntity fresh ms rest).fault? = rest.fault? := by
  simp [decodeEntity]

/-- A value that is no object is refused. -/
lemma fault?_asObject {α : Type} {read : Members → Checked α} {fields : List FieldName}
    (model : String)
    (each : ∀ ms, (read ms).fault? = infinityIf (fields.any fun name => name.isInfinite ms))
    (j : Json) :
    ((j.asObject model).andThen read).fault? = infinityIf (j.hasInfinite fields) := by
  cases j with
  | obj ms => exact each ms
  | null => rfl
  | bool b => rfl
  | int i => rfl
  | num x => rfl
  | str s => rfl
  | arr items => rfl

/-- To read a clip breaks exactly when there is an infinite number among its place and its size. -/
lemma Clip.fault?_decode (fresh : String) (j : Json) :
    (Clip.decode fresh j).fault? = infinityIf (j.hasInfinite Field.box) := by
  refine fault?_asObject "Clip" (fun ms => ?_) j
  simp [fault?_windowChecked, fault?_decodeEntity, Read.fault?_pixel, Read.fault?_optionalSize,
    Field.box, FieldName.isInfinite, Bool.or_assoc]

/-- So does an image. -/
lemma ImageOverlay.fault?_decode (fresh : String) (j : Json) :
    (ImageOverlay.decode fresh j).fault? = infinityIf (j.hasInfinite Field.box) := by
  refine fault?_asObject "ImageOverlay" (fun ms => ?_) j
  simp [fault?_windowChecked, fault?_decodeEntity, Read.fault?_pixel, Read.fault?_size,
    Field.box, FieldName.isInfinite, Bool.or_assoc]

/-- So does a caption, the size of its letters included. -/
lemma TextOverlay.fault?_decode (fresh : String) (j : Json) :
    (TextOverlay.decode fresh j).fault? = infinityIf (j.hasInfinite Field.lettering) := by
  refine fault?_asObject "TextOverlay" (fun ms => ?_) j
  simp [fault?_windowChecked, fault?_decodeEntity, Read.fault?_pixel, Read.fault?_size,
    Field.lettering, FieldName.isInfinite, Bool.or_assoc]

/-! ## Payloads -/

namespace Timeline

/-- Whether one of the entities has an infinite pixel. -/
def infiniteAmong (clips images texts : List Json) : Bool :=
  clips.any (Json.hasInfinite Field.box) || images.any (Json.hasInfinite Field.box)
    || texts.any (Json.hasInfinite Field.lettering)

/-- Whether a payload has an infinite pixel. -/
def hasInfinite (ms : Members) : Bool :=
  infiniteAmong (Field.items Field.clips ms) (Field.items Field.images ms)
    (Field.items Field.texts ms)

/-- To read a timeline breaks exactly when one of its parts does. -/
lemma fault?_decode (fresh : String) (ms : Members) :
    (decode fresh (.obj ms)).fault? = infinityIf (hasInfinite ms) := by
  change (Checked.fault? (Timeline.mk
      <$> Field.canvasWidth.required (Read.positive ∘ Read.whole) ms
      <*> Field.canvasHeight.required (Read.positive ∘ Read.whole) ms
      <*> Field.clips.optional (Read.list (Clip.decode fresh)) [] ms
      <*> Field.images.optional (Read.list (ImageOverlay.decode fresh)) [] ms
      <*> Field.texts.optional (Read.list (TextOverlay.decode fresh)) [] ms)) = _
  rw [fault?_seq, fault?_seq, fault?_seq, fault?_seq, fault?_fmap,
    Read.fault?_list (Clip.fault?_decode fresh), Read.fault?_list (ImageOverlay.fault?_decode fresh),
    Read.fault?_list (TextOverlay.fault?_decode fresh)]
  simp [Read.fault?_canvas, hasInfinite, infiniteAmong]

/-- How reading ends: with the fault, if there is one, and else with a timeline or a refusal. -/
inductive EndsWith : Option Fault → Except Failure Timeline → Prop
  | timeline (t : Timeline) : EndsWith none (.ok t)
  | refused (p : TimelineProblem) : EndsWith none (.error (.expected (.validation p)))
  | broken (f : Fault) : EndsWith (some f) (.error (.unexpected f))

lemma endsWith_toExcept (x : Checked Timeline) : EndsWith x.fault? x.toExcept := by
  cases x with
  | ok t => exact .timeline t
  | bad ps => exact .refused (.malformed ps)
  | broken f => exact .broken f

/-- A payload is read to the end, or breaks as `hasInfinite` says. -/
lemma endsWith_ofPayload (fresh : String) (ms : Members) :
    EndsWith (infinityIf (hasInfinite ms)) (ofPayload fresh (.obj ms)) := by
  rw [← fault?_decode fresh ms]
  exact endsWith_toExcept _

/-! ## Metadata -/

/-- The fault of an entity that takes no place of a file. -/
def stray? : Json → Option Fault
  | .obj _ => none
  | other => some (.notAMapping (kindWord other))

/-- What breaks the reading of metadata: once the lists fit the stored files, the first entity that
is no object, and else an infinite pixel. -/
def metadataFault? (members : Members) (clipSources imageSources : List String) : Option Fault :=
  match metadataList members videosKey, metadataList members imagesKey,
    metadataList members textsKey with
  | .ok videos, .ok images, .ok texts =>
    if videos.length = clipSources.length ∧ images.length = imageSources.length then
      ((videos ++ images).findSome? stray?).or (infinityIf (infiniteAmong videos images texts))
    else none
  | _, _, _ => none

/-- To insert a member changes no other. -/
lemma lookup_insert_of_ne {key other : String} (ne : other ≠ key) (value : Json) (ms : Members) :
    Json.lookup key (Json.insert other value ms) = Json.lookup key ms := by
  induction ms with
  | nil => simp [Json.insert, Json.lookup, ne]
  | cons m rest ih =>
      obtain ⟨k, v⟩ := m
      rw [Json.insert]
      split
      · rename_i same
        subst same
        simp [Json.lookup, ne]
      · simp [Json.lookup, ih]

/-- The place of a file is none of the fields that are rounded. -/
lemma isInfinite_insert {name : FieldName} (main : Field.sourceRef.main ≠ name.main)
    (other : Field.sourceRef.main ≠ name.other) (value : Json) (ms : Members) :
    name.isInfinite (Json.insert Field.sourceRef.main value ms) = name.isInfinite ms := by
  simp only [FieldName.isInfinite, FieldName.find?, lookup_insert_of_ne main,
    lookup_insert_of_ne other]

/-- To insert where a file is to be found adds no infinite number. -/
lemma hasInfinite_insert (value : Json) (ms : Members) :
    (Json.obj (Json.insert Field.sourceRef.main value ms)).hasInfinite Field.box
      = (Json.obj ms).hasInfinite Field.box := by
  have each : ∀ name ∈ Field.box, name.isInfinite (Json.insert Field.sourceRef.main value ms)
      = name.isInfinite ms := by
    intro name member
    have apart : ∀ name ∈ Field.box, Field.sourceRef.main ≠ name.main
        ∧ Field.sourceRef.main ≠ name.other := by decide
    exact isInfinite_insert (apart name member).1 (apart name member).2 value ms
  rw [Bool.eq_iff_iff]
  simp only [Json.hasInfinite, List.any_eq_true]
  exact exists_congr fun name => and_congr_right fun member => by rw [each name member]

/-- A file is put into an entity, or the entity is no object. -/
lemma withSource_cases (entity : Json) (source : String) :
    (∃ placed, withSource entity source = .ok placed ∧ stray? entity = none
        ∧ placed.hasInfinite Field.box = entity.hasInfinite Field.box)
      ∨ ∃ f, withSource entity source = .error (.unexpected f) ∧ stray? entity = some f := by
  cases entity with
  | obj ms => exact .inl ⟨_, rfl, rfl, hasInfinite_insert _ _⟩
  | _ => exact .inr ⟨_, rfl, rfl⟩

/-- Files are put into all entities, or the first that is no object breaks it. -/
lemma withSources_cases {entities : List Json} {sources : List String}
    (fit : entities.length = sources.length) :
    (∃ placed, withSources entities sources = .ok placed ∧ entities.findSome? stray? = none
        ∧ placed.any (Json.hasInfinite Field.box) = entities.any (Json.hasInfinite Field.box))
      ∨ ∃ f, withSources entities sources = .error (.unexpected f)
        ∧ entities.findSome? stray? = some f := by
  induction entities generalizing sources with
  | nil => exact .inl ⟨[], by cases sources <;> rfl, rfl, rfl⟩
  | cons entity entities ih =>
      cases sources with
      | nil => cases fit
      | cons source sources =>
          rw [withSources, List.findSome?_cons]
          rcases withSource_cases entity source with ⟨first, eq, straight, same⟩ | ⟨f, eq, stray⟩
          · rw [eq, straight]
            rcases ih (Nat.succ.inj fit) with ⟨rest, eq, straight, others⟩ | ⟨f, eq, stray⟩
            · rw [eq]
              exact .inl ⟨first :: rest, rfl, straight, by rw [List.any_cons, same, others]; rfl⟩
            · rw [eq]
              exact .inr ⟨f, rfl, stray⟩
          · rw [eq, stray]
            exact .inr ⟨f, rfl, rfl⟩

/-- A list in the metadata is there, or the metadata are refused. -/
lemma metadataList_cases (members : Members) (key : String) :
    (∃ items, metadataList members key = .ok items)
      ∨ ∃ p, metadataList members key = .error (.expected (.validation p)) := by
  unfold metadataList
  split
  · exact .inl ⟨_, rfl⟩
  · exact .inl ⟨_, rfl⟩
  · exact .inl ⟨_, rfl⟩
  · exact .inr ⟨_, rfl⟩

/-- The payload of lists that fit the stored files. -/
def assembled (width height : Json) (clips images texts : List Json) : Members :=
  [(Field.canvasWidth.main, width), (Field.canvasHeight.main, height),
    (Field.clips.main, .arr clips), (Field.images.main, .arr images),
    (Field.texts.main, .arr texts)]

/-- The infinite numbers of a timeline that is put together are those of its parts. -/
lemma hasInfinite_assembled (width height : Json) (clips images texts : List Json) :
    hasInfinite (assembled width height clips images texts) = infiniteAmong clips images texts := by
  rfl

/-- Metadata has its three lists, or it is refused for one that is none. -/
lemma listed_or_refused (fresh : String) (members : Members) (width height : Json)
    (clipSources imageSources : List String) :
    (∃ videos images texts, metadataList members videosKey = .ok videos
        ∧ metadataList members imagesKey = .ok images
        ∧ metadataList members textsKey = .ok texts)
      ∨ EndsWith (metadataFault? members clipSources imageSources)
          (ofMetadata fresh (.obj members) width height clipSources imageSources) := by
  rcases metadataList_cases members videosKey with ⟨videos, listed⟩ | ⟨p, none⟩
  · rcases metadataList_cases members imagesKey with ⟨images, others⟩ | ⟨p, none⟩
    · rcases metadataList_cases members textsKey with ⟨texts, lettered⟩ | ⟨p, none⟩
      · exact .inl ⟨videos, images, texts, listed, others, lettered⟩
      · right
        simp only [ofMetadata, payloadOfMetadata, bind, Except.bind, metadataFault?, listed, others,
          none]
        exact .refused p
    · right
      simp only [ofMetadata, payloadOfMetadata, bind, Except.bind, metadataFault?, listed, none]
      exact .refused p
  · right
    simp only [ofMetadata, payloadOfMetadata, bind, Except.bind, metadataFault?, none]
    exact .refused p

/-- Metadata with its lists: the counts are compared, then the files are put in. -/
lemma ofMetadata_of_listed {fresh : String} {members : Members} {width height : Json}
    {clipSources imageSources : List String} {videos images texts : List Json}
    (listedVideos : metadataList members videosKey = .ok videos)
    (listedImages : metadataList members imagesKey = .ok images)
    (listedTexts : metadataList members textsKey = .ok texts) :
    ofMetadata fresh (.obj members) width height clipSources imageSources
      = if videos.length ≠ clipSources.length then
          .error (.expected (.validation (.clipCount videos.length clipSources.length)))
        else if images.length ≠ imageSources.length then
          .error (.expected (.validation (.imageCount images.length imageSources.length)))
        else
          withSources videos clipSources >>= fun clips =>
            withSources images imageSources >>= fun overlays =>
              ofPayload fresh (.obj (assembled width height clips overlays texts)) := by
  simp only [ofMetadata, payloadOfMetadata, bind, Except.bind, listedVideos, listedImages,
    listedTexts]
  by_cases fitVideos : videos.length = clipSources.length
  · by_cases fitImages : images.length = imageSources.length
    · simp only [fitVideos, fitImages, ne_eq, not_true_eq_false, if_false]
      cases withSources videos clipSources with
      | error e => rfl
      | ok clips => cases withSources images imageSources <;> rfl
    · simp only [fitVideos, fitImages, ne_eq, not_true_eq_false, not_false_eq_true, if_true, if_false]
  · simp only [fitVideos, ne_eq, not_false_eq_true, if_true]

/-- Metadata are read to the end, or break as `metadataFault?` says. -/
lemma endsWith_ofMetadata (fresh : String) (members : Members) (width height : Int)
    (clipSources imageSources : List String) :
    EndsWith (metadataFault? members clipSources imageSources)
      (ofMetadata fresh (.obj members) (.int width) (.int height) clipSources imageSources) := by
  rcases listed_or_refused fresh members (.int width) (.int height) clipSources imageSources with
    ⟨videos, images, texts, listedVideos, listedImages, listedTexts⟩ | refused
  · rw [ofMetadata_of_listed listedVideos listedImages listedTexts]
    simp only [metadataFault?, listedVideos, listedImages, listedTexts]
    by_cases fitVideos : videos.length = clipSources.length
    · by_cases fitImages : images.length = imageSources.length
      · rw [if_neg (not_not.mpr fitVideos), if_neg (not_not.mpr fitImages),
          if_pos ⟨fitVideos, fitImages⟩, List.findSome?_append]
        rcases withSources_cases fitVideos with ⟨clips, eq, straight, sameClips⟩ | ⟨f, eq, stray⟩
        · rw [eq, straight]
          rcases withSources_cases fitImages with
            ⟨overlays, eq, straight, sameOverlays⟩ | ⟨f, eq, stray⟩
          · have same : infiniteAmong videos images texts
                = hasInfinite (assembled (.int width) (.int height) clips overlays texts) := by
              rw [hasInfinite_assembled, infiniteAmong, infiniteAmong, sameClips, sameOverlays]
            rw [eq, straight, same]
            exact endsWith_ofPayload fresh _
          · rw [eq, stray]
            exact .broken f
        · rw [eq, stray]
          exact .broken f
      · rw [if_neg (not_not.mpr fitVideos), if_pos fitImages, if_neg fun fit => fitImages fit.2]
        exact .refused _
    · rw [if_pos fitVideos, if_neg fun fit => fitVideos fit.1]
      exact .refused _
  · exact refused

/-- **Decoding an object ends with a timeline, with a refusal, or with the fault that the object
has**: in a payload an infinite pixel; in metadata, whose lists fit the stored files, an entity that
is no object, and else an infinite pixel. -/
theorem decoding_ends (fresh : String) :
    (∀ members, EndsWith (infinityIf (hasInfinite members)) (ofPayload fresh (.obj members))) ∧
    ∀ members (width height : Int) clipSources imageSources,
      EndsWith (metadataFault? members clipSources imageSources)
        (ofMetadata fresh (.obj members) (.int width) (.int height) clipSources imageSources) :=
  ⟨endsWith_ofPayload fresh, endsWith_ofMetadata fresh⟩

/-- A payload with one clip at the given place. -/
def payloadAt (x : Json) : Json :=
  .obj [("canvasWidth", .int 1280), ("canvasHeight", .int 720),
    ("clips", .arr [.obj [("id", .str "a"), ("sourceRef", .str "a.mp4"), ("startTime", .int 0),
      ("endTime", .int 10), ("x", x)]])]

/-- An infinite place breaks a payload, as a number and as a numeral; a place that is not a number
is refused. -/
theorem decoding_breaks :
    ofPayload "" (payloadAt (.num (.infinite false))) = .error (.unexpected .infiniteNumber) ∧
    ofPayload "" (payloadAt (.str "-1e400")) = .error (.unexpected .infiniteNumber) ∧
    ofPayload "" (payloadAt (.num .nan))
      = .error (malformed [⟨[.key "clips", .index 0, .key "x"], .pixelNotNumber⟩]) ∧
    ofMetadata "" (.obj [("videos", .arr [.int 3])]) (.int 1280) (.int 720) ["a.mp4"] []
      = .error (.unexpected (.notAMapping "int")) := by
  decide +kernel

end Timeline

end Montage
