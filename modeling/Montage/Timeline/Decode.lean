import Montage.Field.Read
import Montage.Timeline.Basic

/-!
# Timelines from payloads

Reading the entities and the timeline from JSON objects.  Fields are written in camel case; their
names in lower case with underscores are accepted too.  A window is checked once its entity has no
other problem.

* `Clip.decode`, `ImageOverlay.decode`, `TextOverlay.decode` — one entity.
* `Timeline.decode` — a whole timeline.

An entity without an id gets the id `fresh`.
-/

namespace Montage

/-! ## Names and defaults -/

namespace Field

/-- What identifies an entity; one that comes without gets a fresh one. -/
def id : FieldName := .single "id"

/-- When an entity begins to be seen, in seconds. -/
def startTime : FieldName := ⟨"startTime", "start_time"⟩

/-- When it is no longer seen, in seconds. -/
def endTime : FieldName := ⟨"endTime", "end_time"⟩

/-- Where the file of a clip or an image is to be found. -/
def sourceRef : FieldName := ⟨"sourceRef", "source_ref"⟩

/-- How wide an entity is, in pixels. -/
def width : FieldName := .single "width"

/-- How high it is, in pixels. -/
def height : FieldName := .single "height"

/-- How far its centre lies from the left edge of the canvas. -/
def x : FieldName := .single "x"

/-- How far its centre lies from the upper edge. -/
def y : FieldName := .single "y"

/-- The text that a caption shows. -/
def description : FieldName := .single "description"

/-- How large the letters of a caption are, in pixels. -/
def fontSize : FieldName := ⟨"fontSize", "font_size"⟩

/-- The colour of its letters, `#rrggbb`. -/
def color : FieldName := .single "color"

/-- How wide the canvas is; an export has its size. -/
def canvasWidth : FieldName := ⟨"canvasWidth", "canvas_width"⟩

/-- How high the canvas is. -/
def canvasHeight : FieldName := ⟨"canvasHeight", "canvas_height"⟩

/-- The video clips, the base clip first. -/
def clips : FieldName := .single "clips"

/-- The image overlays, in the order in which they are stacked. -/
def images : FieldName := .single "images"

/-- The captions, which lie above everything else. -/
def texts : FieldName := .single "texts"

end Field

namespace TextOverlay

/-- The size of letters where none is given. -/
def defaultFontSize : Int := 24

/-- The width of a caption where none is given. -/
def defaultWidth : Int := 100

/-- The height of a caption where none is given. -/
def defaultHeight : Int := 50

end TextOverlay

/-! ## Entities -/

/-- The members of an object, in the order in which they stand. -/
abbrev Members := List (String × Json)

/-- The members of an object, or the error that names what was expected. -/
def Json.asObject (j : Json) (model : String) : Checked Members :=
  match j with
  | .obj members => .ok members
  | _ => .error (.notObject model)

namespace Read

/-- A size of at least one pixel. -/
def size (j : Json) : Checked Int := positive (pixel j)

/-- Reads a colour, which has to be a text of the form `#rrggbb`. -/
def color (j : Json) : Checked Color :=
  (text j).andThen (looked fun s => (Color.ofText? s).elim (.error .badColor) .ok)

end Read

/-- An entity is refused when it ends before or when it starts. -/
def Window.checked {α : Type} (window : α → Window) (entity : α) : Checked α :=
  let w := window entity
  if Binary64.le w.finish w.start then .error (.badWindow w.finish w.start) else .ok entity

/-- The fields that every entity starts with: its id, its start and its end. -/
def decodeEntity {α : Type} (fresh : String) (ms : Members)
    (rest : Checked (String → Window → α)) : Checked α :=
  (fun id start finish make => make id ⟨start, finish⟩)
    <$> Field.id.optional Read.text fresh ms
    <*> Field.startTime.required Read.startSeconds ms
    <*> Field.endTime.required Read.seconds ms
    <*> rest

/-- Reads a clip.  Only the base clip may come without a size, so the size is optional here and the
compiler asks for it where it needs it. -/
def Clip.decode (fresh : String) (j : Json) : Checked Clip :=
  (j.asObject "Clip").andThen fun ms =>
    Checked.andThen
      (decodeEntity fresh ms <|
        (fun source width height x y id window => Clip.mk id window source width height x y)
          <$> Field.sourceRef.required Read.nonEmptyText ms
          <*> Field.width.optional Read.optionalSize none ms
          <*> Field.height.optional Read.optionalSize none ms
          <*> Field.x.optional Read.pixel 0 ms
          <*> Field.y.optional Read.pixel 0 ms)
      (Window.checked Clip.window)

/-- Reads an image overlay, which always has a size. -/
def ImageOverlay.decode (fresh : String) (j : Json) : Checked ImageOverlay :=
  (j.asObject "ImageOverlay").andThen fun ms =>
    Checked.andThen
      (decodeEntity fresh ms <|
        (fun source width height x y id window =>
            ImageOverlay.mk id window source width height x y)
          <$> Field.sourceRef.required Read.nonEmptyText ms
          <*> Field.width.required Read.size ms
          <*> Field.height.required Read.size ms
          <*> Field.x.required Read.pixel ms
          <*> Field.y.required Read.pixel ms)
      (Window.checked ImageOverlay.window)

/-- Reads a caption; whatever it lacks has a default, its text apart. -/
def TextOverlay.decode (fresh : String) (j : Json) : Checked TextOverlay :=
  (j.asObject "TextOverlay").andThen fun ms =>
    Checked.andThen
      (decodeEntity fresh ms <|
        (fun description fontSize color x y width height id window =>
            TextOverlay.mk id window description fontSize color x y width height)
          <$> Field.description.required Read.text ms
          <*> Field.fontSize.optional Read.size defaultFontSize ms
          <*> Field.color.optional Read.color Color.white ms
          <*> Field.x.required Read.pixel ms
          <*> Field.y.required Read.pixel ms
          <*> Field.width.optional Read.size defaultWidth ms
          <*> Field.height.optional Read.size defaultHeight ms)
      (Window.checked TextOverlay.window)

/-! ## Timelines -/

/-- Reads a timeline.  Problems of all parts are collected, in the order of the fields. -/
def Timeline.decode (fresh : String) (j : Json) : Checked Timeline :=
  (j.asObject "Timeline").andThen fun ms =>
    Timeline.mk
      <$> Field.canvasWidth.required (Read.positive ∘ Read.whole) ms
      <*> Field.canvasHeight.required (Read.positive ∘ Read.whole) ms
      <*> Field.clips.optional (Read.list (Clip.decode fresh)) [] ms
      <*> Field.images.optional (Read.list (ImageOverlay.decode fresh)) [] ms
      <*> Field.texts.optional (Read.list (TextOverlay.decode fresh)) [] ms

end Montage
