import Montage.Json.Writer
import Montage.Timeline.Validation

/-!
# Metadata

What travels to a remote worker beside the files: every entity but without its source, because the
files are sent along in the same order.

* `Timeline.toMetadata` — the metadata of a timeline.
* `Timeline.ofMetadata` — a timeline from metadata and the places where the files were stored.
-/

namespace Montage

/-! ## Writing -/

/-- The members that every entity starts with. -/
def entityMembers (id : String) (w : Window) : List (String × Json) :=
  [(Field.id.main, .str id), (Field.startTime.main, .num w.start),
   (Field.endTime.main, .num w.finish)]

/-- A size that may be left open. -/
def optionalInt : Option Int → Json
  | some i => .int i
  | none => .null

/-- A clip as the worker is told of it; its file is sent beside. -/
def Clip.toMetadata (c : Clip) : Json :=
  .obj (entityMembers c.id c.window ++
    [(Field.width.main, optionalInt c.width), (Field.height.main, optionalInt c.height),
     (Field.x.main, .int c.x), (Field.y.main, .int c.y)])

/-- An image as the worker is told of it; its file is sent beside. -/
def ImageOverlay.toMetadata (i : ImageOverlay) : Json :=
  .obj (entityMembers i.id i.window ++
    [(Field.width.main, .int i.width), (Field.height.main, .int i.height),
     (Field.x.main, .int i.x), (Field.y.main, .int i.y)])

/-- A caption as the worker is told of it. -/
def TextOverlay.toMetadata (t : TextOverlay) : Json :=
  .obj (entityMembers t.id t.window ++
    [(Field.description.main, .str t.description), (Field.fontSize.main, .int t.fontSize),
     (Field.color.main, .str t.color.text), (Field.x.main, .int t.x), (Field.y.main, .int t.y),
     (Field.width.main, .int t.width), (Field.height.main, .int t.height)])

namespace Timeline

/-- The key of the clips, which the worker calls videos. -/
def videosKey : String := "videos"

/-- The key of the images. -/
def imagesKey : String := "images"

/-- The key of the captions. -/
def textsKey : String := "texts"

/-- A timeline as the worker is told of it.  The canvas has fields of its own in the form, so it is
not part of this. -/
def toMetadata (t : Timeline) : Json :=
  .obj [(videosKey, .arr (t.clips.map Clip.toMetadata)),
        (imagesKey, .arr (t.images.map ImageOverlay.toMetadata)),
        (textsKey, .arr (t.texts.map TextOverlay.toMetadata))]

/-! ## Reading -/

/-- The word for the kind of a value in a fault. -/
def kindWord : Json → String
  | .null => "NoneType"
  | .bool _ => "bool"
  | .int _ => "int"
  | .num _ => "float"
  | .str _ => "str"
  | .arr _ => "list"
  | .obj _ => "dict"

/-- The list under a key; a key that is missing or null stands for an empty list. -/
def metadataList (members : Members) (key : String) : Except Failure (List Json) :=
  match Json.lookup key members with
  | none => .ok []
  | some .null => .ok []
  | some (.arr items) => .ok items
  | some _ => .error (.expected (.validation (.fieldNotList key)))

/-- An entity of the metadata with the place of its file. -/
def withSource (entity : Json) (source : String) : Except Failure Json :=
  match entity with
  | .obj members => .ok (.obj (Json.insert Field.sourceRef.main (.str source) members))
  | other => .error (.unexpected (.notAMapping (kindWord other)))

/-- Entities and their files, side by side. -/
def withSources : List Json → List String → Except Failure (List Json)
  | entity :: entities, source :: sources => do
    let first ← withSource entity source
    let rest ← withSources entities sources
    return first :: rest
  | _, _ => .ok []

/-- The payload that metadata and stored files stand for. -/
def payloadOfMetadata (metadata canvasWidth canvasHeight : Json)
    (clipSources imageSources : List String) : Except Failure Json := do
  let members ← match metadata with
    | .obj members => .ok members
    | other => .error (.unexpected (.noMembers (kindWord other)))
  let videos ← metadataList members videosKey
  let images ← metadataList members imagesKey
  let texts ← metadataList members textsKey
  if videos.length ≠ clipSources.length then
    .error (.expected (.validation (.clipCount videos.length clipSources.length)))
  if images.length ≠ imageSources.length then
    .error (.expected (.validation (.imageCount images.length imageSources.length)))
  let clips ← withSources videos clipSources
  let overlays ← withSources images imageSources
  return .obj [(Field.canvasWidth.main, canvasWidth), (Field.canvasHeight.main, canvasHeight),
    (Field.clips.main, .arr clips), (Field.images.main, .arr overlays),
    (Field.texts.main, .arr texts)]

/-- A timeline from metadata, the canvas as it was sent, and the stored files. -/
def ofMetadata (fresh : String) (metadata canvasWidth canvasHeight : Json)
    (clipSources imageSources : List String) : Except Failure Timeline := do
  let payload ← payloadOfMetadata metadata canvasWidth canvasHeight clipSources imageSources
  ofPayload fresh payload

end Timeline

end Montage
