import Montage.Graph.Compile
import Montage.Studio.LocalBackend
import Montage.Timeline.Metadata
import Montage.Worker.Form

/-!
# The worker

The worker stores the files of a form in a directory of their own, makes the timeline from the
metadata, renders it, and answers with the video.

* `WorkerReply` — the answers.
* `answerForm` — the whole request.  **The directory is removed at the end**, however that comes
  about.

The size of all files together is limited; they are counted while they are stored, before the
metadata is looked at.
-/

namespace Montage

/-! ## Answers -/

/-- What the worker answers to a form: a video, or a status with a message. -/
inductive WorkerReply where
  | video (content : ByteArray)
  /-- A status and what went wrong. -/
  | refusal (status : Nat) (message : String)
  deriving DecidableEq

namespace WorkerReply

/-- The status of a form with too many bytes. -/
def tooLarge : Nat := 413

/-- The status of a form that cannot be rendered, whatever is tried. -/
def badRequest : Nat := 400

/-- The status of a rendering that has failed. -/
def serverError : Nat := 500

/-- The status of an answer. -/
def status : WorkerReply → Nat
  | video _ => 200
  | refusal status _ => status

/-- What kind of body an answer has. -/
def mediaType : WorkerReply → String
  | video _ => "video/mp4"
  | refusal .. => "application/json"

/-- How the content is to be stored by whoever receives it. -/
def disposition : WorkerReply → Option String
  | video _ => some "attachment; filename=\"final_video.mp4\""
  | refusal .. => none

/-- The body of a refusal. -/
def complaint (message : String) : Json :=
  .obj [("error", .str "Export failed"), ("message", .str message)]

/-- The body of an answer.  That of a refusal is a text of JSON, and there is none when the message
cannot be encoded, for half of a surrogate pair has no bytes. -/
def body : WorkerReply → Except Fault ByteArray
  | video content => .ok content
  | refusal _ message => do
    let text ← Json.writeWith Json.compact (complaint message)
    (Text.encodeUtf8 text).mapError .unencodable

/-- The answer to a failed export: the request is to blame for a timeline that is refused
(`FailureKind.isRefusal`), and the worker for anything else. -/
def ofFailure (e : ExportFailure) : WorkerReply :=
  refusal (if e.kind.isRefusal then badRequest else serverError) e.message

end WorkerReply

namespace Worker

/-! ## Storing files -/

/-- How the names of the worker's directories begin. -/
def directoryBeginning : String := "process-"

/-- Appends pieces to a file as long as at most `limit` bytes are written altogether; tells how many
were, or nothing if that is too little.  The piece that would exceed the limit is not written. -/
def storePieces (path : Path) (limit : Int) (written : Nat) :
    List ByteArray → StudioRoutine (Option Nat)
  | [] => do
    Studio.nextPiece
    return some written
  | piece :: rest => do
    Studio.nextPiece
    let written := written + piece.size
    if limit < written then return none
    Studio.appendFile path piece
    storePieces path limit written rest

/-- Stores files one after the other; tells whether all of them are within the limit, which they
share. -/
def storeAll (limit : Int) : List (Path × Upload) → StudioRoutine Bool
  | [] => pure true
  | (path, upload) :: rest => do
    Studio.createFile path
    match ← storePieces path limit 0 upload.pieces with
    | none => return false
    | some written => storeAll (limit - written) rest

/-- What is said about a form with too many bytes. -/
def tooLargeMessage (limit : Int) : String := s!"upload exceeds {limit} bytes"

/-! ## Rendering -/

/-- The metadata of a form.  Anything that is no JSON object is a problem of the form, but for
nesting that goes too deep (`nestingLimit`), which breaks the request. -/
def metadataOf (text : String) : Except Failure Json :=
  match Json.parse text with
  | .error (.tooDeep isArray) => .error (.unexpected (.badJson (.tooDeep isArray)))
  | .error e => .error (.expected (.validation (.metadataNotJson e)))
  | .ok (.obj members) => .ok (.obj members)
  | .ok _ => .error (.expected (.validation .metadataNotObject))

/-- Where the clips of a form are stored in the directory of the request, named by their numbers and
not by what the client calls them. -/
def clipPaths (directory : Path) (f : Form) : List Path :=
  (List.range f.videos.length).map fun i : Nat => directory.child (clipName i)

/-- Where the images of a form lie in the directory of the request, in their order. -/
def imagePaths (directory : Path) (f : Form) : List Path :=
  (List.range f.images.length).map fun i : Nat => directory.child (imageName i)

/-- How the worker renders: its own preset, and the quality of all exports. -/
def encoding (settings : Settings) : Encoding :=
  { preset := settings.workerVideoPreset, crf := settings.crf
    audioBitrate := settings.audioBitrate }

/-- The graph of a form whose files are stored.  Its timeline is that of the metadata, with the
paths of the stored files for its references. -/
def graphOf (freshId : String) (directory : Path) (f : Form) : Except Failure Graph := do
  let metadata ← metadataOf f.metadata
  let t ← Timeline.ofMetadata freshId metadata (.int f.canvasWidth) (.int f.canvasHeight)
    ((clipPaths directory f).map Path.text) ((imagePaths directory f).map Path.text)
  t.validate.mapError fun p => .expected (.validation p)
  t.compile

/-- The arguments that render a form.  The paths of its files begin with the directory of the
request, and the program is started in that directory (`render`), so a directory that is not
absolute leads elsewhere there (`paths_lead`). -/
def arguments (settings : Settings) (directory : Path) (f : Form) (g : Graph) : List String :=
  commandArguments g ((clipPaths directory f ++ imagePaths directory f).map Path.text)
    (directory.child outputName).text (encoding settings)

/-- Renders a form whose files are stored.  The gate lets one rendering through at a time; making
the graph and reading the result are not behind it. -/
def render (settings : Settings) (freshId : String) (directory : Path) (f : Form) :
    NotingRoutine Binary64 WorkerReply := do
  let g ← Routine.ofExcept (graphOf freshId directory f)
  Routine.within (E := Studio.noting Binary64) .worker do
    Tool.run settings.ffmpeg (arguments settings directory f g) (some directory) none
  let content ← Routine.lift (Studio.readFile (directory.child outputName))
  return .video content

/-- An answer whose body can be sent; that it cannot be is a fault and no other answer. -/
def sendable (reply : WorkerReply) : Except Fault WorkerReply :=
  match reply.body with
  | .ok _ => .ok reply
  | .error f => .error f

/-- A failure of the export as an answer.  Faults are not answered: they leave the request as they
are. -/
def answering {N : Type} (r : NotingRoutine N WorkerReply) : NotingRoutine N WorkerReply :=
  r.handle fun
    | .failed (.expected e) => Routine.ofFault (sendable (.ofFailure e))
    | x => .done x

/-- Stores the files of a form and renders it.  With too many bytes the metadata is not looked
at. -/
def work (settings : Settings) (freshId : String) (directory : Path) (f : Form) :
    NotingRoutine Binary64 WorkerReply := do
  let paths := clipPaths directory f ++ imagePaths directory f
  let fits ← Routine.lift (storeAll settings.workerMaxUploadBytes (paths.zip f.uploads))
  if fits then render settings freshId directory f
  else return .refusal WorkerReply.tooLarge (tooLargeMessage settings.workerMaxUploadBytes)

/-- Closes the files and removes the directory; that it cannot be removed is no problem. -/
def clear (directory : Path) (f : Form) : StudioRoutine Unit := do
  Routine.forEach f.uploads fun _ => Studio.pause
  (Studio.removeTree directory).handle fun
    | .failed (.unexpected (.os _)) => .done (.returned ())
    | x => .done x

end Worker

/-- Works on a form from start to end, in a directory of its own that is removed at the end however
that came (`Worker.clear`). -/
def answerForm (settings : Settings) (freshId : String) (f : Form) :
    NotingRoutine Binary64 WorkerReply := do
  let root := Path.ofText settings.workerRoot
  Routine.lift (Studio.makeDirectories root)
  let directory ← Routine.lift (Studio.makeTemporary root Worker.directoryBeginning)
  (Worker.answering (Worker.work settings freshId directory f)).ensuring
    (Routine.lift (Worker.clear directory f))

end Montage
