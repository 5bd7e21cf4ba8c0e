import Montage.Studio.Http
import Montage.Studio.LocalBackend
import Montage.Timeline.Metadata

/-!
# Exports on a remote worker

The metadata of a timeline and its files are sent to a worker, which renders the same graph, and the
video is received.

* `Submission` — the form that is sent; **the files are in the order of the timeline**.
* `failureOfResponse` — what a response without success means: a worker that says what went wrong
  has failed to process, any other answer is a failure of the transport.
* `RemoteBackend.execute` — the whole export.
-/

namespace Montage

/-! ## The form -/

/-- A file of a form: the field it belongs to, the name it is given, its content and the type that
is announced for it.  Fields repeat, one file each, and the worker takes the files of a field in the
order in which they come. -/
structure UploadedFile where
  field : String
  fileName : String
  content : ByteArray
  mediaType : String
  deriving DecidableEq

/-- The form that is sent to the worker: the metadata as a text, the canvas as two numerals, and the
files.  The worker reads it back as a `RawForm`; that nothing is lost on the way is what the round
trip of `Timeline.toMetadata` and `Timeline.ofMetadata` is about. -/
structure Submission where
  metadata : String
  canvasWidth : String
  canvasHeight : String
  files : List UploadedFile
  deriving DecidableEq

namespace Submission

/-- The field of the clips.  It comes once for every clip, in their order, which is the order of
their streams in the graph. -/
def videosField : String := "videos"

/-- The field of the images; it comes once for every image, in their order, and not at all where
there is none. -/
def imagesField : String := "images"

/-- The field of everything else that the worker has to know of the timeline, written as JSON by
`Timeline.toMetadata`. -/
def metadataField : String := "metadata"

/-- The field of the width of the canvas; the metadata does not hold it. -/
def widthField : String := "canvas_width"

/-- The field of the height of the canvas; the metadata does not hold it either. -/
def heightField : String := "canvas_height"

/-- A clip as it is uploaded, under a name made from its id.  The worker looks at the place of the
file among those of `videosField` and not at this name. -/
def videoFile (clip : Clip) (content : ByteArray) : UploadedFile :=
  ⟨videosField, clip.id ++ ".mp4", content, "video/mp4"⟩

/-- An image as it is uploaded, under a name made from its id, which the worker does not look at
either. -/
def imageFile (image : ImageOverlay) (content : ByteArray) : UploadedFile :=
  ⟨imagesField, image.id ++ ".png", content, "image/png"⟩

/-- The form of a timeline and its files.  The metadata and the size of the canvas are written, and
an integer of too many digits makes that impossible (`numeral`). -/
def ofTimeline (t : Timeline) (payloads : Payloads) : Except Fault Submission := do
  let metadata ← t.toMetadata.write
  let canvasWidth ← numeral t.canvasWidth
  let canvasHeight ← numeral t.canvasHeight
  return { metadata, canvasWidth, canvasHeight
           files := List.zipWith videoFile t.clips payloads.clips
             ++ List.zipWith imageFile t.images payloads.images }

/-- The fields of a form that are texts, by their names and in the order in which they are sent. -/
def fields (s : Submission) : List (String × String) :=
  [(metadataField, s.metadata), (widthField, s.canvasWidth), (heightField, s.canvasHeight)]

/-- The parts of a form as they are sent: first the fields, then the files. -/
def parts (s : Submission) : List FormPart :=
  s.fields.map (fun f => .field f.1 f.2)
    ++ s.files.map fun f => .file f.field f.fileName f.content

end Submission

/-! ## Responses without success -/

/-- What a value says went wrong: its `message`, or its `error` where there is no message worth the
name.  A value that counts as nothing (`Json.isTruthy`) is no message. -/
def reportedProblem? : Json → Option Json
  | .obj members =>
    match Json.lookup "message" members with
    | some m => if m.isTruthy then some m else (Json.lookup "error" members).filter Json.isTruthy
    | none => (Json.lookup "error" members).filter Json.isTruthy
  | _ => none

/-- What a response without success means.  A worker that says what went wrong (`reportedProblem?`)
has failed to process; with any other body it is only the status that is known, and the exchange has
failed.  A body that is nested too deep (`nestingLimit`) breaks the export off. -/
def failureOfResponse (status : Int) (body : ByteArray) : Except Fault ExportFailure := do
  let value ← (Json.parseBytes body).mapError .badJson
  return match value.bind reportedProblem? with
    | some problem => .execution (.reported problem.plainText (Text.lossyText body))
    | none => .transport (.status status)

/-! ## The export -/

namespace RemoteBackend

open LocalBackend (report)

/-- A fault of the exchange is a failure of the transport, in different words where a time limit ran
out.  What is not of the exchange (`HttpProblem.isTransport`) is passed on as the fault it is. -/
def transportExpected {α : Type} (r : NotingRoutine ProgressUpdate α) :
    NotingRoutine ProgressUpdate α :=
  r.handle fun
    | .failed (.unexpected (.http problem message)) =>
      if problem.isTimeout then Routine.refuse (.transport (.timedOut (.http problem message)))
      else if problem.isTransport then
        Routine.refuse (.transport (.interrupted (.http problem message)))
      else Routine.broken (.http problem message)
    | x => .done x

/-- The length that a response announces.  None at all, and an empty header, is zero, and then
`receive` reports no progress; a header that is no integer is a fault. -/
def announcedLength (r : Response) : Except Fault Int :=
  match r.header? "content-length" with
  | none => .ok 0
  | some "" => .ok 0
  | some text =>
    match Text.Numeral.integer text.toList with
    | .ok n => .ok n
    | .error .malformed => .error (.badInteger text)
    | .error (.tooLong digits) => .error (.longInteger digits)

/-- How much of an announced length has come, in percent.  It stops at 99, since the end itself is
told by `execute`, and a worker may announce less than it sends. -/
def receivedPercent (received : Nat) (expected : Int) : Binary64 :=
  Binary64.minFirst 99 (Binary64.ofRatio received expected * 100)

/-- Receives the pieces of a response and reports how much has come.  A piece with nothing in it is
not reported, and none is where no length was announced (`announcedLength`). -/
def receive (expected : Int) (received : Nat) :
    List (Except Fault ByteArray) → NotingRoutine ProgressUpdate (List ByteArray)
  | [] => pure []
  | piece :: rest => do
    Routine.lift Studio.nextPiece
    let content ← Routine.ofFault piece
    let received := received + content.size
    if expected ≠ 0 && content.size ≠ 0 then
      report .finalizing (receivedPercent received expected) "Downloading..."
    return content :: (← receive expected received rest)

/-- Sends the form and receives the video.  A response without success is read to its end and told
by `failureOfResponse`; of any other the pieces are received as they come, and `Http.finish` hears
whether the response was complete. -/
def exchange (settings : Settings) (s : Submission) : NotingRoutine ProgressUpdate ByteArray := do
  let r ← Routine.lift (Http.submit settings.remoteUrl s.parts)
  if !Status.isSuccess r.status then
    let body ← Routine.lift (Http.readBody r)
    Routine.refuse (← Routine.ofFault (failureOfResponse r.status body))
  report .processing 100 "Cloud processing finished"
  report .finalizing 0 "Downloading..."
  let expected ← Routine.ofFault (announcedLength r)
  let parts ← receive expected 0 (Http.pieces r)
  Routine.lift (Http.finish r)
  return Http.concat parts

/-- A whole export on the remote worker.  The graph plays no part: the worker compiles its own from
the metadata (`Worker.graphOf`).  A response without a single byte is no video. -/
def execute (settings : Settings) (t : Timeline) (payloads : Payloads) :
    NotingRoutine ProgressUpdate ByteArray := do
  report .preparing 0 "Uploading to cloud..."
  let s ← Routine.ofFault (Submission.ofTimeline t payloads)
  report .preparing 100 "Upload prepared"
  report .processing 0 "Processing on cloud..."
  let output ← transportExpected (exchange settings s)
  if output.size = 0 then Routine.refuse (.execution .emptyResponse)
  report .finalizing 100 "Export complete!"
  return output

/-- Nothing is left behind on this side: the worker removes its own files (`Worker.clear`). -/
def cleanup : StudioRoutine Unit := pure ()

end RemoteBackend

end Montage
