import Montage.Field.Problem

/-!
# Failures of an export

An export ends with a video or with an `ExportFailure`, and each failure says what happened.  The
kinds tell a caller what to do about it; who raised the failure does not matter.

* `ExportFailure` — the failures by cause; `kind`, `message` and the other readings of one.
* `FailureNotice` — a failure as it is shown: kind, words, and what goes with them.
* `Failure` — an export failure, or a fault that nobody foresaw.
-/

namespace Montage

/-! ## Kinds -/

/-- The kinds of failures by which callers tell them apart; metrics name them as the reason of an
end. -/
inductive FailureKind where
  | exportFailure
  | validation
  | busy
  | classification
  | compile
  | engineLoad
  | execution
  | transport
  | cancelled
  deriving DecidableEq, Repr

namespace FailureKind

/-- The name of a kind, as it is recorded and reported. -/
def name : FailureKind → String
  | exportFailure => "export_failure"
  | validation => "validation"
  | busy => "busy"
  | classification => "classification"
  | compile => "compile"
  | engineLoad => "engine_load"
  | execution => "execution"
  | transport => "transport"
  | cancelled => "cancelled"

/-- Whether the request itself was refused, and not what came of it.  Being busy counts: nothing was
started. -/
def isRefusal : FailureKind → Bool
  | validation | busy => true
  | _ => false

end FailureKind

/-! ## Causes -/

/-- Why a timeline or its metadata is refused. -/
inductive TimelineProblem where
  | malformed (problems : List FieldProblem)
  | noClips
  | overlayWithoutSize (index : Nat) (id : String)
  | fieldNotList (key : String)
  | clipCount (listed uploaded : Nat)
  | imageCount (listed uploaded : Nat)
  | metadataNotJson (error : Json.ReadError)
  | metadataNotObject
  deriving DecidableEq

/-- Why no graph can be made. -/
inductive GraphProblem where
  | noClips
  | overlayWithoutSize (index : Nat)
  | duplicateLabels (labels : List String)
  | terminalCount
  deriving DecidableEq

/-- Why the engine is not there. -/
inductive EngineProblem where
  | notFound (binary : String) (cause : Fault)
  | notStarted (cause : Fault)
  | exited (reason : String)
  | notLoaded
  deriving DecidableEq

/-- Why the processing failed. -/
inductive ProcessingProblem where
  | exitCode (code : Int) (output : String)
  | payloadCount
  | workspace (cause : OsError)
  | emptyResponse
  | reported (message body : String)
  | unforeseen (cause : Fault)
  deriving DecidableEq

/-- Why the exchange with the remote worker failed. -/
inductive TransportProblem where
  | timedOut (cause : Fault)
  | interrupted (cause : Fault)
  | status (code : Int)
  deriving DecidableEq

/-- A failure of an export, in the export's own vocabulary.  Each constructor holds all that its
text is made of (`message`). -/
inductive ExportFailure where
  | validation (problem : TimelineProblem)
  | busy
  | classification (source : String) (cause : Fault)
  | compile (problem : GraphProblem)
  | engineLoad (problem : EngineProblem)
  | execution (problem : ProcessingProblem)
  | transport (problem : TransportProblem)
  | cancelled
  deriving DecidableEq

/-! ## Words -/

/-- What is said about a timeline that cannot be exported. -/
def TimelineProblem.message : TimelineProblem → String
  | malformed problems =>
    let noun := if problems.length = 1 then "error" else "errors"
    s!"invalid timeline: {problems.length} validation {noun} for Timeline"
  | noClips => "timeline must contain at least one clip"
  | overlayWithoutSize index id => s!"overlay clip {index} ({id}) requires width and height"
  | fieldNotList key => s!"metadata field {Text.quoted key} must be a list"
  | clipCount listed uploaded =>
    s!"metadata lists {listed} videos but {uploaded} files were uploaded"
  | imageCount listed uploaded =>
    s!"metadata lists {listed} images but {uploaded} files were uploaded"
  | metadataNotJson e => "metadata is not valid JSON: " ++ e.message
  | metadataNotObject => "metadata must be a JSON object"

/-- What is said about a timeline that cannot be compiled. -/
def GraphProblem.message : GraphProblem → String
  | noClips => "cannot compile a timeline without clips"
  | overlayWithoutSize index => s!"overlay clip {index} has no size"
  | duplicateLabels labels => "duplicate output labels: " ++ ", ".intercalate labels
  | terminalCount => "graph must produce the terminal label exactly once"

/-- What is said about an engine that cannot be loaded. -/
def EngineProblem.message : EngineProblem → String
  | notFound binary _ => "FFmpeg not found: " ++ binary
  | notStarted cause => "Failed to load FFmpeg: " ++ cause.message
  | exited reason => "Failed to load FFmpeg: " ++ reason
  | notLoaded => "FFmpeg engine is not loaded"

/-- What is said about a video that could not be made, by whichever backend. -/
def ProcessingProblem.message : ProcessingProblem → String
  | exitCode code _ => s!"FFmpeg failed with return code {code}"
  | payloadCount => "payload count does not match the timeline"
  | workspace cause => "Video processing failed: " ++ cause.message
  | emptyResponse => "Cloud export returned an empty file"
  | reported message _ => "Cloud export failed: " ++ message
  | unforeseen cause => "Export failed: " ++ cause.message

/-- What is said about a worker that could not be reached, or did not answer as it should. -/
def TransportProblem.message : TransportProblem → String
  | timedOut cause => "Cloud export timed out: " ++ cause.message
  | interrupted cause => "Cloud export failed: " ++ cause.message
  | status code => s!"Cloud export failed with status {code}"

namespace ExportFailure

/-- The kind of a failure, by its constructor. -/
def kind : ExportFailure → FailureKind
  | validation _ => .validation
  | busy => .busy
  | classification .. => .classification
  | compile _ => .compile
  | engineLoad _ => .engineLoad
  | execution _ => .execution
  | transport _ => .transport
  | cancelled => .cancelled

/-- What is said about a failure. -/
def message : ExportFailure → String
  | validation p => p.message
  | busy => "an export is already in progress"
  | classification source cause => s!"could not read payload {source}: {cause.message}"
  | compile p => p.message
  | engineLoad p => p.message
  | execution p => p.message
  | transport p => p.message
  | cancelled => "export was cancelled"

/-- The fault behind a failure. -/
def cause? : ExportFailure → Option Fault
  | validation (.metadataNotJson e) => some (.badJson e)
  | classification _ cause => some cause
  | engineLoad (.notFound _ cause) => some cause
  | engineLoad (.notStarted cause) => some cause
  | execution (.workspace cause) => some (.os cause)
  | execution (.unforeseen cause) => some cause
  | transport (.timedOut cause) => some cause
  | transport (.interrupted cause) => some cause
  | _ => none

/-- What the failed program or worker said. -/
def diagnostics? : ExportFailure → Option String
  | execution (.exitCode _ output) => some output
  | execution (.reported _ body) => some body
  | _ => none

/-- The status of the response that counts as a transport failure. -/
def statusCode? : ExportFailure → Option Int
  | transport (.status code) => some code
  | _ => none

end ExportFailure

/-! ## Notices -/

/-- A failure as it is shown. -/
structure FailureNotice where
  kind : FailureKind
  message : String
  diagnostics : Option String := none
  statusCode : Option Int := none
  cause : Option Fault := none

/-- All that a caller sees of a failure. -/
def ExportFailure.notice (e : ExportFailure) : FailureNotice :=
  { kind := e.kind, message := e.message, diagnostics := e.diagnostics?
    statusCode := e.statusCode?, cause := e.cause? }

/-- Anything that ends a step without a result: an export failure, or a fault nobody foresaw.  It is
the boundary between both that decides what a caller sees. -/
inductive Failure where
  | expected (failure : ExportFailure)
  | unexpected (fault : Fault)
  deriving DecidableEq

instance : Inhabited Failure := ⟨.expected .cancelled⟩

/-- What is said about a failure, whether it was foreseen or not. -/
def Failure.message : Failure → String
  | expected e => e.message
  | unexpected f => f.message

end Montage
