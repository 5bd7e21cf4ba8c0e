import Montage.Field.Read
import Montage.Text.Case

/-!
# Settings

What an installation may choose: where exports run, which programs are called, how the result is
encoded, what the worker accepts.

* `Settings` — all choices with their defaults.
* `Variable` — a variable of the environment; `Variable.fault?` says why there cannot be one.
* `Settings.decode` — settings from given values over environment variables; the names of
  environment variables are taken in either case.
-/

namespace Montage

/-- The place an installation serves. -/
inductive Environment where
  | dev
  | staging
  | prod
  deriving DecidableEq, Repr

namespace Environment

/-- The name of an environment. -/
def name : Environment → String
  | dev => "dev"
  | staging => "staging"
  | prod => "prod"

/-- The environment of a name; others are refused. -/
def ofName (name : String) : Checked Environment :=
  ([dev, staging, prod].find? fun e => e.name = name).elim (.error .badEnvironment) .ok

/-- Reads an environment by its name. -/
def read : Json → Checked Environment
  | .str s => Read.looked ofName s
  | _ => .error .badEnvironment

end Environment

/-- A variable of the environment. -/
structure Variable where
  name : String
  value : String
  deriving DecidableEq

namespace Variable

/-- Why the environment cannot hold a variable: a text in it has no bytes or holds a null, or its
name is empty or holds the sign that ends a name. -/
def fault? (v : Variable) : Option Fault :=
  let problem (text : String) := Text.Alphabet.fileNames.problem? 0 (Text.codes text.toList)
  match [v.name, v.value].findSome? problem with
  | some p => some (.unencodable p)
  | none =>
    if v.name.contains '\x00' || v.value.contains '\x00' then some .embeddedNull
    else if v.name.contains '=' then some .badVariableName
    else if v.name = "" then some (.os OsError.invalidArgument)
    else none

/-- The name in lower case. -/
def key (v : Variable) : String :=
  String.ofList (Text.spelled (Text.lower (Text.codes v.name.toList)))

end Variable

/-- All that can be set from outside, with what holds where nothing is set. -/
structure Settings where
  environment : Environment := .dev
  /-- Up to so many bytes an export runs on the local engine. -/
  localMaxBytes : Int := 20 * 1024 * 1024
  remoteUrl : String := "http://127.0.0.1:8000/process"
  remoteTimeout : Binary64 := 600
  fetchTimeout : Binary64 := 60
  ffmpeg : String := "ffmpeg"
  ffprobe : String := "ffprobe"
  workspaceRoot : String := "artifacts/engine_tmp"
  videoPreset : String := "fast"
  /-- The worker has the stronger machine and can afford smaller files. -/
  workerVideoPreset : String := "medium"
  crf : Int := 23
  audioBitrate : String := "128k"
  workerConcurrency : Int := 2
  workerMaxUploadBytes : Int := 500 * 1024 * 1024
  workerRoot : String := "artifacts/worker_tmp"
  tracingEndpoint : String := "http://localhost:4317"
  tracingEnabled : Bool := false
  logDirectory : String := "logs"
  logLevel : String := "INFO"
  logJsonConsole : Bool := false
  deriving DecidableEq

namespace Settings

/-- The settings with no choice made. -/
def defaults : Settings := {}

/-- A field under its own name. -/
def field {α : Type} (name : String) (read : Json → Checked α) (default : α)
    (ms : List (String × Json)) : Checked α :=
  (FieldName.single name).optional read default ms

/-- Settings from named values. -/
def ofMembers (ms : List (String × Json)) : Checked Settings :=
  let d := defaults
  Settings.mk
    <$> field "environment" Environment.read d.environment ms
    <*> field "export_local_max_bytes" Read.whole d.localMaxBytes ms
    <*> field "export_remote_url" Read.text d.remoteUrl ms
    <*> field "export_remote_timeout_s" Read.seconds d.remoteTimeout ms
    <*> field "export_fetch_timeout_s" Read.seconds d.fetchTimeout ms
    <*> field "ffmpeg_binary" Read.text d.ffmpeg ms
    <*> field "ffprobe_binary" Read.text d.ffprobe ms
    <*> field "engine_workspace_root" Read.text d.workspaceRoot ms
    <*> field "export_video_preset" Read.text d.videoPreset ms
    <*> field "worker_video_preset" Read.text d.workerVideoPreset ms
    <*> field "export_crf" Read.whole d.crf ms
    <*> field "export_audio_bitrate" Read.text d.audioBitrate ms
    <*> field "worker_concurrency_limit" Read.whole d.workerConcurrency ms
    <*> field "worker_max_upload_bytes" Read.whole d.workerMaxUploadBytes ms
    <*> field "worker_tmp_root" Read.text d.workerRoot ms
    <*> field "otel_endpoint" Read.text d.tracingEndpoint ms
    <*> field "otel_tracing_enabled" Read.boolean d.tracingEnabled ms
    <*> field "log_dir" Read.text d.logDirectory ms
    <*> field "log_level" Read.text d.logLevel ms
    <*> field "log_json_console" Read.boolean d.logJsonConsole ms

/-- Settings from values given in code and from environment variables; the given values win. -/
def decode (environment : List Variable) (given : List (String × Json)) : Checked Settings :=
  match environment.findSome? Variable.fault? with
  | some f => .broken f
  | none =>
    let fromEnvironment := environment.map fun v => (v.key, Json.str v.value)
    ofMembers (Json.ofMembers (fromEnvironment ++ given))

end Settings

end Montage
