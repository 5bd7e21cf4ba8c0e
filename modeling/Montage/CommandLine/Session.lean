import Montage.CommandLine.Options
import Montage.Rehearsal.OfficeScript

/-!
# Sessions

A session is one export from the command line: it reads a timeline, exports it while it prints the
progress, and writes the video.

* `Session` — what was printed, how it ended, and the host afterwards.
* `Session.run` — a whole session.

A failure of the export is told in one line; a fault outside of it breaks the session off.
-/

namespace Montage

open CommandLine (Options)

/-- What a call of the command line comes to, with the host after it. -/
structure Session where
  /-- How it ended: with an exit code, or broken off. -/
  ending : Exit Nat
  /-- What was printed, line by line. -/
  printed : List String := []
  complaints : List String := []
  host : Host

namespace Session

/-! ## Files -/

/-- Text with every line end as a line feed. -/
def plainLines : List Char → List Char
  | [] => []
  | '\r' :: '\n' :: rest => '\n' :: plainLines rest
  | '\r' :: rest => '\n' :: plainLines rest
  | c :: rest => c :: plainLines rest

/-- A path that can be handed to the operating system. -/
def usable (path : Path) : Except Fault Path :=
  match Studio.pathFault? path with
  | some f => .error f
  | none => .ok path

/-- The timeline in a file. -/
def readPayload (h : Host) (path : Path) : Except Fault Json := do
  let path ← usable path
  let content ← (Host.reading path (h.disk.read h.here path)).mapError .os
  let text ← (Text.decodeUtf8 content).mapError .undecodable
  (Json.parse (String.ofList (plainLines text.toList))).mapError .badJson

/-- Writes the video, its directory being made if it is missing. -/
def writeFile (h : Host) (path : Path) (content : ByteArray) : Except Fault Unit × Host :=
  match usable path.parent with
  | .error f => (.error f, h)
  | .ok parent =>
    match h.makeDirectories parent with
    | (.error e, h) => (.error (.os e), h)
    | (.ok (), h) =>
      match usable path with
      | .error f => (.error f, h)
      | .ok path =>
        let (reply, h) := h.changing path (h.disk.write h.here path content)
        (reply.mapError .os, h)

/-! ## Words -/

/-- A text with blanks before it, at least `width` characters. -/
def padded (width : Nat) (text : String) : String :=
  "".pushn ' ' (width - text.length) ++ text

/-- The line that is printed for an event. -/
def progressLine (e : ProgressEvent) : String :=
  s!"[{padded 5 (e.progress.placesText 1)}%] {e.message}"

/-- The line that is printed for a failure, with its kind and its words. -/
def failureLine (e : ExportFailure) : String := s!"导出失败（{e.kind.name}）：{e.message}"

/-- The line that is printed for a video that was written. -/
def doneLine (path : Path) (v : Video) : String :=
  s!"导出完成：{path.text}（{v.mebibytes.placesText 2}MB，后端 {v.backend.name}）"

/-- The exit code of a call that has written its video. -/
def succeeded : Nat := 0

/-- The exit code of any other call. -/
def failed : Nat := 1

/-! ## The session -/

/-- Prepares the engine if that is wanted. -/
def prepare {s : OfficeSetup} (p : OfficePerformance s) (wanted : Bool) :
    Exit Unit × OfficePerformance s :=
  if wanted then
    match OfficePerformance.perform p .preload with
    | (.loaded x, p) => (x, p)
    | (_, p) => (.returned (), p)
  else (.returned (), p)

/-- What follows an export. -/
def conclude (o : Options) (h : Host) (printed : List String) : Exit Video → Session
  | .returned v =>
    match o.output with
    | none => { ending := .failed (.unexpected .noDestination), printed, host := h }
    | some path =>
      match writeFile h path v.content with
      | (.ok (), h) =>
        { ending := .returned succeeded, printed := printed ++ [doneLine path v], host := h }
      | (.error f, h) => { ending := .failed (.unexpected f), printed, host := h }
  | .failed (.expected e) =>
    { ending := .returned failed, printed, complaints := [failureLine e], host := h }
  | .failed (.unexpected f) => { ending := .failed (.unexpected f), printed, host := h }
  | .cancelled => { ending := .cancelled, printed, host := h }

/-- Exports a timeline. -/
def exportPayload {s : OfficeSetup} (p : OfficePerformance s) (o : Options) (payload : Json) :
    Session :=
  match OfficePerformance.perform p (.request payload false []) with
  | (.requested x events _, p) => conclude o p.world.host (events.map progressLine) x
  | (_, p) => { ending := .cancelled, host := p.world.host }

/-- A whole session. -/
def run (s : OfficeSetup) (h : Host) (o : Options) : Session :=
  match readPayload h o.timeline with
  | .error f => { ending := .failed (.unexpected f), host := h }
  | .ok payload =>
    let p : OfficePerformance s := .ofHost h
    match prepare p o.preload with
    | (.returned (), p) => exportPayload p o payload
    | (.failed e, p) => { ending := .failed e, host := p.world.host }
    | (.cancelled, p) => { ending := .cancelled, host := p.world.host }

/-- What is in the file for the video afterwards, if there is one. -/
def video? (session : Session) (o : Options) : Option ByteArray := do
  let path ← o.output
  (session.host.disk.read session.host.here path).toOption

end Session

end Montage
