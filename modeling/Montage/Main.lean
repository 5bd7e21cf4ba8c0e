import Montage.CommandLine.Session

/-!
# The command line

Reads a timeline and the files it names, exports it, and writes the video.  Nothing is asked of
other programs or of the network: a host without them answers, so an export that needs one of them
ends with the failure that belongs to it.
-/

namespace Montage.CommandLine

/-- How the program is called. -/
def usage : String := "usage: montage [-h] [-o OUTPUT] [--preload] timeline"

/-- The files that a timeline names. -/
def filesOf (payload : Json) : List Path :=
  match Timeline.ofPayload "" payload with
  | .ok t => t.sources.filterMap fun source => (Reference.toPath source).toOption
  | .error _ => []

/-- A program that is not there. -/
def absent : ProgramScript :=
  { refusal := some (OsError.notFoundNumber, "No such file or directory") }

/-- A host with some files, and without programs or a network. -/
def bareHost (here : Place) (disk : Disk) : Host :=
  { disk, here
    versions := ⟨absent, []⟩
    probes := ⟨absent, []⟩
    renderings := ⟨absent, []⟩ }

/-- The office of the program: the usual settings and its own backends. -/
def setup : OfficeSetup :=
  { settings := .defaults, freshId := "auto", backend := .ofKind .defaults }

/-! ## Input and output -/

/-- Copies a file to a disk, if it can be read. -/
def copyFile (here : Place) (disk : Disk) (path : Path) : IO Disk := do
  match ← (IO.FS.readBinFile path.text).toBaseIO with
  | .ok content => return disk.furnish here path content
  | .error _ => return disk

/-- The host for a session: a copy of the files that it reads. -/
def loadHost (o : Options) : IO Host := do
  let here := (Path.ofText (← IO.currentDir).toString).parts
  let root := (({} : Disk).makeDirectories [] ⟨.slash, here⟩).toOption.getD {}
  let disk ← copyFile here root o.timeline
  let host := bareHost here disk
  match Session.readPayload host o.timeline with
  | .ok payload => return { host with disk := ← (filesOf payload).foldlM (copyFile here) disk }
  | .error _ => return host

/-- Prints what a session printed and stores its video. -/
def report (o : Options) (session : Session) : IO UInt32 := do
  session.printed.forM IO.println
  session.complaints.forM IO.eprintln
  match session.ending with
  | .returned code =>
    if let (some path, some content) := (o.output, session.video? o) then
      if code = Session.succeeded then
        IO.FS.createDirAll path.parent.text
        IO.FS.writeBinFile path.text content
    return code.toUInt32
  | .failed e => do
    IO.eprintln e.message
    return 1
  | .cancelled => return 1

/-- Does what the arguments ask for. -/
def start (arguments : List String) : IO UInt32 := do
  match read arguments with
  | .help => do
    IO.println usage
    return 0
  | .rejected => do
    IO.eprintln usage
    return 2
  | .run o => report o (Session.run setup (← loadHost o) o)

end Montage.CommandLine

/-- The program. -/
def main (arguments : List String) : IO UInt32 := Montage.CommandLine.start arguments
