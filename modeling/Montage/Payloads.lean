import Montage.Field.Read

/-!
# Payloads and the choice of a backend

All files of an export are read before it is decided where it runs.

* `Payloads` — the bytes of the files, in the order of the timeline.
* `BackendKind` — the local engine or the remote worker.
* `chooseBackend` — **up to the threshold, the threshold included, an export runs locally**.
-/

namespace Montage

/-- Where an export runs. -/
inductive BackendKind where
  | localEngine
  | remoteWorker
  deriving DecidableEq, Repr

namespace BackendKind

/-- The name of a backend in metrics and results. -/
def name : BackendKind → String
  | localEngine => "local"
  | remoteWorker => "remote"

/-- The backend of a name. -/
def ofName? (s : String) : Option BackendKind :=
  if s = localEngine.name then some localEngine
  else if s = remoteWorker.name then some remoteWorker
  else none

/-- The backend that a value names. -/
def ofJson (j : Json) : Except Fault BackendKind :=
  match j with
  | .str s => (ofName? s).elim (.error (.unknownBackend j.nestedText)) .ok
  | _ => .error (.unknownBackend j.nestedText)

end BackendKind

/-- The files of an export, those of the clips apart from those of the images; each list is in the
order of the timeline. -/
structure Payloads where
  clips : List ByteArray
  images : List ByteArray := []
  deriving DecidableEq

/-- The summed sizes of some files. -/
def totalSize : List ByteArray → Nat
  | [] => 0
  | file :: rest => file.size + totalSize rest

/-- The number of bytes in a mebibyte. -/
def mebibyte : Nat := 1024 * 1024

/-- A size in mebibytes, as a number. -/
def mebibytes (bytes : Nat) : Binary64 := .ofRatio bytes mebibyte

/-- A size in mebibytes with two places. -/
def sizeText (bytes : Nat) : String := (mebibytes bytes).placesText 2

namespace Payloads

/-- The summed size of all files; this is what the choice of the backend depends on. -/
def totalBytes (p : Payloads) : Nat := totalSize p.clips + totalSize p.images

/-- The summed size in mebibytes, with two places, as users are told it. -/
def sizeText (p : Payloads) : String := Montage.sizeText p.totalBytes

/-- All files: first the clips, then the images.  This is the order of the streams
(`Timeline.inputNames`). -/
def files (p : Payloads) : List ByteArray := p.clips ++ p.images

/-- Files in order, cut after so many clips. -/
def ofFiles (clips : Nat) (files : List ByteArray) : Payloads :=
  ⟨files.take clips, files.drop clips⟩

end Payloads

/-- Where an export of so many bytes runs: on the local engine exactly up to the threshold
(`chooseBackend_eq_local_iff`), and on the remote worker beyond it. -/
def chooseBackend (totalBytes : Int) (threshold : Int) : BackendKind :=
  if totalBytes ≤ threshold then .localEngine else .remoteWorker

end Montage
