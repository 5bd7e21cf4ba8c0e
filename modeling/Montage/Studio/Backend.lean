import Montage.Export.Run
import Montage.Studio.Classification
import Montage.Studio.RemoteBackend

/-!
# Backends of the studio

* `Backend` — how a backend executes and cleans up; `Backend.ofKind` has the two of them.
* `studioServices` — what the runs of the studio rely on.
-/

namespace Montage

/-- How a backend executes a graph and cleans up after it.  What runs rely on of it is gathered in
`studioServices`. -/
structure Backend where
  execute : Graph → Timeline → Payloads → NotingRoutine ProgressUpdate ByteArray
  cleanup : StudioRoutine Unit
  /-- How it is prepared, if it needs to be. -/
  preload : Option (StudioRoutine Unit)

namespace Backend

/-- The local engine as a backend; it can be loaded ahead of time (`Engine.load`). -/
def onEngine (settings : Settings) : Backend where
  execute := LocalBackend.execute settings
  cleanup := LocalBackend.cleanup
  preload := some Engine.load

/-- The remote worker as a backend.  It compiles its own graph, so the one it is given is dropped,
and there is nothing to prepare. -/
def onWorker (settings : Settings) : Backend where
  execute _ := RemoteBackend.execute settings
  cleanup := RemoteBackend.cleanup
  preload := none

/-- The backend of each kind, both of them with the same settings. -/
def ofKind (settings : Settings) : BackendKind → Backend
  | .localEngine => onEngine settings
  | .remoteWorker => onWorker settings

end Backend

/-- What the runs of the studio rely on: files are read from disk and network, redirects being
followed, and the backends are the given ones. -/
def studioServices (settings : Settings) (freshId : String) (backend : BackendKind → Backend) :
    Services Studio where
  threshold := settings.localMaxBytes
  freshId := freshId
  classify := Classification.classify true
  execute kind := (backend kind).execute
  cleanup kind := (backend kind).cleanup
  preload := (backend .localEngine).preload

end Montage
