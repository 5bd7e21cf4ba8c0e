import Montage.Rehearsal.Performance
import Montage.Studio.Backend

/-!
# Rehearsals of a backend

* `BackendReply` — what comes of a routine of a backend.
* `rehearseBackend` — executions that start together on one backend, and the cleanup after them.
-/

namespace Montage

/-- What comes of a routine of a backend. -/
inductive BackendReply where
  | executed (updates : List ProgressUpdate) (video : Exit ByteArray)
  | cleaned

/-- An execution with all its progress. -/
def Backend.executeAll (b : Backend) (g : Graph) (t : Timeline) (payloads : Payloads) :
    StudioRoutine BackendReply := do
  let (updates, video) ← (b.execute g t payloads).gather
  return .executed updates video

/-- Executions that start together, and the cleanup after all of them. -/
def rehearseBackend (settings : Settings) (h : Host) (b : Backend) (g : Graph) (t : Timeline)
    (payloads : Payloads) (executions : Nat) :
    List (Exit BackendReply) × Exit BackendReply × Performance settings BackendReply :=
  let routine := b.executeAll g t payloads
  let (replies, p) := (Performance.ofHost h).runAll (List.replicate executions routine)
  let (cleaned, p) := Performance.runOne p (do b.cleanup; return .cleaned)
  (replies, cleaned, p)

end Montage
