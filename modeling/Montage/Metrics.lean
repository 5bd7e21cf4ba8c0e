import Montage.Payloads

/-!
# Metrics

What is counted about exports: how they end, how long they take, how much they read, and how loading
the engine goes.

* `Metric` — one record: an instrument, a value, and labels; a label without a value is left out.

Durations are measured outside; a record of one carries no value here.
-/

namespace Montage

/-- One entry in the metrics: which instrument, by how much, and with which labels.  Times are not
modelled, so an entry of a duration has no value. -/
structure Metric where
  instrument : String
  value : Option Int
  labels : List (String × String)
  deriving DecidableEq

namespace Metric

/-- A label, unless its value is missing or empty. -/
def label (name : String) (value : Option String) : List (String × String) :=
  match value with
  | none => []
  | some "" => []
  | some v => [(name, v)]

/-- The end of an export. -/
def exportEnd (backend : Option String) (outcome : String) (reason : Option String) : Metric :=
  { instrument := "export_total", value := some 1
    labels := ("outcome", outcome) :: label "backend" backend ++ label "reason" reason }

/-- The duration of an export. -/
def exportDuration (backend : Option String) : Metric :=
  { instrument := "export_duration_ms", value := none, labels := label "backend" backend }

/-- The size of what an export read. -/
def payloadSize (totalBytes : Int) (backend : String) : Metric :=
  { instrument := "export_payload_bytes", value := some totalBytes
    labels := [("backend", backend)] }

/-- An attempt to load the engine. -/
def engineLoad (outcome : String) : Metric :=
  { instrument := "export_engine_load_total", value := some 1, labels := [("outcome", outcome)] }

/-- The outcome of an export that has a video. -/
def succeeded : String := "succeeded"

/-- The outcome of an export that has failed. -/
def failed : String := "failed"

/-- The outcome of an export that was cancelled. -/
def cancelled : String := "cancelled"

end Metric

end Montage
