import Montage.Payloads

/-!
# Phases of an export

Each phase reports its own progress from 0 to 100.  To the outside these are parts of one bar: every
phase has a band of it.

* `Phase.band` — the band of a phase; the bands follow each other without gaps.
* `Phase.place` — a progress within a phase as a place on the whole bar, to two places.
-/

namespace Montage

/-- The phases that users are told of, each with its own part of the whole bar (`Phase.band`). -/
inductive Phase where
  | classifying
  | preparing
  | processing
  | finalizing
  deriving DecidableEq, Repr

namespace Phase

/-- The name of a phase in events. -/
def name : Phase → String
  | classifying => "classifying"
  | preparing => "preparing"
  | processing => "processing"
  | finalizing => "finalizing"

/-- All phases, in the order in which an export goes through them. -/
def all : List Phase := [classifying, preparing, processing, finalizing]

/-- The phase that a value names. -/
def ofJson (j : Json) : Except Fault Phase :=
  match all.find? fun p => j.isText p.name with
  | some p => .ok p
  | none => .error (.unknownPhase j.nestedText)

/-- The part of the whole bar that belongs to a phase. -/
def band : Phase → Binary64 × Binary64
  | classifying => (0, 10)
  | preparing => (10, 50)
  | processing => (50, 90)
  | finalizing => (90, 100)

/-- A progress between 0 and 100.  What is no number counts as 0, since it is below nothing and
above nothing. -/
def clamp (progress : Binary64) : Binary64 :=
  Binary64.minFirst 100 (Binary64.maxFirst 0 progress)

/-- The place on the whole bar of a progress within a phase: as far into the band of the phase as
the progress goes, with two places. -/
def place (phase : Phase) (progress : Binary64) : Binary64 :=
  let (low, high) := phase.band
  Binary64.roundPlaces 2 (low + (high - low) * clamp progress / 100)

end Phase

end Montage
