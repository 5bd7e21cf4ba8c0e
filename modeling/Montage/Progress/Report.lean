import Montage.Field.Read
import Montage.Text.Encoding

/-!
# Progress reports of a rendering

The renderer reports how much of the video is finished, in lines of a key and a value.

* `processedSeconds` — the seconds that a line reports; other lines report nothing.
* `percentOf` — a number of seconds as a part of the whole, never above a hundred.
* `newMaximum?` — a report counts only if it is above all earlier ones.
-/

namespace Montage.Report

/-- The keys of a finished time.  Both count microseconds, whatever the second one says. -/
def keys : List String := ["out_time_us", "out_time_ms"]

/-- The microseconds that a line reports, if its key is one of `keys` and its value an integer that
is not negative. -/
def microseconds? (line : List Char) : Option Nat :=
  match Text.cutAt '=' (Text.trim line) with
  | (key, some value) =>
    if keys.contains (String.ofList key) then
      match Text.Numeral.integer? value with
      | some (.ofNat n) => some n
      | _ => none
    else none
  | _ => none

/-- The seconds that a line reports.  A time beyond all numbers is a fault, and so the end of the
rendering that reads it. -/
def processedSeconds (line : List Char) : Except Fault (Option Binary64) :=
  match microseconds? line with
  | none => .ok none
  | some n => (Binary64.ofRatio? n 1000000).map some

/-- Seconds as a percentage of a duration, at most a hundred; a program may go on beyond the
duration. -/
def percentOf (seconds duration : Binary64) : Binary64 :=
  Binary64.minFirst 100 (seconds / duration * 100)

/-- The percentage that a line of output reports, if it is above the last one.  So what is noted of
a program increases, whatever the order of its reports. -/
def newMaximum? (duration last : Binary64) (line : ByteArray) :
    Except Fault (Option Binary64) := do
  match ← processedSeconds (Text.lossyChars line) with
  | none => return none
  | some seconds =>
    let percent := percentOf seconds duration
    return if Binary64.lt last percent then some percent else none

end Montage.Report
