/-
Elapsed time as a clock shows it: hours, minutes and seconds.

Hours are not folded into days, and what is below a second is dropped.
While the end is unknown the time is measured up to the present.
-/
import BatchAdmin.Time.Instant
import BatchAdmin.Text.Numeral

namespace BatchAdmin.Elapsed

open Text

/-- Milliseconds as `HH:MM:SS`, with more digits where the hours need
them. -/
def clock (millis : Nat) : String :=
  let secs := millis / 1000
  String.ofList (writePadded 2 (secs / 3600)
    ++ ':' :: writePadded 2 (secs % 3600 / 60)
    ++ ':' :: writePadded 2 (secs % 60))

/-- The time from `start` to `stop`, or to `now` while there is no
stop; nothing while there is no start either. -/
def between (start stop : Option Instant) (now : Instant) :
    Option String :=
  start.map fun s => clock (s.millisBetween (stop.getD now))

end BatchAdmin.Elapsed
