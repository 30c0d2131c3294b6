-- Times as log lines show them: date, time of day and microseconds, in universal time.
import SearchQuery.Text.Digit

namespace SearchQuery.Log

/-- Year, month and day of a number of days since the start of 1970. Years are counted from
March on, so that the leap day comes last; 146097 days make four hundred years. -/
def dateOf (days : Nat) : Nat × Nat × Nat :=
  let days := days + 719468
  let rest := days % 146097
  let year := (rest - rest / 1460 + rest / 36524 - rest / 146096) / 365
  let day := rest - (365 * year + year / 4 - year / 100)
  let month := (5 * day + 2) / 153
  let year := year + 400 * (days / 146097)
  let dayOfMonth := day - (153 * month + 2) / 5 + 1
  if month < 10 then (year, month + 3, dayOfMonth) else (year + 1, month - 9, dayOfMonth)

/-- The time that is so many microseconds after the start of 1970. -/
def timeText (microseconds : Nat) : String :=
  let seconds := microseconds / 1000000
  let (year, month, day) := dateOf (seconds / 86400)
  let inDay := seconds % 86400
  let fraction := microseconds % 1000000
  let pair := Text.zeroPadded 2
  Text.zeroPadded 4 year ++ "-" ++ pair month ++ "-" ++ pair day ++ "T" ++
    pair (inDay / 3600) ++ ":" ++ pair (inDay / 60 % 60) ++ ":" ++ pair (inDay % 60) ++
    (if fraction == 0 then "" else "." ++ Text.zeroPadded 6 fraction) ++ "Z"

example : timeText 951782400000000 = "2000-02-29T00:00:00Z" := by decide +kernel
example : timeText 1735689599000001 = "2024-12-31T23:59:59.000001Z" := by decide +kernel

end SearchQuery.Log
