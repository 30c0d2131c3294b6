-- Dates, alone or with a time of day, and how they are written. A time of day may be told
-- with its distance from universal time; without one it is a local time.
import SearchQuery.Fault

namespace SearchQuery

/-- A time of day. -/
structure DayTime where
  hour : Nat
  minute : Nat
  second : Nat
  microsecond : Nat := 0
  /-- The minutes that the clock is ahead of universal time, if that is told. -/
  ahead : Option Int := none
  deriving DecidableEq, Repr

/-- A date, alone or with a time of day. -/
structure Moment where
  year : Nat
  month : Nat
  day : Nat
  time : Option DayTime := none
  deriving DecidableEq, Repr

namespace Moment

/-! ## The calendar -/

def isLeap (year : Nat) : Bool := year % 4 == 0 && (year % 100 != 0 || year % 400 == 0)

/-- The number of days in a month. -/
def daysIn (year month : Nat) : Nat :=
  if month == 2 then (if isLeap year then 29 else 28)
  else if month == 4 || month == 6 || month == 9 || month == 11 then 30
  else 31

/-- The number of days before a year, counted from the first year on. -/
def daysBeforeYear (year : Nat) : Nat :=
  let y := year - 1
  365 * y + y / 4 - y / 100 + y / 400

/-- The number of a day, counted from the first one of the first year on. -/
def dayNumber (m : Moment) : Nat :=
  daysBeforeYear m.year +
    (((List.range m.month).drop 1).map (daysIn m.year)).foldl (· + ·) 0 + m.day

/-- There is such a date. -/
def checkDate (year month day : Nat) : Except Fault Unit :=
  if year == 0 then .error (.yearOutOfRange year)
  else if month == 0 || 12 < month then .error .monthOutOfRange
  else if day == 0 || daysIn year month < day then .error .dayOutOfRange
  else .ok ()

/-- There is such a time of day. -/
def checkTime (t : DayTime) : Except Fault Unit :=
  if 23 < t.hour then .error (.clockOutOfRange "hour" 23)
  else if 59 < t.minute then .error (.clockOutOfRange "minute" 59)
  else if 59 < t.second then .error (.clockOutOfRange "second" 59)
  else .ok ()

/-! ## Writing -/

/-- A span of minutes as days and the seconds that are left. -/
def spanShown (minutes : Int) : String :=
  let days := minutes / 1440
  let seconds := 60 * (minutes % 1440)
  let parts := (if days == 0 then [] else ["days=" ++ toString days]) ++
    (if seconds == 0 then [] else ["seconds=" ++ toString seconds])
  "datetime.timedelta(" ++ (if parts.isEmpty then "0" else ", ".intercalate parts) ++ ")"

/-- The clock is less than a day ahead of universal time, or behind it. -/
def checkAhead (minutes : Int) : Except Fault Unit :=
  if minutes.natAbs < 1440 then .ok () else .error (.offsetOutOfRange (spanShown minutes))

/-- The distance from universal time as it stands inside a moment. -/
def aheadShown : Option Int → String
  | none => ""
  | some 0 => ", tzinfo=datetime.timezone.utc"
  | some minutes => ", tzinfo=datetime.timezone(" ++ spanShown minutes ++ ")"

/-- The numbers of a time of day. Seconds and their parts are left out if they are zero. -/
def timeNumbers (t : DayTime) : List Nat :=
  [t.hour, t.minute] ++
    (if t.microsecond != 0 then [t.second, t.microsecond]
     else if t.second != 0 then [t.second] else [])

/-- A moment as it stands inside other values. -/
def shown (m : Moment) : String :=
  let listed (ns : List Nat) := ", ".intercalate (ns.map toString)
  match m.time with
  | none => "datetime.date(" ++ listed [m.year, m.month, m.day] ++ ")"
  | some t =>
    "datetime.datetime(" ++ listed ([m.year, m.month, m.day] ++ timeNumbers t) ++
      aheadShown t.ahead ++ ")"

/-- A distance from universal time with its sign. -/
def aheadText : Option Int → String
  | none => ""
  | some minutes =>
    let size := minutes.natAbs
    (if minutes < 0 then "-" else "+") ++ Text.zeroPadded 2 (size / 60) ++ ":" ++
      Text.zeroPadded 2 (size % 60)

/-- A moment on its own. -/
def text (m : Moment) : String :=
  let pair := Text.zeroPadded 2
  let date := Text.zeroPadded 4 m.year ++ "-" ++ pair m.month ++ "-" ++ pair m.day
  match m.time with
  | none => date
  | some t =>
    date ++ " " ++ pair t.hour ++ ":" ++ pair t.minute ++ ":" ++ pair t.second ++
      (if t.microsecond == 0 then "" else "." ++ Text.zeroPadded 6 t.microsecond) ++
      aheadText t.ahead

/-- The name of a moment's type. -/
def typeName (m : Moment) : String :=
  if m.time.isNone then "datetime.date" else "datetime.datetime"

/-! ## Comparing -/

/-- Microseconds of universal time since the first day, if the clock is told. -/
def instant? (m : Moment) : Option Int := do
  let t ← m.time
  let ahead ← t.ahead
  let minutes : Int := m.dayNumber * 1440 + t.hour * 60 + t.minute - ahead
  return (minutes * 60 + t.second) * 1000000 + t.microsecond

/-- Two moments are the same: told with a clock they are the same instant. -/
def same (a b : Moment) : Bool :=
  match a.instant?, b.instant? with
  | some x, some y => x == y
  | none, none => a == b
  | _, _ => false

end Moment

example : (Moment.mk 2024 1 1 none).shown = "datetime.date(2024, 1, 1)" := by decide +kernel

end SearchQuery
