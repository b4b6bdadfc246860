/-!
# Clocks

The date and the time of day of a moment that is counted in seconds from the start
of 1970, and the two forms in which they are written: in the log and in a header.
-/

namespace Shortlink.Clock

/-- A date and a time of day. -/
structure Calendar where
  year : Nat
  /-- The month, from one on. -/
  month : Nat
  /-- The day of the month, from one on. -/
  day : Nat
  /-- The day of the week, from Sunday, which is zero. -/
  weekday : Nat
  hour : Nat
  minute : Nat
  second : Nat
  deriving DecidableEq, Repr

/-- The days from the first of March of the year zero to the start of 1970. -/
def daysBefore1970 : Nat := 719468

/-- The date and the time of day after some seconds.  Years are counted from March,
so that a leap day is the last one of its year. -/
def Calendar.ofSeconds (seconds : Nat) : Calendar :=
  let days := seconds / 86400
  let time := seconds % 86400
  let shifted := days + daysBefore1970
  let era := shifted / 146097
  let dayOfEra := shifted % 146097
  let yearOfEra := (dayOfEra - dayOfEra / 1460 + dayOfEra / 36524 - dayOfEra / 146096) / 365
  let dayOfYear := dayOfEra - (365 * yearOfEra + yearOfEra / 4 - yearOfEra / 100)
  let monthFromMarch := (5 * dayOfYear + 2) / 153
  let month := if monthFromMarch < 10 then monthFromMarch + 3 else monthFromMarch - 9
  { year := yearOfEra + era * 400 + (if month ≤ 2 then 1 else 0)
    month
    day := dayOfYear - (153 * monthFromMarch + 2) / 5 + 1
    weekday := (days + 4) % 7
    hour := time / 3600
    minute := time / 60 % 60
    second := time % 60 }

/-- A number with leading zeros up to a width. -/
def padded (width number : Nat) : String :=
  let digits := Nat.toDigits 10 number
  String.ofList (List.replicate (width - digits.length) '0' ++ digits)

/-- A time of day. -/
def Calendar.timeText (calendar : Calendar) : String :=
  ":".intercalate ([calendar.hour, calendar.minute, calendar.second].map (padded 2))

/-- A moment as it stands in the log, with the microseconds that have passed since
the last full second. -/
def Calendar.logText (calendar : Calendar) (microseconds : Nat) : String :=
  padded 4 calendar.year ++ "-" ++ padded 2 calendar.month ++ "-" ++ padded 2 calendar.day ++
    "T" ++ calendar.timeText ++ "." ++ padded 6 microseconds ++ "Z"

/-- The days of the week. -/
def weekdayNames : List String := ["Sun", "Mon", "Tue", "Wed", "Thu", "Fri", "Sat"]

def monthNames : List String :=
  ["Jan", "Feb", "Mar", "Apr", "May", "Jun", "Jul", "Aug", "Sep", "Oct", "Nov", "Dec"]

/-- A moment as it stands in a header. -/
def Calendar.headerText (calendar : Calendar) : String :=
  weekdayNames.getD calendar.weekday "" ++ ", " ++ padded 2 calendar.day ++ " " ++
    monthNames.getD (calendar.month - 1) "" ++ " " ++ padded 4 calendar.year ++ " " ++
    calendar.timeText ++ " GMT"

end Shortlink.Clock
