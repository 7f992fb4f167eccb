/-!
# Days of the calendar

Moments are counted from the beginning of 1970, in seconds or in parts of a second.  `Day.ofCount`
finds the day that so many days lead to.

* `TimeOfDay.ofSeconds` — the time of day in a number of seconds.
-/

set_option autoImplicit false

namespace PollTunnel

/-- A day of the calendar. -/
structure Day where
  year : Nat
  month : Nat
  day : Nat
  deriving DecidableEq, Repr, Inhabited

namespace Day

/-- The day that is so many days behind the first of January 1970.  Years begin with March here, so
that a leap day is the last of its year, and eras have four hundred of them. -/
def ofCount (days : Nat) : Day :=
  let days := days + 719468
  let inEra := days % 146097
  let yearOfEra := (inEra - inEra / 1460 + inEra / 36524 - inEra / 146096) / 365
  let inYear := inEra - (365 * yearOfEra + yearOfEra / 4 - yearOfEra / 100)
  let shifted := (5 * inYear + 2) / 153
  let month := if shifted < 10 then shifted + 3 else shifted - 9
  { year := yearOfEra + 400 * (days / 146097) + (if month ≤ 2 then 1 else 0)
    month
    day := inYear - (153 * shifted + 2) / 5 + 1 }

example : ofCount 0 = ⟨1970, 1, 1⟩ := by decide
example : ofCount 11016 = ⟨2000, 2, 29⟩ := by decide
example : ofCount 11017 = ⟨2000, 3, 1⟩ := by decide

/-- The short names of the months. -/
def monthNames : List String :=
  ["Jan", "Feb", "Mar", "Apr", "May", "Jun", "Jul", "Aug", "Sep", "Oct", "Nov", "Dec"]

/-- The short name of a day's month. -/
def monthName (d : Day) : String := monthNames.getD (d.month - 1) ""

/-- The short names of the days of the week, from the first of January 1970 on. -/
def weekdayNames : List String := ["Thu", "Fri", "Sat", "Sun", "Mon", "Tue", "Wed"]

/-- The short name of the day of the week that is so many days behind the first of January 1970. -/
def weekdayName (days : Nat) : String := weekdayNames.getD (days % 7) ""

end Day

/-- A time of day. -/
structure TimeOfDay where
  hour : Nat
  minute : Nat
  second : Nat
  deriving DecidableEq, Repr, Inhabited

namespace TimeOfDay

/-- The seconds of a day. -/
def daySeconds : Nat := 24 * 60 * 60

/-- The time of day after so many seconds. -/
def ofSeconds (seconds : Nat) : TimeOfDay :=
  { hour := seconds / 3600 % 24, minute := seconds / 60 % 60, second := seconds % 60 }

/-- A number with at least so many digits. -/
def padded (width n : Nat) : String :=
  let digits := toString n
  String.ofList (List.replicate (width - digits.length) '0') ++ digits

/-- Hours, minutes and seconds, two digits each. -/
def text (t : TimeOfDay) : String :=
  padded 2 t.hour ++ ":" ++ padded 2 t.minute ++ ":" ++ padded 2 t.second

end TimeOfDay
end PollTunnel
