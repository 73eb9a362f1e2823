/-!
Moments in universal time, and the day and the time of day that they fall on in the Gregorian
calendar, which is taken to hold for all years.
-/
namespace LinkShot

/-- Seconds since the first moment of 1970. From a full second on, `nanos` counts into a leap second
that follows. -/
structure Moment where
  seconds : Int
  nanos : Nat
  deriving DecidableEq, Repr

namespace Calendar

def secondsPerDay : Int := 86400

/-- Days in four hundred years. -/
def daysPerCycle : Int := 146097

structure Date where
  year : Int
  month : Nat
  day : Nat
  deriving DecidableEq, Repr

def isLeap (year : Int) : Bool := year % 4 = 0 ∧ (year % 100 ≠ 0 ∨ year % 400 = 0)

/-- Days before the first of January of the `n`-th year of a cycle of four hundred years, the first
of which is a leap year. -/
def daysBefore (n : Nat) : Nat := 365 * n + (n + 3) / 4 - (n + 99) / 100 + (n + 399) / 400

def monthLengths (leap : Bool) : List Nat :=
  [31, if leap then 29 else 28, 31, 30, 31, 30, 31, 31, 30, 31, 30, 31]

/-- The month and the day of the month, from the days since the first day of the month `month`. -/
def monthDay (month : Nat) : List Nat → Nat → Nat × Nat
  | [], days => (month, days + 1)
  | length :: rest, days =>
    if days < length then (month, days + 1) else monthDay (month + 1) rest (days - length)

/-- Days from the first of January 2000, with which a cycle begins, to 1970. -/
def daysTo1970 : Int := -10957

/-- The date that lies a number of days after the first of January 1970. -/
def dateOf (days : Int) : Date :=
  let since := days + daysTo1970
  let inCycle := (since % daysPerCycle).toNat
  let year := (inCycle / 365) - if daysBefore (inCycle / 365) ≤ inCycle then 0 else 1
  let number := 2000 + 400 * (since / daysPerCycle) + year
  let (month, day) := monthDay 1 (monthLengths (isLeap number)) (inCycle - daysBefore year)
  ⟨number, month, day⟩

/-- The first of January 1970 was a Thursday. -/
def weekday (days : Int) : Nat := ((days + 4) % 7).toNat

def weekdayNames : List String :=
  ["Sunday", "Monday", "Tuesday", "Wednesday", "Thursday", "Friday", "Saturday"]

def monthNames : List String :=
  ["January", "February", "March", "April", "May", "June", "July", "August", "September",
    "October", "November", "December"]

/-- A number with zeros before it up to a width. -/
def padded (width n : Nat) : String :=
  let digits := (toString n).toList
  String.ofList (List.replicate (width - digits.length) '0' ++ digits)

/-- Years have four digits at least, and a sign outside of four digits. -/
def yearText (year : Int) : String :=
  if year < 0 then "-" ++ padded 4 year.natAbs
  else if year > 9999 then "+" ++ padded 4 year.natAbs
  else padded 4 year.natAbs

def dayOf (m : Moment) : Int := m.seconds / secondsPerDay

/-- For instance `Monday, October 19, 2026`. -/
def dateText (m : Moment) : String :=
  let date := dateOf (dayOf m)
  weekdayNames.getD (weekday (dayOf m)) "" ++ ", " ++ monthNames.getD (date.month - 1) "" ++ " "
    ++ toString date.day ++ ", " ++ yearText date.year

/-- For instance `14:03:22`; a leap second is shown as `60`. -/
def timeText (m : Moment) : String :=
  let second := (m.seconds % secondsPerDay).toNat
  padded 2 (second / 3600) ++ ":" ++ padded 2 (second / 60 % 60) ++ ":"
    ++ padded 2 (second % 60 + m.nanos / 1000000000)

end Calendar
end LinkShot
