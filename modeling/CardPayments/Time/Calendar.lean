import CardPayments.Text

/-!
# The calendar

Days of the years 1 to 9999 of the Gregorian calendar, counted from 0001-01-01, which is day zero and
a Monday.  `dayNumber` counts the days before a date, and `Date.ofDayNumber` finds the date again by
splitting off cycles of 400, 100, 4 and 1 years; the last year of a cycle of 400 or 4 years is the one
with the additional day, so the count of shorter cycles in it stops at three.
-/

namespace CardPayments

/-- A date by its parts, which need not exist. -/
structure Date where
  year : Nat
  /-- The month, counted from one. -/
  month : Nat
  /-- The day of the month, counted from one. -/
  day : Nat
  deriving DecidableEq

namespace Date

/-- Has the year 366 days? -/
def isLeapYear (year : Nat) : Bool := year % 4 = 0 && (year % 100 ≠ 0 || year % 400 = 0)

/-- The lengths of the months of a year. -/
def monthLengths (year : Nat) : List Nat :=
  [31, if isLeapYear year then 29 else 28, 31, 30, 31, 30, 31, 31, 30, 31, 30, 31]

/-- The number of days in the years before the given one. -/
def daysBeforeYear (year : Nat) : Nat :=
  let y := year - 1
  365 * y + y / 4 - y / 100 + y / 400

/-- The number of days before the date. -/
def dayNumber (d : Date) : Nat :=
  daysBeforeYear d.year + ((monthLengths d.year).take (d.month - 1)).foldl (· + ·) 0 + (d.day - 1)

/-- The number of days in the years 1 to 9999. -/
def dayCount : Nat := 3652059

/-- The month, counted from zero, and the day in it, counted from zero, of a day of a year. -/
def splitMonths : List Nat → Nat → Nat × Nat
  | [], day => (0, day)
  | length :: rest, day =>
    if day < length then (0, day)
    else
      let (month, left) := splitMonths rest (day - length)
      (month + 1, left)

/-- The date with the given number of days before it. -/
def ofDayNumber (n : Nat) : Date :=
  let inCycle := n % 146097
  let centuries := min 3 (inCycle / 36524)
  let inCentury := inCycle - centuries * 36524
  let inFour := inCentury % 1461
  let years := min 3 (inFour / 365)
  let year := 400 * (n / 146097) + 100 * centuries + 4 * (inCentury / 1461) + years + 1
  let (month, day) := splitMonths (monthLengths year) (inFour - years * 365)
  ⟨year, month + 1, day + 1⟩

/-- The day of the week, counted from zero for a Monday. -/
def weekday (d : Date) : Nat := d.dayNumber % 7

/-- The day number of the Monday that begins the first week of a year: the week with its first
Thursday.  In year 1 that is day zero itself. -/
def firstWeekStart (year : Nat) : Int :=
  let first : Int := daysBeforeYear year
  let weekday := first % 7
  if 3 < weekday then first - weekday + 7 else first - weekday

/-- The number of weeks of a year: 53 when it begins on a Thursday, or on a Wednesday with a day more. -/
def weekCount (year : Nat) : Nat :=
  let first := weekday ⟨year, 1, 1⟩
  if first = 3 ∨ (first = 2 ∧ isLeapYear year) then 53 else 52

end Date

end CardPayments
