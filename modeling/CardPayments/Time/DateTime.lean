import CardPayments.Time.Calendar

/-!
# Dates with a time of day

A `LocalTime` is a date with a time of day, to the microsecond, in the years 1 to 9999; it is held as
the number of microseconds since the beginning of year 1.  A `DateTime` is either a local time alone,
or one together with its distance from universal time; only the latter denotes an instant.

`DateTime.isoText` is the ISO text: the fraction of a second is written only when there is one, and so
are the seconds of an offset.
-/

namespace CardPayments

/-! ### LocalTime -/

/-- The parts of a local time, which need not exist. -/
structure TimeFields where
  date : Date
  hour : Nat
  minute : Nat
  second : Nat
  microsecond : Nat
  deriving DecidableEq

/-- Why parts make no date and time. -/
inductive TimeFault where
  /-- There is no such year. -/
  | yearOutOfRange (year : Nat)
  /-- There is no such month. -/
  | monthOutOfRange
  /-- The month has no such day. -/
  | dayOutOfRange
  /-- There is no such hour. -/
  | hourOutOfRange
  /-- There is no such minute. -/
  | minuteOutOfRange
  /-- There is no such second. -/
  | secondOutOfRange
  /-- An offset of this many minutes is a day or more. -/
  | offsetOutOfRange (minutes : Int)
  deriving DecidableEq

/-- The number of microseconds in a second. -/
def ticksPerSecond : Nat := 1000000

/-- The number of microseconds in a day. -/
def ticksPerDay : Nat := 86400 * ticksPerSecond

/-- A date with a time of day, in the years 1 to 9999. -/
structure LocalTime where
  /-- The number of microseconds since the beginning of year 1. -/
  ticks : Nat
  /-- The years end with 9999. -/
  isLt : ticks < Date.dayCount * ticksPerDay
  deriving DecidableEq

namespace LocalTime

instance : Inhabited LocalTime := ⟨⟨0, by decide⟩⟩

/-- The local time with the given number of microseconds, if it is in range. -/
def ofTicks? (n : Int) : Option LocalTime :=
  if h : n.toNat < Date.dayCount * ticksPerDay then
    if 0 ≤ n then some ⟨n.toNat, h⟩ else none
  else none

/-- The parts of a local time. -/
def fields (t : LocalTime) : TimeFields where
  date := Date.ofDayNumber (t.ticks / ticksPerDay)
  hour := t.ticks / (3600 * ticksPerSecond) % 24
  minute := t.ticks / (60 * ticksPerSecond) % 60
  second := t.ticks / ticksPerSecond % 60
  microsecond := t.ticks % ticksPerSecond

end LocalTime

/-- The number of microseconds before the local time with the given parts. -/
def TimeFields.ticks (f : TimeFields) : Nat :=
  ((f.date.dayNumber * 24 + f.hour) * 60 + f.minute) * 60 * ticksPerSecond +
    f.second * ticksPerSecond + f.microsecond

/-- The local time with the given parts; the first part that does not exist is reported. -/
def TimeFields.toLocal (f : TimeFields) : Except TimeFault LocalTime :=
  let d := f.date
  if d.year < 1 ∨ 9999 < d.year then .error (.yearOutOfRange d.year)
  else if d.month < 1 ∨ 12 < d.month then .error .monthOutOfRange
  else if d.day < 1 ∨ ((Date.monthLengths d.year)[d.month - 1]?).getD 0 < d.day then
    .error .dayOutOfRange
  else if 23 < f.hour then .error .hourOutOfRange
  else if 59 < f.minute then .error .minuteOutOfRange
  else if 59 < f.second then .error .secondOutOfRange
  else
    match LocalTime.ofTicks? f.ticks with
    | some t => .ok t
    | none => .error (.yearOutOfRange d.year)

/-! ### Offset -/

/-- A distance from universal time: less than a day, to the microsecond. -/
structure Offset where
  /-- How many microseconds the local time is ahead. -/
  ticks : Int
  /-- The distance is less than a day. -/
  isLt : ticks.natAbs < ticksPerDay
  deriving DecidableEq

namespace Offset

/-- Universal time itself. -/
def utc : Offset := ⟨0, by decide⟩

instance : Inhabited Offset := ⟨utc⟩

/-- The offset of the given number of microseconds, if it is less than a day. -/
def ofTicks? (n : Int) : Option Offset :=
  if h : n.natAbs < ticksPerDay then some ⟨n, h⟩ else none

end Offset

/-! ### DateTime -/

/-- A local time, with or without its distance from universal time. -/
inductive DateTime where
  /-- A local time alone. -/
  | naive (time : LocalTime)
  /-- A local time and how far it is ahead of universal time. -/
  | aware (time : LocalTime) (offset : Offset)
  deriving DecidableEq

namespace DateTime

instance : Inhabited DateTime := ⟨.naive default⟩

/-- The local time of an instant at an offset: the instant is in microseconds of universal time since
the beginning of year 1. -/
def ofInstant? (instant : Int) (offset : Offset) : Option DateTime :=
  (LocalTime.ofTicks? (instant + offset.ticks)).map (.aware · offset)

/-- The instant that a local time at an offset denotes; it may lie outside the calendar. -/
def instantAt (time : LocalTime) (offset : Offset) : Int := (time.ticks : Int) - offset.ticks

/-! ### Text -/

/-- A point and six digits, unless the fraction is zero. -/
def fractionText (microseconds : Nat) : Text :=
  if microseconds = 0 then "" else "." ++ Text.ofNatPadded 6 microseconds

/-- The text of a local time. -/
def localText (t : LocalTime) : Text :=
  let f := t.fields
  Text.ofNatPadded 4 f.date.year ++ "-" ++ Text.ofNatPadded 2 f.date.month ++ "-" ++
    Text.ofNatPadded 2 f.date.day ++ "T" ++ Text.ofNatPadded 2 f.hour ++ ":" ++
    Text.ofNatPadded 2 f.minute ++ ":" ++ Text.ofNatPadded 2 f.second ++
    fractionText f.microsecond

/-- The text of an offset: hours and minutes, then seconds and their fraction as far as needed. -/
def offsetText (offset : Offset) : Text :=
  let n := offset.ticks.natAbs
  let seconds := n / ticksPerSecond
  let fraction := n % ticksPerSecond
  (if offset.ticks < 0 then "-" else "+") ++ Text.ofNatPadded 2 (seconds / 3600) ++ ":" ++
    Text.ofNatPadded 2 (seconds / 60 % 60) ++
    (if seconds % 60 = 0 ∧ fraction = 0 then Text.ofString ""
     else ":" ++ Text.ofNatPadded 2 (seconds % 60) ++ fractionText fraction)

/-- The ISO text. -/
def isoText : DateTime → Text
  | naive t => localText t
  | aware t offset => localText t ++ offsetText offset

end DateTime

/-! ### Messages -/

/-- A span of minutes, as days of either sign and a rest of seconds. -/
def spanText (minutes : Int) : Text :=
  let days := minutes.fdiv 1440
  let seconds := minutes.fmod 1440 * 60
  let parts : List Text :=
    (if days = 0 then [] else ["days=" ++ Text.ofInt days]) ++
      (if seconds = 0 then [] else ["seconds=" ++ Text.ofInt seconds])
  "datetime.timedelta(" ++ (if parts.isEmpty then Text.ofString "0" else Text.joinWith ", " parts) ++ ")"

/-- The message for parts that make no date and time. -/
def TimeFault.message : TimeFault → Text
  | yearOutOfRange year => "year " ++ Text.ofNat year ++ " is out of range"
  | monthOutOfRange => "month must be in 1..12"
  | dayOutOfRange => "day is out of range for month"
  | hourOutOfRange => "hour must be in 0..23"
  | minuteOutOfRange => "minute must be in 0..59"
  | secondOutOfRange => "second must be in 0..59"
  | offsetOutOfRange minutes =>
    "offset must be a timedelta strictly between -timedelta(hours=24) and " ++
      "timedelta(hours=24), not " ++ spanText minutes ++ "."

end CardPayments
