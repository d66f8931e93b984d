import CardPayments.Power
import CardPayments.Time.DateTime

/-!
# Reading ISO dates and times

`DateTime.readIso?` reads a date, in basic or extended form, by month and day or by week, then any one
separator and a time of day of two to six digits with an optional fraction, then an optional offset in
the same form or `Z`.  Only ASCII digits count.

Where the date ends is decided before it is read, by the code points at fixed places: `dateLength`.
The reader of a clock time is lenient on purpose.  It tells whether something was left unread after
the fields it needs; that is an error at the end of the document and behind an offset, but not between
a time and its offset.  A fraction is taken from up to six digits, and further digits are skipped.
-/

namespace CardPayments

namespace DateTime

/-- The number that the first `count` code points denote, if they are ASCII digits, and the rest. -/
def takeDigits? (count : Nat) (t : Text) : Option (Nat × Text) :=
  let digits := (t.take count).filterMap CodePoint.asciiDigit?
  if digits.length = count then some (Text.valueOfDigits digits, t.drop count) else none

/-- Does the given character stand at a place of the text? -/
def standsAt (c : Char) (place : Nat) (t : Text) : Bool := t[place]? = some (CodePoint.ofChar c)

/-- Does an ASCII digit stand at a place of the text? -/
def digitAt (place : Nat) (t : Text) : Bool := (t[place]?.map CodePoint.isAsciiDigit).getD false

/-- How many code points the date takes that a text begins with.

A date by weeks may leave out the day.  In the extended form a hyphen in ninth place followed by a
digit in eleventh is then the separator; in the basic form the digits after the week are counted, since
those of a time of day come in pairs. -/
def dateLength (t : Text) : Option Nat :=
  if t.length = 7 then some 7
  else if standsAt '-' 4 t then
    if standsAt 'W' 5 t then
      if standsAt '-' 8 t then
        if t.length = 9 then none else if digitAt 10 t then some 8 else some 10
      else some 8
    else some 10
  else if standsAt 'W' 4 t then
    let stop := 7 + ((t.drop 7).takeWhile CodePoint.isAsciiDigit).length
    if stop < 9 then some stop else if stop % 2 = 0 then some 7 else some 8
  else some 8

/-- The date of a day of a week, both counted from one. -/
def dateOfWeek? (year week day : Nat) : Option Date :=
  if 1 ≤ year ∧ 1 ≤ week ∧ week ≤ Date.weekCount year ∧ 1 ≤ day ∧ day ≤ 7 then
    let n := Date.firstWeekStart year + (week - 1) * 7 + (day - 1)
    if 0 ≤ n ∧ n < Date.dayCount then some (Date.ofDayNumber n.toNat) else none
  else none

/-- Removes a hyphen in front, when one is required. -/
def dropHyphen? (required : Bool) (t : Text) : Option Text :=
  if required then Text.dropStart? "-" t else some t

/-- Reads a whole text as a date. -/
def readDate? (t : Text) : Option Date := do
  let (year, rest) ← takeDigits? 4 t
  let extended := standsAt '-' 0 rest
  let rest := if extended then rest.drop 1 else rest
  match Text.dropStart? "W" rest with
  | some rest =>
    let (week, rest) ← takeDigits? 2 rest
    if rest.isEmpty then dateOfWeek? year week 1
    else
      let rest ← dropHyphen? extended rest
      let (day, _) ← takeDigits? 1 rest
      dateOfWeek? year week day
  | none =>
    let (month, rest) ← takeDigits? 2 rest
    let rest ← dropHyphen? extended rest
    let (day, rest) ← takeDigits? 2 rest
    if rest.isEmpty then some ⟨year, month, day⟩ else none

/-- A clock time that was read, and whether something was left unread. -/
structure ClockReading where
  hour : Nat
  minute : Nat
  second : Nat
  microsecond : Nat
  /-- Is there something after the fields? -/
  hasRest : Bool

/-- The clock time with the given fields of two digits; those not given are zero. -/
def ClockReading.ofFields (fields : List Nat) (microsecond : Nat) (hasRest : Bool) : ClockReading where
  hour := fields[0]?.getD 0
  minute := fields[1]?.getD 0
  second := fields[2]?.getD 0
  microsecond := microsecond
  hasRest := hasRest

/-- Is a code point left that is not the null code point? -/
def leavesRest : Text → Bool
  | [] => false
  | c :: _ => c.value ≠ 0

/-- Reads a fraction of a second: all of the text, or its first six code points and the digits after
them.  What follows the text is not empty exactly when `followed` holds. -/
def readFraction? (fields : List Nat) (followed : Bool) (t : Text) : Option ClockReading := do
  let width := min 6 t.length
  let (n, rest) ← takeDigits? width t
  let rest := rest.dropWhile CodePoint.isAsciiDigit
  return .ofFields fields (n * tenTo (6 - width)) (if rest.isEmpty then followed else leavesRest rest)

/-- Reads the fields of two digits, `left` of them at most, and then a fraction.  Whether colons stand
between the fields is decided after the first one.  A single ASCII code point after a field is left
unread. -/
def readFields? (followed : Bool) : Nat → Option Bool → List Nat → Text → Option ClockReading
  | 0, _, fields, t => readFraction? fields followed t
  | left + 1, colons, fields, t => do
    let (n, rest) ← takeDigits? 2 t
    let fields := fields ++ [n]
    match rest with
    | [] => return .ofFields fields 0 followed
    | c :: more =>
      let isColon := c = CodePoint.ofChar ':'
      let colons := colons.getD isColon
      if more.isEmpty ∧ c.value < 0x80 then return .ofFields fields 0 (leavesRest rest)
      else if colons && isColon then readFields? followed left (some colons) fields more
      else if c = CodePoint.ofChar '.' ∨ c = CodePoint.ofChar ',' then
        readFraction? fields followed more
      else if colons then none
      else readFields? followed left (some colons) fields rest

/-- Reads a clock time. -/
def readClock? (followed : Bool) (t : Text) : Option ClockReading := readFields? followed 3 none [] t

/-- Does a code point begin an offset? -/
def beginsOffset (c : CodePoint) : Bool :=
  c = CodePoint.ofChar '+' || c = CodePoint.ofChar '-' || c = CodePoint.ofChar 'Z'

/-- Reads an offset; one without whole seconds is universal time. -/
def readOffset? : Text → Option Offset
  | [] => none
  | sign :: rest => do
    if sign = CodePoint.ofChar 'Z' then
      if leavesRest rest then none else return Offset.utc
    else
      let clock ← readClock? false rest
      if clock.hasRest then none
      else
        let seconds := clock.hour * 3600 + clock.minute * 60 + clock.second
        let ticks : Int := seconds * ticksPerSecond + clock.microsecond
        if seconds = 0 then return Offset.utc
        else Offset.ofTicks? (if sign = CodePoint.ofChar '-' then -ticks else ticks)

/-- The date and time of a date and a text with a time of day and perhaps an offset. -/
def readTime? (date : Date) (t : Text) : Option DateTime := do
  let offset := t.dropWhile fun c => !beginsOffset c
  let clock ← readClock? (!offset.isEmpty) (t.takeWhile fun c => !beginsOffset c)
  let fields : TimeFields := ⟨date, clock.hour, clock.minute, clock.second, clock.microsecond⟩
  if offset.isEmpty then
    if clock.hasRest then none else (fields.toLocal.toOption).map .naive
  else
    let offset ← readOffset? offset
    (fields.toLocal.toOption).map (.aware · offset)

/-- The text with the letter `T` in place of half a surrogate pair at one of the places where the date
may end. -/
def withSeparator (t : Text) : Text :=
  match [7, 8, 10].find? fun place => (t[place]?.map CodePoint.isSurrogate).getD false with
  | some place => t.set place (CodePoint.ofChar 'T')
  | none => t

/-- Reads a date and time in ISO form. -/
def readIso? (t : Text) : Option DateTime := do
  if t.length < 7 then none
  else
    let t := withSeparator t
    if t.any CodePoint.isSurrogate then none
    else
      let n ← dateLength t
      let date ← readDate? (t.take n)
      match t.drop n with
      | [] => ((⟨date, 0, 0, 0, 0⟩ : TimeFields).toLocal.toOption).map .naive
      | _ :: rest => readTime? date rest

end DateTime

end CardPayments
