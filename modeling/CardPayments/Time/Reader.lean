import CardPayments.Text.Blank
import CardPayments.Text.DecimalDigit
import CardPayments.Time.IsoReader

/-!
# Reading dates and times as they are written

`DateTime.read` takes a text first as an ISO date and time.  A text that is none may still be written
in the looser form that people use: digits of any script, one digit where two are usual, a blank for
the separator, blanks before the offset.  A text of neither form is no date and time; one of the
looser form whose parts do not exist is refused with the reason.
-/

namespace CardPayments

namespace DateTime

/-- The value of the decimal digits in front, at most `most` and at least `least` of them, how many
there are, and the rest. -/
def takeScriptDigits? (least most : Nat) (t : Text) : Option (Nat × Nat × Text) :=
  let digits := ((t.take most).takeWhile CodePoint.isDecimalDigit).filterMap CodePoint.decimalDigit?
  if least ≤ digits.length then
    some (Text.valueOfDigits digits, digits.length, t.drop digits.length)
  else none

/-- The text after one of the given code points. -/
def dropOneOf? (allowed : Text) : Text → Option Text
  | [] => none
  | c :: rest => if allowed.contains c then some rest else none

/-- The microseconds of a fraction after a point or a comma, and the rest; no fraction means zero.
Six digits count, and up to six more are skipped. -/
def takeFraction (t : Text) : Nat × Text :=
  match (dropOneOf? ".," t).bind (takeScriptDigits? 1 6) with
  | none => (0, t)
  | some (n, width, rest) =>
    let skipped := (rest.take 6).takeWhile CodePoint.isDecimalDigit
    (n * tenTo (6 - width), rest.drop skipped.length)

/-- The second and microsecond after a colon, and the rest; no seconds mean zero. -/
def takeSeconds (t : Text) : Nat × Nat × Text :=
  match (dropOneOf? ":" t).bind (takeScriptDigits? 1 2) with
  | none => (0, 0, t)
  | some (second, _, rest) =>
    let (microsecond, rest) := takeFraction rest
    (second, microsecond, rest)

/-- The offset in minutes that a text begins with, and the rest. -/
def takeOffset? (t : Text) : Option (Int × Text) :=
  match t with
  | [] => none
  | sign :: rest =>
    if sign = CodePoint.ofChar 'Z' then some (0, rest)
    else if sign = CodePoint.ofChar '+' ∨ sign = CodePoint.ofChar '-' then do
      let (hours, _, rest) ← takeScriptDigits? 2 2 rest
      let unseparated := (dropOneOf? ":" rest).getD rest
      let (minutes, rest) : Nat × Text :=
        match takeScriptDigits? 2 2 unseparated with
        | some (minutes, _, after) => (minutes, after)
        | none => (0, rest)
      let total : Int := 60 * hours + minutes
      return (if sign = CodePoint.ofChar '-' then -total else total, rest)
    else none

/-- Is nothing left but perhaps a final line feed? -/
def atEnd (t : Text) : Bool := t.isEmpty || t = [CodePoint.ofChar '\n']

/-- The parts and the offset in minutes of a text in the looser form. -/
def splitLoose? (t : Text) : Option (TimeFields × Option Int) := do
  let (year, _, rest) ← takeScriptDigits? 4 4 t
  let (month, _, rest) ← takeScriptDigits? 1 2 (← dropOneOf? "-" rest)
  let (day, _, rest) ← takeScriptDigits? 1 2 (← dropOneOf? "-" rest)
  let (hour, _, rest) ← takeScriptDigits? 1 2 (← dropOneOf? "T " rest)
  let (minute, _, rest) ← takeScriptDigits? 1 2 (← dropOneOf? ":" rest)
  let (second, microsecond, rest) := takeSeconds rest
  let fields : TimeFields := ⟨⟨year, month, day⟩, hour, minute, second, microsecond⟩
  let rest := rest.dropWhile CodePoint.isBlank
  match takeOffset? rest with
  | some (offset, rest) => if atEnd rest then some (fields, some offset) else none
  | none => if rest.isEmpty then some (fields, none) else none

/-- The date and time with the given parts and offset in minutes.  The offset is looked at first. -/
def ofParts (fields : TimeFields) : Option Int → Except TimeFault DateTime
  | none => fields.toLocal.map .naive
  | some minutes =>
    match Offset.ofTicks? (minutes * 60 * ticksPerSecond) with
    | some offset => fields.toLocal.map (.aware · offset)
    | none => .error (.offsetOutOfRange minutes)

/-- Reads a date and time; nothing when the text is none. -/
def read (t : Text) : Except TimeFault (Option DateTime) :=
  match readIso? t with
  | some d => .ok (some d)
  | none =>
    match splitLoose? t with
    | some (fields, offset) => (ofParts fields offset).map some
    | none => .ok none

end DateTime

end CardPayments
