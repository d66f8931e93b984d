import CardPayments.Json.Value

/-!
# Reading JSON

`Json.read` reads a text as one JSON value.  Beyond the standard it takes `NaN`, `Infinity` and
`-Infinity` for numbers, and it lets an escape denote half of a surrogate pair.  When an object has
two fields of one name, the later value stands in the place of the first.

A text that is no JSON is refused with the first thing that is wrong with it and its position: the
line and the column, both counted from one, and the number of code points before it.  While reading,
a position is kept as the number of code points that are left, so that no function has to carry an
offset; `Stop.toFault` turns it into a position in the document.

The readers of values, items and fields call one another and take a bound on the depth of these calls;
every second call consumes a code point, so `read` never runs into the bound.  How deep a document is nested does not
matter here; it does to the one who reads it, for which see `Json.overrun?`.
-/

namespace CardPayments

namespace Json

/-- What can be wrong with a text that is no JSON. -/
inductive Problem where
  /-- No value begins here. -/
  | expectingValue
  /-- No field name begins here. -/
  | expectingName
  /-- No colon follows a field name. -/
  | expectingColon
  /-- Neither a comma nor the closing bracket follows. -/
  | expectingComma
  /-- The closing quote is missing. -/
  | unterminatedString
  /-- A control character stands unescaped in a text. -/
  | controlCharacter
  /-- An unknown letter follows a backslash. -/
  | unknownEscape
  /-- Four hexadecimal digits are missing. -/
  | badUnicodeEscape
  /-- Something follows the value. -/
  | extraData
  /-- The text begins with a byte order mark. -/
  | byteOrderMark
  deriving DecidableEq

/-- The wording of a problem. -/
def Problem.message : Problem → Text
  | expectingValue => "Expecting value"
  | expectingName => "Expecting property name enclosed in double quotes"
  | expectingColon => "Expecting ':' delimiter"
  | expectingComma => "Expecting ',' delimiter"
  | unterminatedString => "Unterminated string starting at"
  | controlCharacter => "Invalid control character at"
  | unknownEscape => "Invalid \\escape"
  | badUnicodeEscape => "Invalid \\uXXXX escape"
  | extraData => "Extra data"
  | byteOrderMark => "Unexpected UTF-8 BOM (decode using utf-8-sig)"

/-- Why a text is refused. -/
inductive Fault where
  /-- It is no JSON. -/
  | malformed (problem : Problem) (line column position : Nat)
  /-- It holds a whole number with too many digits. -/
  | numeral (fault : NumeralFault)
  deriving DecidableEq

/-- The message for a refused text. -/
def Fault.message : Fault → Text
  | malformed problem line column position =>
    problem.message ++ ": line " ++ Text.ofNat line ++ " column " ++ Text.ofNat column ++
      " (char " ++ Text.ofNat position ++ ")"
  | numeral fault => fault.message

/-- Why reading stopped; the place is given by the number of code points that are left. -/
inductive Stop where
  /-- Something is wrong at the given place. -/
  | malformed (problem : Problem) (left : Nat)
  /-- A whole number has too many digits. -/
  | numeral (fault : NumeralFault)

/-- The fault in a document at which reading stopped. -/
def Stop.toFault (document : Text) : Stop → Fault
  | malformed problem left =>
    let before := document.take (document.length - left)
    let newline := CodePoint.ofChar '\n'
    let lineStart := (before.reverse.takeWhile (· ≠ newline)).length
    .malformed problem ((before.filter (· = newline)).length + 1) (lineStart + 1) before.length
  | numeral fault => .numeral fault

/-- Blanks between the tokens: space, tab, line feed and carriage return. -/
def isGap (c : CodePoint) : Bool :=
  c.value = 0x20 || c.value = 0x09 || c.value = 0x0A || c.value = 0x0D

/-- The text without the gap in front of it. -/
def skipGap (t : Text) : Text := t.dropWhile isGap

/-! ### Texts -/

/-- The code point that a letter after a backslash denotes. -/
def unescape? (c : CodePoint) : Option CodePoint :=
  if c = CodePoint.ofChar '"' ∨ c = CodePoint.ofChar '\\' ∨ c = CodePoint.ofChar '/' then some c
  else if c = CodePoint.ofChar 'b' then some (CodePoint.ofNat 0x08)
  else if c = CodePoint.ofChar 'f' then some (CodePoint.ofNat 0x0C)
  else if c = CodePoint.ofChar 'n' then some (CodePoint.ofNat 0x0A)
  else if c = CodePoint.ofChar 'r' then some (CodePoint.ofNat 0x0D)
  else if c = CodePoint.ofChar 't' then some (CodePoint.ofNat 0x09)
  else none

/-- The number that the first four code points denote in hexadecimal. -/
def hexUnit? : Text → Option Nat
  | a :: b :: c :: d :: _ => do
    let a ← a.hexDigit?
    let b ← b.hexDigit?
    let c ← c.hexDigit?
    let d ← d.hexDigit?
    some (((a * 16 + b) * 16 + c) * 16 + d)
  | _ => none

/-- The code point of a surrogate pair. -/
def joinSurrogates (high low : CodePoint) : CodePoint :=
  CodePoint.ofNat (0x10000 + (high.value - 0xD800) * 0x400 + (low.value - 0xDC00))

/-- Reads the second escape of a surrogate pair, if one follows the first: the code point, when it is
the second half of a pair.  An escape that stands at the very end of the document does not count. -/
def lowSurrogate? : Text → Except Stop (Option CodePoint)
  | backslash :: u :: rest =>
    if backslash = CodePoint.ofChar '\\' ∧ u = CodePoint.ofChar 'u' ∧ 4 < rest.length then
      match hexUnit? rest with
      | none => .error (.malformed .badUnicodeEscape (rest.length + 1))
      | some n =>
        let c := CodePoint.ofNat n
        .ok (if c.isLowSurrogate then some c else none)
    else .ok none
  | _ => .ok none

/-- Reads what follows a backslash: the code point and how many code points denote it. -/
def readEscape (opening : Nat) : Text → Except Stop (CodePoint × Nat)
  | [] => .error (.malformed .unterminatedString opening)
  | c :: rest =>
    if c = CodePoint.ofChar 'u' then
      match hexUnit? rest with
      | none => .error (.malformed .badUnicodeEscape (rest.length + 1))
      | some n =>
        if rest.length = 4 then .error (.malformed .badUnicodeEscape (rest.length + 1))
        else
          let unit := CodePoint.ofNat n
          if unit.isHighSurrogate then
            match lowSurrogate? (rest.drop 4) with
            | .error stop => .error stop
            | .ok (some low) => .ok (joinSurrogates unit low, 11)
            | .ok none => .ok (unit, 5)
          else .ok (unit, 5)
    else
      match unescape? c with
      | some d => .ok (d, 1)
      | none => .error (.malformed .unknownEscape (rest.length + 2))

/-- Reads a text up to its closing quote.  `skipped` code points belong to an escape that has been read
already, and `opening` is the place of the opening quote. -/
def readString (opening skipped : Nat) : Text → Except Stop (Text × Text)
  | [] => .error (.malformed .unterminatedString opening)
  | c :: rest =>
    if 0 < skipped then readString opening (skipped - 1) rest
    else if c = CodePoint.ofChar '"' then .ok ([], rest)
    else if c = CodePoint.ofChar '\\' then
      match readEscape opening rest with
      | .error stop => .error stop
      | .ok (d, size) =>
        match readString opening size rest with
        | .error stop => .error stop
        | .ok (t, left) => .ok (d :: t, left)
    else if c.value ≤ 0x1F then .error (.malformed .controlCharacter (rest.length + 1))
    else
      match readString opening 0 rest with
      | .error stop => .error stop
      | .ok (t, left) => .ok (c :: t, left)

/-! ### Numbers -/

/-- Splits off the digits in front. -/
def splitDigits (t : Text) : Text × Text :=
  (t.takeWhile CodePoint.isAsciiDigit, t.dropWhile CodePoint.isAsciiDigit)

/-- Splits off a point and at least one digit; gives the digits. -/
def splitFraction (t : Text) : Text × Text :=
  match t with
  | c :: rest =>
    let (digits, left) := splitDigits rest
    if c = CodePoint.ofChar '.' ∧ !digits.isEmpty then (digits, left) else ([], t)
  | [] => ([], [])

/-- Splits off an exponent: its letter, an optional sign and at least one digit. -/
def splitExponent (t : Text) : Option Int × Text :=
  match t with
  | c :: rest =>
    let (negative, unsigned) := Text.splitSign rest
    let (digits, left) := splitDigits unsigned
    if c.asciiLower = CodePoint.ofChar 'e' ∧ !digits.isEmpty then
      let n := Text.valueOfDigits (digits.filterMap CodePoint.asciiDigit?)
      (some (if negative then -(n : Int) else n), left)
    else (none, t)
  | [] => (none, [])

/-- Splits off the whole part of a number: a single zero, or digits that do not begin with one. -/
def splitWhole (t : Text) : Text × Text :=
  match t with
  | c :: rest => if c = CodePoint.ofChar '0' then ([c], rest) else splitDigits t
  | [] => ([], [])

/-- Reads a number; without one, no value begins here. -/
def readNumber (t : Text) : Except Stop (Value × Text) :=
  let (negative, unsigned) : Bool × Text :=
    match t with
    | c :: rest => if c = CodePoint.ofChar '-' then (true, rest) else (false, t)
    | [] => (false, [])
  let (whole, afterWhole) := splitWhole unsigned
  if whole.isEmpty then .error (.malformed .expectingValue t.length)
  else
    let (fraction, afterFraction) := splitFraction afterWhole
    let (exponent, left) := splitExponent afterFraction
    if fraction.isEmpty && exponent.isNone then
      if Numeral.digitLimit < whole.length then .error (.numeral (.tooLong whole.length))
      else .ok (.int (Numeral.signedValue negative (whole.filterMap CodePoint.asciiDigit?)), left)
    else
      let digits := (whole ++ fraction).filterMap CodePoint.asciiDigit?
      let x := Binary64.nearest negative (Text.valueOfDigits digits)
        (exponent.getD 0 - fraction.length)
      .ok (.float x, left)

/-! ### Values -/

/-- The values that are written as a word. -/
def words : List (Text × Value) :=
  [("null", .null), ("true", .bool true), ("false", .bool false), ("NaN", .float .nan),
   ("Infinity", .float (.infinite false)), ("-Infinity", .float (.infinite true))]

/-- Reads a value that is written as a word. -/
def readWord? (t : Text) : Option (Value × Text) :=
  words.findSome? fun word => (Text.dropStart? word.1 t).map fun left => (word.2, left)

/-- The text after a code point, or the given problem when it does not stand in front. -/
def expect (c : CodePoint) (problem : Problem) : Text → Except Stop Text
  | [] => .error (.malformed problem 0)
  | d :: rest => if d = c then .ok rest else .error (.malformed problem (rest.length + 1))

/-- The rest after a closing bracket, if it stands in front. -/
def closed? (c : CodePoint) : Text → Option Text
  | [] => none
  | d :: rest => if d = c then some rest else none

/-- Reads a field name and the colon after it. -/
def readName (t : Text) : Except Stop (Text × Text) := do
  let afterQuote ← expect (CodePoint.ofChar '"') .expectingName t
  let (name, afterName) ← readString t.length 0 afterQuote
  let afterColon ← expect (CodePoint.ofChar ':') .expectingColon (skipGap afterName)
  return (name, skipGap afterColon)

mutual

/-- Reads a value that begins here. -/
def readValue : Nat → Text → Except Stop (Value × Text)
  | 0, t => .error (.malformed .expectingValue t.length)
  | _, [] => .error (.malformed .expectingValue 0)
  | fuel + 1, c :: rest =>
    if c = CodePoint.ofChar '"' then do
      let (t, left) ← readString (rest.length + 1) 0 rest
      return (.text t, left)
    else if c = CodePoint.ofChar '[' then
      match closed? (CodePoint.ofChar ']') (skipGap rest) with
      | some left => .ok (.list [], left)
      | none => do
        let (items, left) ← readItems fuel (skipGap rest)
        return (.list items, left)
    else if c = CodePoint.ofChar '\x7b' then
      match closed? (CodePoint.ofChar '\x7d') (skipGap rest) with
      | some left => .ok (.object [], left)
      | none => do
        let (fields, left) ← readFields fuel [] (skipGap rest)
        return (.object fields, left)
    else
      match readWord? (c :: rest) with
      | some (v, left) => .ok (v, left)
      | none => readNumber (c :: rest)

/-- Reads the items of a list, at least one, and the closing bracket. -/
def readItems : Nat → Text → Except Stop (List Value × Text)
  | 0, t => .error (.malformed .expectingValue t.length)
  | fuel + 1, t => do
    let (v, afterValue) ← readValue fuel t
    match closed? (CodePoint.ofChar ']') (skipGap afterValue) with
    | some left => return ([v], left)
    | none =>
      let next ← expect (CodePoint.ofChar ',') .expectingComma (skipGap afterValue)
      let (items, left) ← readItems fuel (skipGap next)
      return (v :: items, left)

/-- Reads the fields of an object, at least one, and the closing bracket; `fields` are those that have
been read before. -/
def readFields : Nat → List (Text × Value) → Text → Except Stop (List (Text × Value) × Text)
  | 0, _, t => .error (.malformed .expectingValue t.length)
  | fuel + 1, fields, t => do
    let (name, afterColon) ← readName t
    let (v, afterValue) ← readValue fuel afterColon
    let fields := Value.insertField name v fields
    match closed? (CodePoint.ofChar '\x7d') (skipGap afterValue) with
    | some left => return (fields, left)
    | none =>
      let next ← expect (CodePoint.ofChar ',') .expectingComma (skipGap afterValue)
      readFields fuel fields (skipGap next)

end

/-- Reads a whole document, up to the place where reading stops. -/
def readDocument (t : Text) : Except Stop Value := do
  if (t.head?.map CodePoint.value) = some 0xFEFF then throw (.malformed .byteOrderMark t.length)
  let (v, left) ← readValue (2 * t.length + 2) (skipGap t)
  if (skipGap left).isEmpty then return v
  else throw (.malformed .extraData (skipGap left).length)

/-- Reads a text as a JSON value. -/
def read (t : Text) : Except Fault Value := (readDocument t).mapError (Stop.toFault t)

end Json

end CardPayments
