import CardPayments.Json.Integer
import CardPayments.Json.Writer
import CardPayments.Store.Amount
import CardPayments.Time.Reader
import CardPayments.Time.Zone

/-!
# Columns

What is offered for a column need not be of the column's type; `Offer.text`, `Offer.integer` and their
siblings say what is stored for an offer, and `none` stands for an empty column.

Before a row is written, all its offers are looked at three times, and the first problem of the first
look that finds one decides: a value may not be convertible, a converted value may not be storable, and
a required column may be empty.  A `Field` is what these looks need to know about one column of a row;
`Field.firstFault?` is their result.
-/

namespace CardPayments

/-- A value that is offered for a column. -/
inductive Offer where
  /-- A plain value. -/
  | value (v : Json.Value)
  /-- A decimal. -/
  | decimal (d : Decimal)
  /-- A date and time. -/
  | time (t : DateTime)

namespace Offer

/-- Nothing. -/
def null : Offer := .value .null

instance : Inhabited Offer := ⟨null⟩

instance : Coe Json.Value Offer := ⟨.value⟩

instance : Coe Text Offer := ⟨fun t => .value (.text t)⟩

instance : Coe String Offer := ⟨fun s => .value (.text s)⟩

instance : Coe DateTime Offer := ⟨.time⟩

/-- The offer of a decimal, or of nothing. -/
def ofDecimal? : Option Decimal → Offer
  | some d => .decimal d
  | none => null

/-- The offer of a date and time, or of nothing. -/
def ofTime? : Option DateTime → Offer
  | some t => .time t
  | none => null

/-! ### Texts -/

/-- The text that is stored for an offer. -/
def text : Offer → Option Text
  | value .null => none
  | value v => some v.display
  | decimal d => some d.toText
  | time t => some t.isoText

/-- Why a text cannot be stored: it holds halves of surrogate pairs. -/
def textFault (t : Text) : Option Failure :=
  let before := t.takeWhile fun c => !c.isSurrogate
  match t.drop before.length with
  | [] => none
  | unit :: rest =>
    some (.unencodable unit before.length (1 + (rest.takeWhile CodePoint.isSurrogate).length))

/-! ### Integers -/

/-- Reads an integer for the column of the given name. -/
def readInteger (column : Text) : Offer → Except Failure (Option Int)
  | value .null => .ok none
  | value v =>
    match v.toInteger with
    | .ok n => .ok (some n)
    | .error .infiniteInteger => .error .infiniteInteger
    | .error (.notAnInteger _) => .error (.notANumber column v.quoted false)
    | .error _ => .error (.notANumber column v.quoted true)
  | decimal d => .error (.notANumber column d.toText false)
  | time t => .error (.notANumber column t.isoText false)

/-- The integer that is stored for an offer. -/
def integer (o : Offer) : Option Int := (o.readInteger []).toOption.join

/-- The least integer beyond 64 bits. -/
def integerBound : Int := 9223372036854775808

/-- Does an integer fit 64 bits? -/
def fits (n : Int) : Bool := -integerBound ≤ n && n < integerBound

/-! ### Truth values -/

/-- Reads a truth value. -/
def readBoolean : Offer → Except Failure (Option Bool)
  | value .null => .ok none
  | value (.bool b) => .ok (some b)
  | value (.int 0) => .ok (some false)
  | value (.int 1) => .ok (some true)
  | value (.text t) =>
    if t = "t" ∨ t = "True" ∨ t = "1" then .ok (some true)
    else if t = "f" ∨ t = "False" ∨ t = "0" then .ok (some false)
    else .error (notBoolean t)
  | value v => .error (notBoolean v.display)
  | decimal d => .error (notBoolean d.toText)
  | time t => .error (notBoolean t.isoText)
where
  /-- The failure for a value that is no truth value. -/
  notBoolean (shown : Text) : Failure :=
    .invalid ["“" ++ shown ++ "” value must be either True or False."]

/-- The truth value that is stored for an offer. -/
def boolean (o : Offer) : Option Bool := o.readBoolean.toOption.join

/-! ### Amounts -/

/-- Reads an amount: any finite decimal. -/
def readAmount : Offer → Except Failure (Option Amount)
  | value .null => .ok none
  | value v =>
    match (Decimal.read v.display).toOption.bind Amount.ofDecimal? with
    | some a => .ok (some a)
    | none => .error (notDecimal v.display)
  | decimal d =>
    match Amount.ofDecimal? d with
    | some a => .ok (some a)
    | none => .error (notDecimal d.toText)
  | time t => .error (notDecimal t.isoText)
where
  /-- The failure for a value that is no finite decimal. -/
  notDecimal (shown : Text) : Failure :=
    .invalid ["“" ++ shown ++ "” value must be a decimal number."]

/-- The amount that is stored for an offer. -/
def amount (o : Offer) : Option Amount := o.readAmount.toOption.join

/-! ### Dates and times -/

/-- The parts of a date without a time of day, in the looser form. -/
def splitDate? (t : Text) : Option Date := do
  let (year, _, rest) ← DateTime.takeScriptDigits? 4 4 t
  let (month, _, rest) ← DateTime.takeScriptDigits? 1 2 (← DateTime.dropOneOf? "-" rest)
  let (day, _, rest) ← DateTime.takeScriptDigits? 1 2 (← DateTime.dropOneOf? "-" rest)
  if DateTime.atEnd rest then some ⟨year, month, day⟩ else none

/-- Reads a date and time, or a date alone, from a text. -/
def readTimeText (t : Text) : Except Failure DateTime :=
  match DateTime.read t with
  | .ok (some d) => .ok d
  | .error _ => .error (.invalid ["“" ++ t ++
      "” value has the correct format (YYYY-MM-DD HH:MM[:ss[.uuuuuu]][TZ]) but it is an invalid " ++
      "date/time."])
  | .ok none =>
    match splitDate? t with
    | none => .error (.invalid ["“" ++ t ++
        "” value has an invalid format. It must be in YYYY-MM-DD HH:MM[:ss[.uuuuuu]][TZ] format."])
    | some date =>
      match (⟨date, 0, 0, 0, 0⟩ : TimeFields).toLocal with
      | .ok midnight => .ok (.naive midnight)
      | .error _ => .error (.invalid ["“" ++ t ++
          "” value has the correct format (YYYY-MM-DD) but it is an invalid date."])

/-- The local time of a date and time in universal time. -/
def toUniversal (d : DateTime) : Except Failure LocalTime :=
  match LocalTime.ofTicks? (Zone.instantOf d) with
  | some t => .ok t
  | none => .error .timeOutOfRange

/-- Reads an instant; it is stored as a local time of universal time. -/
def readInstant : Offer → Except Failure (Option LocalTime)
  | value .null => .ok none
  | value (.text t) => do
    let d ← readTimeText t
    return some (← toUniversal d)
  | value _ => .error .notADateText
  | decimal _ => .error .notADateText
  | time d => (toUniversal d).map some

/-- The instant that is stored for an offer. -/
def instant (o : Offer) : Option LocalTime := o.readInstant.toOption.join

end Offer

/-! ### Field -/

/-- What has to be known about one column before a row is written. -/
structure Field where
  /-- The name of the column. -/
  name : Text
  /-- May the column not be empty? -/
  required : Bool
  /-- Would it be empty? -/
  isNull : Bool
  /-- Why the offer cannot be converted. -/
  unreadable : Option Failure
  /-- Why the converted value cannot be stored. -/
  unstorable : Option Failure
  /-- Does it refer to a row of another table? -/
  refers : Bool := false

/-- The failure of a computation. -/
def failureOf {α : Type} : Except Failure α → Option Failure
  | .ok _ => none
  | .error e => some e

namespace Field

/-- A column of texts. -/
def text (name : Text) (required : Bool) (o : Offer) : Field where
  name := name
  required := required
  isNull := o.text.isNone
  unreadable := none
  unstorable := o.text.bind Offer.textFault

/-- A column of integers. -/
def integer (name : Text) (required : Bool) (o : Offer) : Field where
  name := name
  required := required
  isNull := o.integer.isNone
  unreadable := failureOf (o.readInteger name)
  unstorable := o.integer.bind fun n => if Offer.fits n then none else some .integerTooLarge

/-- A column that refers to a row of another table. -/
def reference (name : Text) (required : Bool) (o : Offer) : Field where
  name := name
  required := required
  isNull := o.integer.isNone
  unreadable := failureOf (o.readInteger "id")
  unstorable := o.integer.bind fun n => if Offer.fits n then none else some .integerTooLarge
  refers := true

/-- A column of truth values. -/
def boolean (name : Text) (required : Bool) (o : Offer) : Field where
  name := name
  required := required
  isNull := o.boolean.isNone
  unreadable := failureOf o.readBoolean
  unstorable := none

/-- A column of amounts. -/
def amount (name : Text) (required : Bool) (o : Offer) : Field where
  name := name
  required := required
  isNull := o.amount.isNone
  unreadable := failureOf o.readAmount
  unstorable := none

/-- A column of instants. -/
def instant (name : Text) (required : Bool) (o : Offer) : Field where
  name := name
  required := required
  isNull := o.instant.isNone
  unreadable := failureOf o.readInstant
  unstorable := none

/-- The first thing that is wrong with the columns of a new row.  Required columns are looked at in the
order of the table, in which references to other tables come last. -/
def firstFault? (entity : Entity) (fields : List Field) : Option Failure :=
  match fields.findSome? unreadable with
  | some e => some e
  | none =>
    match fields.findSome? unstorable with
    | some e => some e
    | none =>
      let inTable := fields.filter (!·.refers) ++ fields.filter (·.refers)
      (inTable.find? fun f => f.required && f.isNull).map fun f =>
        .violation (.missing entity f.name)

end Field

end CardPayments
