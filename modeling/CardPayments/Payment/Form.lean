import CardPayments.Json.Value
import CardPayments.Payment.Request
import CardPayments.Text.Blank
import CardPayments.Text.DecimalDigit
import CardPayments.Web.EmailAddress

/-!
# The form of a request

A client sends a request as a JSON object.  Every field is a text, for which a number is understood as
well, and blanks around it are removed.  `PaymentRequest.ofBody` is the request that a body stands for,
or everything that is wrong with it, field by field.

A field that is missing, null, blank or of another kind has this one fault; of any other field all
faults are reported.  Other fields of the object are not looked at.
-/

namespace CardPayments

/-! ### Faults -/

/-- What is wrong with a field. -/
inductive FieldFault where
  /-- It is missing. -/
  | missing
  /-- It is null. -/
  | null
  /-- It is empty but for blanks. -/
  | blank
  /-- It is no text. -/
  | notText
  /-- It does not have the form that is asked for. -/
  | wrongForm
  /-- It is no e-mail address. -/
  | notEmail
  /-- It is longer than allowed. -/
  | tooLong (limit : Nat)
  /-- It holds the code point zero. -/
  | holdsZero
  /-- It holds half of a surrogate pair. -/
  | holdsSurrogate (unit : CodePoint)
  deriving DecidableEq

namespace FieldFault

/-- The wording of a fault. -/
def message : FieldFault → Text
  | missing => "This field is required."
  | null => "This field may not be null."
  | blank => "This field may not be blank."
  | notText => "Not a valid string."
  | wrongForm => "This value does not match the required pattern."
  | notEmail => "Enter a valid email address."
  | tooLong limit => "Ensure this field has no more than " ++ Text.ofNat limit ++ " characters."
  | holdsZero => "Null characters are not allowed."
  | holdsSurrogate unit =>
    "Surrogate characters are not allowed: U+" ++ (Nat.toDigits 16 unit.value).map
      (fun c => CodePoint.ofChar c.toUpper) ++ "."

/-- The short name of a fault. -/
def code : FieldFault → Text
  | missing => "required"
  | null => "null"
  | blank => "blank"
  | notText => "invalid"
  | wrongForm => "invalid"
  | notEmail => "invalid"
  | tooLong _ => "max_length"
  | holdsZero => "null_characters_not_allowed"
  | holdsSurrogate _ => "surrogate_characters_not_allowed"

end FieldFault

/-- What is wrong with a body. -/
inductive BodyFault where
  /-- It is null. -/
  | noData
  /-- It is a value of this kind and no object. -/
  | notAnObject (kind : Text)
  /-- Some fields are wrong; each with its faults. -/
  | fields (faults : List (Text × List FieldFault))

/-! ### FormField -/

/-- A field of the form. -/
structure FormField where
  name : Text
  /-- May it be missing or blank?  It is the empty text then. -/
  isOptional : Bool
  /-- The fault of a value that is no text. -/
  kindFault : FieldFault
  /-- The greatest length. -/
  limit : Option Nat
  /-- Has a text the form that is asked for? -/
  admits : Text → Bool

namespace FormField

/-- A field of any text up to a length. -/
def free (name : Text) (limit : Nat) : FormField := ⟨name, false, .notText, some limit, fun _ => true⟩

/-- A field of texts of a certain form. -/
def formed (name : Text) (admits : Text → Bool) : FormField := ⟨name, false, .wrongForm, none, admits⟩

/-- The faults of a text in a field. -/
def faults (f : FormField) (t : Text) : List FieldFault :=
  (match f.limit with
    | some limit => if limit < t.length then [.tooLong limit] else []
    | none => []) ++
    (if t.contains (CodePoint.ofNat 0) then [.holdsZero] else []) ++
    (match t.find? CodePoint.isSurrogate with
      | some unit => [.holdsSurrogate unit]
      | none => []) ++
    (if f.admits t then [] else [f.kindFault])

/-- The text that a value stands for. -/
def textOf? : Json.Value → Option Text
  | .text t => some t
  | .int n => some (Json.Value.int n).display
  | .float x => some (Json.Value.float x).display
  | _ => none

/-- The text of a field, given its value if it has one. -/
def read (f : FormField) : Option Json.Value → Except (List FieldFault) Text
  | none => if f.isOptional then .ok [] else .error [.missing]
  | some .null => .error [.null]
  | some v =>
    match textOf? v with
    | none => .error [f.kindFault]
    | some written =>
      let t := Text.trim written
      if t.isEmpty then if f.isOptional then .ok [] else .error [.blank]
      else
        match f.faults t with
        | [] => .ok t
        | faults => .error faults

/-- The text of a field among the fields of an object. -/
def readFrom (f : FormField) (fields : List (Text × Json.Value)) : Except (List FieldFault) Text :=
  f.read (Json.Value.lookup? f.name fields)

end FormField

/-! ### The fields -/

namespace PaymentForm

/-- Is the text nothing but decimal digits of any script, at least `least` and at most `most`? -/
def isDigits (least most : Nat) (t : Text) : Bool :=
  least ≤ t.length && t.length ≤ most && t.all CodePoint.isDecimalDigit

/-- Is the text the number of a month in two ASCII digits? -/
def isMonth (t : Text) : Bool :=
  let digits := t.filterMap CodePoint.asciiDigit?
  t.length = 2 && t.all CodePoint.isAsciiDigit && 1 ≤ Text.valueOfDigits digits &&
    Text.valueOfDigits digits ≤ 12

/-- The name of the customer. -/
def name : FormField := .free "name" 100

/-- The e-mail address. -/
def email : FormField := ⟨"email", false, .notEmail, none, Web.isEmailAddress⟩

/-- The session of the device, which may be missing. -/
def deviceSession : FormField := ⟨"device_session_id", true, .notText, none, fun _ => true⟩

/-- The number of the card. -/
def cardNumber : FormField := .formed "card_number" (isDigits 12 19)

/-- The year of expiry. -/
def expirationYear : FormField := .formed "expiration_year" (isDigits 2 2)

/-- The month of expiry. -/
def expirationMonth : FormField := .formed "expiration_month" isMonth

/-- The check value of the card. -/
def check : FormField := .formed "cvv2" (isDigits 3 4)

/-- The order that is paid. -/
def orderId : FormField := .free "order_id" 50

/-- All fields. -/
def fields : List FormField :=
  [name, email, deviceSession, cardNumber, expirationYear, expirationMonth, check, orderId]

/-- The faults of all fields of an object. -/
def faultsOf (given : List (Text × Json.Value)) : List (Text × List FieldFault) :=
  fields.filterMap fun f =>
    match f.readFrom given with
    | .ok _ => none
    | .error faults => some (f.name, faults)

end PaymentForm

namespace PaymentRequest

/-- The request that the fields of an object stand for; the faults are those of the first bad field. -/
def ofFields (given : List (Text × Json.Value)) : Except (List FieldFault) PaymentRequest := do
  return {
    name := ← PaymentForm.name.readFrom given
    email := ← PaymentForm.email.readFrom given
    deviceSession := ← PaymentForm.deviceSession.readFrom given
    cardNumber := ← PaymentForm.cardNumber.readFrom given
    expirationYear := ← PaymentForm.expirationYear.readFrom given
    expirationMonth := ← PaymentForm.expirationMonth.readFrom given
    check := ← PaymentForm.check.readFrom given
    orderId := ← PaymentForm.orderId.readFrom given }

/-- The request that a body stands for. -/
def ofBody : Json.Value → Except BodyFault PaymentRequest
  | .object given =>
    match ofFields given with
    | .ok request => .ok request
    | .error _ => .error (.fields (PaymentForm.faultsOf given))
  | .null => .error .noData
  | v => .error (.notAnObject v.kindName)

end PaymentRequest

/-- The faults of a body by field, each with its wording and its short name; those of the whole body
stand under a name of their own. -/
def BodyFault.entries : BodyFault → List (Text × List (Text × Text))
  | .noData => [("non_field_errors", [("No data provided", "null")])]
  | .notAnObject kind =>
    [("non_field_errors",
      [("Invalid data. Expected a dictionary, but got " ++ kind ++ ".", "invalid")])]
  | .fields faults => faults.map fun (name, fs) => (name, fs.map fun f => (f.message, f.code))

end CardPayments
