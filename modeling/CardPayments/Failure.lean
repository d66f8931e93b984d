import CardPayments.Decimal.Reader
import CardPayments.Provider.Refusal
import CardPayments.Store.Entity
import CardPayments.Time.DateTime

/-!
# Failures

Everything that can go wrong, by its cause.  A failure is a value: it ends a computation, it is written
to the journal, and it is what a caller is told.  `Failure.message` is its wording.
-/

namespace CardPayments

/-- What is missing in the settings. -/
inductive MissingSetting where
  /-- The address to which a customer returns. -/
  | redirectUrl
  /-- The device session that is used when a request has none. -/
  | deviceSession
  /-- The merchant or the key of the provider's account. -/
  | account
  /-- The provider among the known ones. -/
  | provider
  deriving DecidableEq

/-- Why rows cannot be written. -/
inductive Violation where
  /-- Two rows would agree in a column where they must differ. -/
  | duplicate (entity : Entity) (column : Text)
  /-- A required column has no value. -/
  | missing (entity : Entity) (column : Text)
  /-- A column of JSON documents would hold something else. -/
  | notJson (column : Text)
  /-- A row would refer to one that does not exist. -/
  | danglingReference
  deriving DecidableEq

/-- A failure, by its cause. -/
inductive Failure where
  /-- A text is no JSON. -/
  | json (fault : Json.Fault)
  /-- A text is no integer. -/
  | numeral (fault : NumeralFault)
  /-- Parts make no date and time. -/
  | time (fault : TimeFault)
  /-- A text is no decimal, or a decimal does not fit. -/
  | decimal (fault : DecimalFault)
  /-- A signaling decimal is turned into a binary number. -/
  | signalingDecimal
  /-- A value of this kind has no such operation. -/
  | noOperation (kind operation : Text)
  /-- A value of this kind has no beginning that could be taken. -/
  | notSliceable (kind : Text)
  /-- The beginning of an object is asked for. -/
  | slicedObject
  /-- A value of this kind is no integer. -/
  | notAnInteger (kind : Text)
  /-- An infinity is turned into an integer. -/
  | infiniteInteger
  /-- What is no number is turned into an integer. -/
  | undefinedInteger
  /-- Something other than a text is read as a date and time. -/
  | notADateText
  /-- No choice has this code. -/
  | unknownChoice (shown title : Text)
  /-- A column of integers is given something else; a text, or a value of another kind. -/
  | notANumber (column shown : Text) (isText : Bool)
  /-- An integer does not fit a stored one. -/
  | integerTooLarge
  /-- A text with halves of surrogate pairs cannot be stored: the first of them, its position, and how
  many follow each other there. -/
  | unencodable (unit : CodePoint) (position count : Nat)
  /-- An instant lies outside the calendar. -/
  | timeOutOfRange
  /-- A setting is missing. -/
  | notConfigured (missing : MissingSetting)
  /-- The provider refused a call. -/
  | refused (refusal : Provider.Refusal)
  /-- The payment method of the attempt has disappeared. -/
  | methodNotFound (id : Nat)
  /-- There is no such row. -/
  | noRow (entity : Entity)
  /-- Rows cannot be written. -/
  | violation (v : Violation)
  /-- A row is still in use by rows of another kind. -/
  | inUse (entity user : Entity) (column : Text)
  /-- A value is not valid. -/
  | invalid (messages : List Text)
  /-- The columns of a row are not valid. -/
  | invalidRow (columns : List (Text × List Text))
  /-- The call did not reach the provider, or its answer did not arrive or could not be taken in. -/
  | transport (kind message : Text)

namespace Failure

/-- The wording of a missing setting. -/
def missingMessage : MissingSetting → Text
  | .redirectUrl => "OPENPAY_REDIRECT_URL is not configured"
  | .deviceSession => "OPENPAY_DEVICE_SESSION_ID is not configured"
  | .account => "OPENPAY_MERCHANT_ID and OPENPAY_PRIVATE_KEY must be configured"
  | .provider => "OpenPay provider not found in master data"

/-- The wording of a violation. -/
def violationMessage : Violation → Text
  | .duplicate entity column => "UNIQUE constraint failed: " ++ entity.tableName ++ "." ++ column
  | .missing entity column => "NOT NULL constraint failed: " ++ entity.tableName ++ "." ++ column
  | .notJson column =>
    "CHECK constraint failed: (JSON_VALID(\"" ++ column ++ "\") OR \"" ++ column ++ "\" IS NULL)"
  | .danglingReference => "FOREIGN KEY constraint failed"

/-- The wording of a decimal fault. -/
def decimalMessage : DecimalFault → Text
  | .notADecimal => "[<class 'decimal.ConversionSyntax'>]"
  | .outOfBounds => "[<class 'decimal.InvalidOperation'>]"

/-- The wording for halves of surrogate pairs that cannot be stored. -/
def unencodableMessage (unit : CodePoint) (position count : Nat) : Text :=
  let place : Text :=
    if count ≤ 1 then
      "character '\\u" ++ Text.ofNatHex 4 unit.value ++ "' in position " ++ Text.ofNat position
    else
      "characters in position " ++ Text.ofNat position ++ "-" ++ Text.ofNat (position + count - 1)
  "'utf-8' codec can't encode " ++ place ++ ": surrogates not allowed"

/-- The wording of a failure.  Values that are not valid have messages of their own and no other. -/
def message : Failure → Text
  | json fault => fault.message
  | numeral fault => fault.message
  | time fault => fault.message
  | decimal fault => decimalMessage fault
  | signalingDecimal => "cannot convert signaling NaN to float"
  | noOperation kind operation =>
    "'" ++ kind ++ "' object has no attribute '" ++ operation ++ "'"
  | notSliceable kind => "'" ++ kind ++ "' object is not subscriptable"
  | slicedObject => "unhashable type: 'slice'"
  | notAnInteger kind =>
    "int() argument must be a string, a bytes-like object or a real number, not '" ++ kind ++ "'"
  | infiniteInteger => "cannot convert float infinity to integer"
  | undefinedInteger => "cannot convert float NaN to integer"
  | notADateText => "fromisoformat: argument must be str"
  | unknownChoice shown title => shown ++ " is not a valid " ++ title
  | notANumber column shown _ => "Field '" ++ column ++ "' expected a number but got " ++ shown ++ "."
  | integerTooLarge => "Python int too large to convert to SQLite INTEGER"
  | unencodable unit position count => unencodableMessage unit position count
  | timeOutOfRange => "date value out of range"
  | notConfigured missing => missingMessage missing
  | refused refusal => refusal.description.display
  | methodNotFound id => "PaymentMethod with ID: " ++ Text.ofNat id ++ " not found"
  | noRow entity => entity.title ++ " matching query does not exist."
  | violation v => violationMessage v
  | inUse entity user column =>
    "Cannot delete some instances of model '" ++ entity.title ++
      "' because they are referenced through protected foreign keys: '" ++ user.title ++ "." ++
      column ++ "'."
  | invalid _ => ""
  | invalidRow _ => ""
  | transport _ text => text

end Failure

end CardPayments
