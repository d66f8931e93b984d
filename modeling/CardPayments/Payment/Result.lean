import CardPayments.Failure
import CardPayments.Time.Zone

/-!
# Payment results

What a client is told about a payment that was made.  `PaymentResult.toJson` is the object that is sent:
texts are the texts of their values, the amount has two places, and the instant of the payment is shown
as a local time with its offset.
-/

namespace CardPayments

open Json

/-! ### Shown values -/

namespace Shown

/-- The text of a value; null stays null. -/
def text : Value → Value
  | .null => .null
  | v => .text v.display

/-- The greatest number of digits of an amount. -/
def amountDigits : Nat := 18

/-- The number of places of an amount. -/
def amountPlaces : Nat := 2

/-- An amount. -/
def amount (d : Decimal) : Except Failure Value :=
  match d.quantize? amountDigits amountPlaces with
  | some rounded => .ok (.text rounded.toPlainText)
  | none => .error (.decimal .outOfBounds)

/-- A date and time in the local zone; one without an offset gets the one that it has there. -/
def inZone : DateTime → Option DateTime
  | .aware t offset => Zone.show? (DateTime.instantAt t offset)
  | .naive t => some (.aware t (Zone.toOffset (Zone.offsetOfLocal t)))

/-- The failure for a date and time that cannot be shown. -/
def timeFailure : DateTime → Failure
  | .aware _ _ => .invalid ["Datetime value out of range."]
  | .naive _ => .timeOutOfRange

/-- A date and time as it is shown, if its instant lies in the calendar. -/
def localTime (d : DateTime) : Except Failure DateTime :=
  match Zone.universal? (Zone.instantOf d), inZone d with
  | some _, some shown => .ok shown
  | _, _ => .error (timeFailure d)

/-- The text of a date and time. -/
def time (d : DateTime) : Except Failure Value := (localTime d).map fun shown => .text shown.isoText

end Shown

/-! ### PaymentResult -/

/-- What a client is told about a payment that was made. -/
structure PaymentResult where
  /-- The provider's name for the charge. -/
  id : Value
  /-- The order that is paid. -/
  orderId : Value
  /-- The provider's name for the customer. -/
  customerId : Value
  /-- The amount that was ordered. -/
  amount : Decimal
  currency : Value
  /-- The status of the charge. -/
  status : Value
  /-- When the charge was made. -/
  createdAt : DateTime
  /-- The authorization of the bank. -/
  transactionId : Value
  /-- Where the customer confirms the charge. -/
  confirmationUrl : Value
  /-- What went wrong. -/
  errorMessage : Value

/-- The object that is sent for a result. -/
def PaymentResult.toJson (r : PaymentResult) : Except Failure Value := do
  let amount ← Shown.amount r.amount
  let createdAt ← Shown.time r.createdAt
  return .object [("id", Shown.text r.id), ("order_id", Shown.text r.orderId),
    ("customer_id", Shown.text r.customerId), ("amount", amount),
    ("currency", Shown.text r.currency), ("status", Shown.text r.status),
    ("created_at", createdAt), ("transaction_id", Shown.text r.transactionId),
    ("three_d_secure_url", Shown.text r.confirmationUrl),
    ("error_message", Shown.text r.errorMessage)]

end CardPayments
