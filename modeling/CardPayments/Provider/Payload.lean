import CardPayments.Failure
import CardPayments.Time.Reader

/-!
# The provider's payloads

A customer, a card and a charge as the provider knows them, and a charge as it is ordered.  `toPayload`
is the object that is sent for one, `ofPayload` what is understood of an object that was received.

The provider may send anything in any field, so fields hold JSON values.  A missing field counts as
null; a name or an address that is not truthy counts as empty; dates and amounts are read from
whatever text the value has.  The check value of a card is never taken from an answer.
-/

namespace CardPayments

namespace Provider

open Json

/-- The fields of an answer that has to be an object. -/
def fieldsOf : Value → Except Failure (List (Text × Value))
  | .object fields => .ok fields
  | v => .error (.noOperation v.kindName "get")

/-- The value of a field; null when it is missing. -/
def field (fields : List (Text × Value)) (name : Text) : Value :=
  (Value.lookup? name fields).getD .null

/-- Reads the text of a value as a date and time; a value that is not truthy has none. -/
def readDate (v : Value) : Except Failure (Option DateTime) :=
  if v.isTruthy then (DateTime.read v.display).mapError .time else .ok none

/-- Reads the text of a value as an amount; null and the empty text are none. -/
def readAmount : Value → Except Failure (Option Decimal)
  | .null => .ok none
  | .text [] => .ok none
  | v => ((Decimal.read v.display).map some).mapError .decimal

/-! ### Customer -/

/-- A customer of the provider. -/
structure Customer where
  name : Value
  /-- The e-mail address. -/
  email : Value
  /-- Does the provider keep an account for the customer? -/
  requiresAccount : Bool
  /-- The provider's name for the customer; null before there is one. -/
  id : Value
  /-- When the provider created the customer. -/
  creationDate : Option DateTime
  deriving Inhabited

namespace Customer

/-- A customer that the provider does not know yet. -/
def ofNameAndEmail (name email : Text) : Customer := ⟨name, email, false, .null, none⟩

/-- The object that is sent for a customer; the identifier is left out when it is not truthy. -/
def toPayload (c : Customer) : Value :=
  let known : List (Text × Value) := if c.id.isTruthy then [("id", c.id)] else []
  .object (("name", c.name) :: ("email", c.email) ::
    ("requires_account", .bool c.requiresAccount) :: known)

/-- The customer that an answer describes. -/
def ofPayload (answer : Value) : Except Failure Customer := do
  let fields ← fieldsOf answer
  let creationDate ← readDate (field fields "creation_date")
  return {
    name := (field fields "name").orEmpty
    email := (field fields "email").orEmpty
    requiresAccount := (field fields "requires_account").isTruthy
    id := field fields "id"
    creationDate := creationDate }

end Customer

/-! ### Card -/

/-- A card at the provider. -/
structure Card where
  /-- The number; the provider sends it back masked. -/
  number : Value
  /-- The name on the card. -/
  holderName : Value
  /-- The year of expiry. -/
  expirationYear : Value
  /-- The month of expiry. -/
  expirationMonth : Value
  check : Value
  /-- The session of the device on which the card was entered. -/
  deviceSession : Value
  /-- The provider's name for the card: the token. -/
  id : Value
  /-- When the provider created the token. -/
  creationDate : Option DateTime
  /-- The brand of the card. -/
  brand : Value
  deriving Inhabited

namespace Card

/-- The object that is sent for a card. -/
def toPayload (c : Card) : Value :=
  .object [("card_number", c.number), ("holder_name", c.holderName),
    ("expiration_year", c.expirationYear), ("expiration_month", c.expirationMonth),
    ("cvv2", c.check), ("device_session_id", c.deviceSession)]

/-- The card that an answer describes; it keeps the session in which it was sent. -/
def ofPayload (deviceSession answer : Value) : Except Failure Card := do
  let fields ← fieldsOf answer
  let creationDate ← readDate (field fields "creation_date")
  return {
    number := (field fields "card_number").orEmpty
    holderName := (field fields "holder_name").orEmpty
    expirationYear := (field fields "expiration_year").orEmpty
    expirationMonth := (field fields "expiration_month").orEmpty
    check := ""
    deviceSession := deviceSession
    id := field fields "id"
    creationDate := creationDate
    brand := field fields "brand" }

end Card

/-! ### ChargeOrder -/

/-- A charge as it is ordered. -/
structure ChargeOrder where
  /-- How the money is taken. -/
  method : Value
  /-- The token of the card. -/
  sourceId : Value
  amount : Decimal
  currency : Value
  /-- What the customer is shown. -/
  description : Value
  /-- The session of the device on which the card was entered. -/
  deviceSession : Value
  /-- The order that is paid. -/
  orderId : Value
  /-- Is the customer asked to confirm the charge? -/
  confirms : Bool
  /-- Where the customer returns after that. -/
  redirectUrl : Value
  /-- The customer who pays. -/
  customer : Customer

/-- The object that is sent for a charge.  The amount is sent as a binary number. -/
def ChargeOrder.toPayload (c : ChargeOrder) : Except Failure Value :=
  match c.amount.toBinary64? with
  | none => .error .signalingDecimal
  | some amount => .ok (.object [("method", c.method), ("source_id", c.sourceId),
      ("amount", .float amount), ("currency", c.currency), ("description", c.description),
      ("device_session_id", c.deviceSession), ("order_id", c.orderId),
      ("use_3d_secure", .bool c.confirms), ("redirect_url", c.redirectUrl),
      ("customer", c.customer.toPayload)])

/-! ### Charge -/

/-- A charge at the provider. -/
structure Charge where
  /-- The provider's name for the charge. -/
  id : Value
  status : Value
  /-- The amount that was taken. -/
  amount : Option Decimal
  /-- The authorization of the bank. -/
  authorization : Value
  /-- When the provider created the charge. -/
  creationDate : Option DateTime
  /-- What went wrong. -/
  errorMessage : Value
  /-- The order that is paid. -/
  orderId : Value
  /-- Where the customer confirms the charge. -/
  confirmationUrl : Value
  /-- The answer itself. -/
  raw : Value
  deriving Inhabited

/-- The charge that an answer describes.  Of several things that are wrong with it the amount is
reported first, then the date, then the method of payment. -/
def Charge.ofPayload (answer : Value) : Except Failure Charge := do
  let fields ← fieldsOf answer
  let method := field fields "payment_method"
  let amount ← readAmount (field fields "amount")
  let creationDate ← readDate (field fields "creation_date")
  let methodFields ← if method.isTruthy then fieldsOf method else .ok []
  return {
    id := (field fields "id").orEmpty
    status := field fields "status"
    amount := amount
    authorization := field fields "authorization"
    creationDate := creationDate
    errorMessage := field fields "error_message"
    orderId := field fields "order_id"
    confirmationUrl := field methodFields "url"
    raw := answer }

end Provider

end CardPayments
