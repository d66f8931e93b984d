import CardPayments.Program
import CardPayments.Provider.Payload
import CardPayments.Settings

/-!
# Calling the provider

The three calls that a payment needs: a customer is created, a card is exchanged for a token, a charge
is made.  Each is a single call.  Statuses 200 and 201 mean that the provider did what was asked; any
other status is a refusal.  A failure is noted and goes on as it is.
-/

namespace CardPayments

namespace Provider

namespace Account

/-- Does the status of an answer say that the provider did what was asked? -/
def isAccepted (status : Int) : Bool := status = 200 || status = 201

/-- The call that posts an object under a path of the merchant. -/
def callOf (a : Account) (path : Text) (payload : Json.Value) : Call where
  url := a.baseUrl ++ "/" ++ path
  privateKey := a.privateKey
  payload := payload
  timeout := a.timeout

/-- What a reply tells: the answer of the provider, or why there is none. -/
def answerOf : Reply → Except Failure Json.Value
  | .broken kind message => .error (.transport kind message)
  | .answered status body =>
    if isAccepted status then (Json.read body).mapError .json
    else .error (.refused (.ofAnswer status body))

/-- Posts an object under a path of the merchant. -/
def post (a : Account) (path : Text) (payload : Json.Value) : Program Json.Value := do
  .ofExcept (answerOf (← .call (a.callOf path payload)))

/-- A note on the calls. -/
def noteCall (message : Text) : Program Unit := .note (Journal.info .provider message)

/-- Notes a failure of the calls. -/
def notingFailure {α : Type} (message : Text) : Program α → Program α :=
  .noting (Journal.error .provider message)

/-- Creates a customer. -/
def createCustomer (a : Account) (c : Customer) : Program Customer := do
  noteCall ("Creating customer with email: " ++ c.email.display)
  let created ← notingFailure ("Failed to create customer with email: " ++ c.email.display) do
    .ofExcept (Customer.ofPayload (← a.post "customers" c.toPayload))
  noteCall ("Successfully created customer with ID: " ++ created.id.display)
  return created

/-- Exchanges a card for a token. -/
def createCardToken (a : Account) (c : Card) : Program Card := do
  noteCall ("Creating card token for holder: " ++ c.holderName.display)
  let token ← notingFailure ("Failed to create card token for holder: " ++ c.holderName.display) do
    .ofExcept (Card.ofPayload c.deviceSession (← a.post "cards" c.toPayload))
  noteCall ("Successfully created card token with ID: " ++ token.id.display)
  return token

/-- Makes a charge. -/
def createCharge (a : Account) (order : ChargeOrder) : Program Charge := do
  let sum := order.amount.toText ++ " " ++ order.currency.display
  noteCall ("Creating charge for amount: " ++ sum)
  let charge ← notingFailure ("Failed to create charge for amount: " ++ sum) do
    let payload ← .ofExcept order.toPayload
    .ofExcept (Charge.ofPayload (← a.post "charges" payload))
  noteCall ("Successfully created charge with ID: " ++ charge.id.display)
  return charge

end Account

end Provider

end CardPayments
