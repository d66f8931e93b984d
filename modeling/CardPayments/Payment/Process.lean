import CardPayments.Card.Mask
import CardPayments.Choices
import CardPayments.Payment.Request
import CardPayments.Payment.Result
import CardPayments.Payment.Service
import CardPayments.Provider.Client

/-!
# Taking a payment

`PaymentService.process` is the program that takes one payment.  Its steps follow each other strictly,
and each leaves its rows behind for good:

1. a payment method, the record of the attempt;
2. the billing customer, found by exact name and address, or created at the provider;
3. the customer becomes the owner of the payment method;
4. the card is exchanged for a token, which is written as a transaction;
5. the charge is made, and written as a log and as a transaction.

A failure ends the payment.  It is noted by the step in which it arises and by the payment as a whole,
and it is the failure of the payment.
-/

namespace CardPayments

namespace PaymentService

open Json

/-! ### Constants -/

/-- The amount of every charge. -/
def chargeAmount : Decimal := .finite false 10000 (-2)

/-- The currency of every charge. -/
def currencyCode : Text := "MXN"

/-- The country of every customer. -/
def countryCode : Text := "MX"

/-- The greatest length of the name on the card in a log. -/
def loggedNameLimit : Nat := 100

/-- A note on the course of a payment. -/
def noteStep (message : Text) : Program Unit := .note (Journal.info .payment message)

/-- Notes a failure in the course of a payment. -/
def notingFailure {α : Type} (message : Text) : Program α → Program α :=
  .noting (Journal.error .payment message)

/-- The offer of a key. -/
def keyOffer (id : Nat) : Offer := .value (.int id)

/-! ### The attempt -/

/-- What is fixed before a payment begins to leave traces. -/
structure Attempt where
  service : PaymentService
  /-- The time of the payment. -/
  now : DateTime
  request : PaymentRequest
  /-- The device session: that of the request, or the one that stands in for a blank one. -/
  deviceSession : Value
  /-- The year of expiry. -/
  expireYear : Int
  /-- The month of expiry. -/
  expireMonth : Int

/-- The device session of a payment. -/
def deviceSessionFor (s : PaymentService) (request : PaymentRequest) : Value :=
  if Text.isBlank request.deviceSession then s.defaultDeviceSession else request.deviceSession

/-- The attempt that a request asks for; the expiry has to be two integers. -/
def attempt (s : PaymentService) (now : DateTime) (request : PaymentRequest) :
    Except Failure Attempt := do
  let year ← (Numeral.readInteger request.expirationYear).mapError .numeral
  let month ← (Numeral.readInteger request.expirationMonth).mapError .numeral
  return ⟨s, now, request, s.deviceSessionFor request, year, month⟩

namespace Attempt

variable (a : Attempt)

/-! ### The payment method -/

/-- The payment method of the attempt. -/
def methodDraft (token : Text) : MethodDraft where
  audit := { createdDate := a.now }
  provider := keyOffer a.service.provider.id
  token := token

/-- Writes the payment method. -/
def createMethod : Program Nat := do
  noteStep "Creating PaymentMethod..."
  let method ← notingFailure "Error creating PaymentMethod" do
    .insert (.method (a.methodDraft (← .chooseToken)))
  noteStep ("PaymentMethod created with ID: " ++ Text.ofNat method)
  return method

/-! ### The customer -/

/-- The customer of the attempt: as the provider knows it, and the key of its row. -/
structure Payer where
  /-- The customer as the provider knows it. -/
  customer : Provider.Customer
  /-- The key of the billing customer. -/
  id : Nat
  deriving Inhabited

/-- The provider's name for the customer; the empty text when there is none. -/
def Payer.name (p : Payer) : Value := p.customer.id.orEmpty

/-- The customer that a row stands for. -/
def payerOfRow (r : CustomerRow) : Payer := ⟨⟨r.name, r.email, false, r.apiCustomerId, none⟩, r.id⟩

/-- The billing customer of the attempt. -/
def customerDraft (method : Nat) (created : Provider.Customer) : CustomerDraft where
  audit := { createdDate := a.now }
  countryCode := countryCode
  name := a.request.name
  email := a.request.email
  apiCustomerId := .value created.id.orEmpty
  method := keyOffer method

/-- Creates the customer at the provider and writes its row. -/
def createPayer (method : Nat) : Program Payer := do
  let created ← a.service.account.createCustomer (.ofNameAndEmail a.request.name a.request.email)
  let id ← .insert (.customer (a.customerDraft method created) a.now)
  return ⟨created, id⟩

/-- Finds the customer, or creates it. -/
def resolvePayer (method : Nat) : Program Payer := do
  noteStep ("Resolving OpenPay customer for " ++ a.request.email)
  let (payer, isNew) ← notingFailure ("Error creating customer in OpenPay for " ++ a.request.email) do
    match ← .findCustomer a.request.name a.request.email with
    | some r => do
      noteStep ("Reusing customer with ID: " ++ r.apiCustomerId)
      return (payerOfRow r, false)
    | none => do return (← a.createPayer method, true)
  if isNew then noteStep ("Customer created with ID: " ++ payer.customer.id.display)
  return payer

/-- Makes the customer the owner of the payment method. -/
def attachOwner (method : Nat) (payer : Payer) : Program Unit := do
  let owner := "BillingCustomerId: " ++ Text.ofNat payer.id
  noteStep ("Updating PaymentMethod for " ++ owner)
  notingFailure ("Error updating PaymentMethod for " ++ owner) do
    match ← .commit (.owner method (keyOffer payer.id) a.now) with
    | some _ => return
    | none =>
      .note (Journal.warning .payment ("PaymentMethod with ID: " ++ Text.ofNat method ++ " not found"))
      .fail (.methodNotFound method)
  noteStep ("PaymentMethod updated for " ++ owner)

/-! ### The card -/

/-- The card of the attempt. -/
def card : Provider.Card where
  number := a.request.cardNumber
  holderName := a.request.name
  expirationYear := a.request.expirationYear
  expirationMonth := a.request.expirationMonth
  check := a.request.check
  deviceSession := a.deviceSession
  id := .null
  creationDate := none
  brand := .null

/-- What the two transactions of the attempt have in common: the customer, the order, and the masked
card. -/
def transactionDraft (payer : Payer) : TransactionDraft where
  audit := { createdBy := keyOffer payer.id, createdDate := a.now }
  customer := keyOffer payer.id
  transactionCustomerId := .value payer.name
  paymentMethod := MethodKind.card.label
  orderId := a.request.orderId
  currencyCode := currencyCode
  ownerName := a.request.name
  expireYear := .value (.int a.expireYear)
  expireMonth := .value (.int a.expireMonth)
  cardNumber := Card.maskNumber a.request.cardNumber
  cardCheck := Card.maskCheck a.request.check

/-- The transaction for the token of the card. -/
def tokenDraft (payer : Payer) (token : Provider.Card) : TransactionDraft :=
  { a.transactionDraft payer with
    transactionId := .value token.id.orEmpty
    transactionType := TransactionKind.tokenization.label
    transactionStatus := TransactionState.completed.label
    transactionDate := .ofTime? token.creationDate
    amount := .decimal chargeAmount
    message := ("Card created with ID: " ++ token.id.display : Text)
    isSuccess := .value (.bool true) }

/-- What is noted about the status of a token. -/
def tokenNotes : Value := "Card tokenization successful"

/-- Exchanges the card for a token. -/
def createToken (payer : Payer) : Program Provider.Card := do
  noteStep "Creating card token in OpenPay..."
  notingFailure ("Error creating card token in OpenPay for holder " ++ a.request.name) do
    let token ← a.service.account.createCardToken a.card
    noteStep ("Card created with ID: " ++ token.id.display)
    let _ ← .insert (.transaction (a.tokenDraft payer token) tokenNotes a.now)
    return token

/-! ### The charge -/

/-- The charge of the attempt. -/
def order (payer : Payer) (token : Provider.Card) : Provider.ChargeOrder where
  method := MethodKind.card.label
  sourceId := token.id.orEmpty
  amount := chargeAmount
  currency := currencyCode
  description := ("Order: " ++ a.request.orderId : Text)
  deviceSession := a.deviceSession
  orderId := a.request.orderId
  confirms := true
  redirectUrl := a.service.redirectUrl
  customer := payer.customer

/-- The status of a charge as a text. -/
def statusText : Value → Except Failure (Option Text)
  | .null => .ok none
  | .text t => .ok (some t)
  | v => .error (.noOperation v.kindName "lower")

/-- The status of a charge as it is stored and shown: unknown when the provider gives none. -/
def statusOf (charge : Provider.Charge) : Value :=
  if charge.status.isTruthy then charge.status else PaymentStatus.unknown.label

/-- The log of the charge, given the code of its outcome. -/
def logDraft (payer : Payer) (method : Nat) (charge : Provider.Charge) (outcome : Int) : LogDraft where
  audit := { createdBy := keyOffer payer.id, createdDate := a.now }
  referenceNo := a.request.orderId
  method := keyOffer method
  methodName := a.service.provider.name
  payinType := .value (.int PayinKind.charge.choice.code)
  apiNo1 := .value charge.id
  amount := .decimal chargeAmount
  amountFromApi := .ofDecimal? charge.amount
  lastFour := Card.lastFour a.request.cardNumber
  ownerName := a.request.name.take loggedNameLimit
  currency := currencyCode
  result := .value (.int outcome)

/-- The transaction for the charge, given its status as a text. -/
def chargeDraft (payer : Payer) (charge : Provider.Charge) (status : Option Text) :
    TransactionDraft :=
  { a.transactionDraft payer with
    transactionId := .value charge.id
    transactionType := TransactionKind.charge.label
    transactionStatus := .value (statusOf charge)
    transactionDate := .ofTime? charge.creationDate
    amount := .decimal (charge.amount.getD chargeAmount)
    isSuccess := .value (.bool
      (status.any fun t => Text.lower t = PaymentStatus.success.label))
    redirectUrl := .value charge.confirmationUrl
    message := .value charge.errorMessage }

/-- Writes the log of a charge and its transaction. -/
def recordCharge (payer : Payer) (method : Nat) (order : Provider.ChargeOrder)
    (charge : Provider.Charge) : Program Unit := do
  let status ← .ofExcept (statusText charge.status)
  let payload ← .ofExcept order.toPayload
  let draft := a.logDraft payer method charge (PaymentStatus.codeOf status)
  let _ ← .insert (.log draft payload charge.raw a.now)
  let _ ← .insert (.transaction (a.chargeDraft payer charge status) charge.errorMessage a.now)

/-- Makes the charge. -/
def createCharge (payer : Payer) (token : Provider.Card) (method : Nat) : Program Provider.Charge := do
  noteStep "Creating charge in OpenPay..."
  let order := a.order payer token
  let sum := chargeAmount.toText ++ " " ++ currencyCode
  notingFailure ("Error creating charge in OpenPay for amount " ++ sum) do
    let charge ← a.service.account.createCharge order
    noteStep ("Charge created with ID: " ++ charge.id.display)
    a.recordCharge payer method order charge
    return charge

/-! ### The result -/

/-- What the client is told about the charge. -/
def result (payer : Payer) (charge : Provider.Charge) : PaymentResult where
  id := charge.id
  orderId := a.request.orderId
  customerId := payer.name
  amount := chargeAmount
  currency := currencyCode
  status := statusOf charge
  createdAt := charge.creationDate.getD a.now
  transactionId := charge.authorization
  confirmationUrl := charge.confirmationUrl
  errorMessage := charge.errorMessage

/-- The steps of the attempt. -/
def steps : Program PaymentResult := do
  let method ← a.createMethod
  let payer ← a.resolvePayer method
  a.attachOwner method payer
  let token ← a.createToken payer
  let charge ← a.createCharge payer token method
  return a.result payer charge

end Attempt

/-- Takes a payment. -/
def process (s : PaymentService) (now : DateTime) (request : PaymentRequest) :
    Program PaymentResult := do
  noteStep ("Starting combined customer, card, and payment process for order " ++ request.orderId)
  notingFailure ("Error in combined payment process for order " ++ request.orderId) do
    let attempt ← .ofExcept (s.attempt now request)
    attempt.steps

end PaymentService

end CardPayments
