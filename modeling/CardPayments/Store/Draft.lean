import CardPayments.Store.Column
import CardPayments.Store.Table

/-!
# Drafts

A draft is a row before it is written: an offer for every column.  `fields` lists its columns in the
order in which they are looked at, and `row` is the row that is written under a key when nothing is
wrong with them.  A column without an offer is empty, or holds the empty text where a text is required.
-/

namespace CardPayments

/-! ### AuditDraft -/

/-- The offers for who wrote a row and when. -/
structure AuditDraft where
  /-- The billing customer who caused the row. -/
  createdBy : Offer := .null
  /-- When it is written. -/
  createdDate : Offer := .null
  /-- The billing customer who caused the last change. -/
  updatedBy : Offer := .null
  /-- When it was last changed. -/
  updatedDate : Offer := .null

namespace AuditDraft

/-- The columns. -/
def fields (d : AuditDraft) : List Field :=
  [.integer "created_by" false d.createdBy, .instant "created_date" false d.createdDate,
   .integer "updated_by" false d.updatedBy, .instant "updated_date" false d.updatedDate]

/-- The columns as they are written. -/
def audit (d : AuditDraft) : Audit :=
  ⟨d.createdBy.integer, d.createdDate.instant, d.updatedBy.integer, d.updatedDate.instant⟩

end AuditDraft

namespace Offer

/-- The text of a required column. -/
def requiredText (o : Offer) : Text := o.text.getD []

/-- The key of a required reference.  No row has the key zero, which stands for every number that is no
key. -/
def requiredKey (o : Offer) : Nat := (o.integer.getD 0).toNat

/-- The truth value of a required column. -/
def requiredBoolean (o : Offer) : Bool := o.boolean.getD false

/-- The integer of a required column. -/
def requiredInteger (o : Offer) : Int := o.integer.getD 0

/-- The amount of a required column. -/
def requiredAmount (o : Offer) : Amount := o.amount.getD ⟨false, 0, 0⟩

end Offer

/-! ### ProviderDraft -/

/-- The offers for a payment provider. -/
structure ProviderDraft where
  /-- Who writes the row. -/
  createdBy : Offer := .null
  /-- When it is written. -/
  createdDate : Offer := .null
  name : Offer := ""
  /-- The address of the provider. -/
  apiUrl : Offer := ""
  /-- Does the provider move real money? -/
  isProduction : Offer := .value (.bool false)
  /-- Is the provider in use? -/
  isActive : Offer := .value (.bool true)

namespace ProviderDraft

/-- The columns. -/
def fields (d : ProviderDraft) : List Field :=
  [.integer "created_by" false d.createdBy, .instant "created_date" false d.createdDate,
   .text "name" true d.name, .text "api_url" true d.apiUrl,
   .boolean "is_production" true d.isProduction, .boolean "is_active" true d.isActive]

/-- The row under a key. -/
def row (d : ProviderDraft) (id : Nat) : ProviderRow where
  id := id
  createdBy := d.createdBy.integer
  createdDate := d.createdDate.instant
  name := d.name.requiredText
  apiUrl := d.apiUrl.requiredText
  isProduction := d.isProduction.requiredBoolean
  isActive := d.isActive.requiredBoolean

/-- The draft of a row that exists. -/
def ofRow (r : ProviderRow) : ProviderDraft where
  createdBy := ((r.createdBy.map Json.Value.int).getD .null : Json.Value)
  createdDate := .ofTime? (r.createdDate.map fun t => .aware t Offset.utc)
  name := r.name
  apiUrl := r.apiUrl
  isProduction := .value (.bool r.isProduction)
  isActive := .value (.bool r.isActive)

end ProviderDraft

/-! ### MethodDraft -/

/-- The offers for a payment method. -/
structure MethodDraft where
  /-- Who writes the row and when. -/
  audit : AuditDraft
  provider : Offer
  /-- The token of the attempt. -/
  token : Offer
  /-- Is the method usable? -/
  status : Offer := .value (.bool true)

namespace MethodDraft

/-- The columns. -/
def fields (d : MethodDraft) : List Field :=
  d.audit.fields ++
    [.reference "payment_provider_id" true d.provider, .text "token" true d.token,
     .boolean "status" true d.status]

/-- The row under a key. -/
def row (d : MethodDraft) (id : Nat) : MethodRow where
  id := id
  audit := d.audit.audit
  providerId := d.provider.requiredKey
  token := d.token.requiredText
  status := d.status.requiredBoolean

end MethodDraft

/-! ### CustomerDraft -/

/-- The offers for a billing customer. -/
structure CustomerDraft where
  /-- Who writes the row and when. -/
  audit : AuditDraft
  countryCode : Offer
  name : Offer
  /-- The e-mail address. -/
  email : Offer
  /-- The telephone number. -/
  phoneNumber : Offer := ""
  /-- The provider's name for the customer. -/
  apiCustomerId : Offer
  /-- The payment method with which the customer first pays. -/
  method : Offer

namespace CustomerDraft

/-- The columns. -/
def fields (d : CustomerDraft) : List Field :=
  d.audit.fields ++
    [.text "two_letter_iso_code" true d.countryCode, .text "name" true d.name,
     .text "email" true d.email, .text "phone_number" true d.phoneNumber,
     .text "api_customer_id" true d.apiCustomerId, .reference "payment_method_id" true d.method]

/-- The row under a key. -/
def row (d : CustomerDraft) (id : Nat) : CustomerRow where
  id := id
  audit := d.audit.audit
  countryCode := d.countryCode.requiredText
  name := d.name.requiredText
  email := d.email.requiredText
  phoneNumber := d.phoneNumber.requiredText
  apiCustomerId := d.apiCustomerId.requiredText
  methodId := d.method.requiredKey

end CustomerDraft

/-! ### TransactionDraft -/

/-- The offers for a card transaction. -/
structure TransactionDraft where
  /-- Who writes the row and when. -/
  audit : AuditDraft
  /-- The billing customer. -/
  customer : Offer := .null
  /-- The provider's name for the customer. -/
  transactionCustomerId : Offer := ""
  /-- The provider's name for the card or the charge. -/
  transactionId : Offer := ""
  /-- How money is taken. -/
  paymentMethod : Offer := ""
  /-- What the transaction does. -/
  transactionType : Offer := ""
  /-- The order that is paid. -/
  orderId : Offer := .null
  transactionStatus : Offer := ""
  /-- A reference of the provider. -/
  transactionReferenceId : Offer := .null
  /-- When it took place. -/
  transactionDate : Offer := .null
  currencyCode : Offer := ""
  /-- The name on the card. -/
  ownerName : Offer := ""
  /-- The year of expiry. -/
  expireYear : Offer := .null
  /-- The month of expiry. -/
  expireMonth : Offer := .null
  /-- The masked number of the card. -/
  cardNumber : Offer := ""
  /-- The masked check value. -/
  cardCheck : Offer := ""
  description : Offer := .null
  amount : Offer := .null
  /-- Did it succeed? -/
  isSuccess : Offer := .value (.bool false)
  /-- Where the customer confirms the charge. -/
  redirectUrl : Offer := .null
  /-- What the provider says about it. -/
  message : Offer := .null

namespace TransactionDraft

/-- The columns. -/
def fields (d : TransactionDraft) : List Field :=
  d.audit.fields ++
    [.reference "customer_id" true d.customer,
     .text "transaction_customer_id" true d.transactionCustomerId,
     .text "transaction_id" true d.transactionId, .text "payment_method" true d.paymentMethod,
     .text "transaction_type" true d.transactionType, .text "order_id" false d.orderId,
     .text "transaction_status" true d.transactionStatus,
     .text "transaction_reference_id" false d.transactionReferenceId,
     .instant "transaction_date" false d.transactionDate,
     .text "currency_code" true d.currencyCode,
     .text "credit_card_owner_name" true d.ownerName,
     .integer "credit_card_expire_year" true d.expireYear,
     .integer "credit_card_expire_month" true d.expireMonth,
     .text "credit_card_number" true d.cardNumber, .text "credit_card_cvv2" true d.cardCheck,
     .text "description" false d.description, .amount "amount" true d.amount,
     .boolean "is_transaction_success" true d.isSuccess,
     .text "redirect_url" false d.redirectUrl, .text "transaction_message" false d.message]

/-- The row under a key. -/
def row (d : TransactionDraft) (id : Nat) : TransactionRow where
  id := id
  audit := d.audit.audit
  customerId := d.customer.requiredKey
  transactionCustomerId := d.transactionCustomerId.requiredText
  transactionId := d.transactionId.requiredText
  paymentMethod := d.paymentMethod.requiredText
  transactionType := d.transactionType.requiredText
  orderId := d.orderId.text
  transactionStatus := d.transactionStatus.requiredText
  transactionReferenceId := d.transactionReferenceId.text
  transactionDate := d.transactionDate.instant
  currencyCode := d.currencyCode.requiredText
  ownerName := d.ownerName.requiredText
  expireYear := d.expireYear.requiredInteger
  expireMonth := d.expireMonth.requiredInteger
  cardNumber := d.cardNumber.requiredText
  cardCheck := d.cardCheck.requiredText
  description := d.description.text
  amount := d.amount.requiredAmount
  isSuccess := d.isSuccess.requiredBoolean
  redirectUrl := d.redirectUrl.text
  message := d.message.text

end TransactionDraft

/-! ### HistoryDraft -/

/-- The offers for one status of a card transaction. -/
structure HistoryDraft where
  /-- Who writes the row and when. -/
  audit : AuditDraft
  status : Offer
  /-- What is noted about it. -/
  notes : Offer

namespace HistoryDraft

/-- The columns. -/
def fields (d : HistoryDraft) : List Field :=
  d.audit.fields ++ [.text "status" true d.status, .text "notes" false d.notes]

/-- The row of a transaction under a key. -/
def row (d : HistoryDraft) (transaction id : Nat) : HistoryRow where
  id := id
  audit := d.audit.audit
  transactionId := transaction
  status := d.status.requiredText
  notes := d.notes.text

end HistoryDraft

/-! ### LogDraft -/

/-- The offers for the log of a charge. -/
structure LogDraft where
  /-- Who writes the row and when. -/
  audit : AuditDraft
  /-- The order that is paid. -/
  referenceNo : Offer := .null
  /-- The payment method. -/
  method : Offer := .null
  /-- The name of the provider. -/
  methodName : Offer := .null
  /-- The code of what was done. -/
  payinType : Offer := .null
  /-- The provider's name for the charge. -/
  apiNo1 : Offer := .null
  /-- A second name of the provider. -/
  apiNo2 : Offer := .null
  /-- The amount that was ordered. -/
  amount : Offer := .null
  /-- The amount that the provider took. -/
  amountFromApi : Offer := .null
  /-- The last four code points of the number of the card. -/
  lastFour : Offer := .null
  /-- The name on the card. -/
  ownerName : Offer := .null
  currency : Offer := .null
  /-- The code of the outcome. -/
  result : Offer := .null

namespace LogDraft

/-- The columns. -/
def fields (d : LogDraft) : List Field :=
  d.audit.fields ++
    [.text "reference_no" false d.referenceNo, .reference "payment_method_id" false d.method,
     .text "payment_method_name" false d.methodName, .integer "payin_type" false d.payinType,
     .text "api_no1" false d.apiNo1, .text "api_no2" false d.apiNo2,
     .amount "amount" false d.amount, .amount "amount_from_api" false d.amountFromApi,
     .text "last_four_card_nbr" false d.lastFour, .text "card_owner_name" false d.ownerName,
     .text "currency" false d.currency, .integer "result" false d.result]

/-- The row under a key. -/
def row (d : LogDraft) (id : Nat) : LogRow where
  id := id
  audit := d.audit.audit
  referenceNo := d.referenceNo.text
  methodId := d.method.integer.map Int.toNat
  methodName := d.methodName.text
  payinType := d.payinType.integer
  apiNo1 := d.apiNo1.text
  apiNo2 := d.apiNo2.text
  amount := d.amount.amount
  amountFromApi := d.amountFromApi.amount
  lastFour := d.lastFour.text
  ownerName := d.ownerName.text
  currency := d.currency.text
  result := d.result.integer

end LogDraft

/-! ### Document -/

/-- The text under which a JSON document is kept; null is not kept. -/
def documentText : Json.Value → Option Text
  | .null => none
  | v => some v.toText

/-- Why a document cannot be kept in a column: it holds a number that is not finite. -/
def documentFault? (column : Text) (v : Json.Value) : Option Failure :=
  if v.isStandard then none else some (.violation (.notJson column))

end CardPayments
