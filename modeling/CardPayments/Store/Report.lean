import CardPayments.Payment.Result
import CardPayments.Store.Record

/-!
# Reports

What is told about a stored customer and its transactions: JSON objects in which instants are shown as
local times and amounts with their places.  The masked check value of a card is not part of a report.
-/

namespace CardPayments

open Json

namespace Report

/-- A stored instant. -/
def instant : Option LocalTime → Except Failure Value
  | none => .ok .null
  | some t => Shown.time (.aware t Offset.utc)

/-- A text that may be missing. -/
def text? : Option Text → Value
  | none => .null
  | some t => .text t

/-- An integer that may be missing. -/
def int? : Option Int → Value
  | none => .null
  | some n => .int n

/-- An amount of a transaction. -/
def amount (a : Amount) : Except Failure Value :=
  match a.read? transactionPlaces with
  | none => .error (.decimal .outOfBounds)
  | some d => Shown.amount d

/-- One status of a transaction. -/
def status (r : HistoryRow) : Except Failure Value := do
  return .object [("id", .int r.id), ("status", .text r.status), ("notes", text? r.notes),
    ("created_date", ← instant r.audit.createdDate)]

/-- A transaction with its history. -/
def transaction (s : Store) (r : TransactionRow) : Except Failure Value := do
  let amount ← amount r.amount
  let history ← (s.historyOf r.id).mapM status
  return .object [("id", .int r.id), ("status_history", .list history),
    ("created_by", int? r.audit.createdBy), ("created_date", ← instant r.audit.createdDate),
    ("updated_by", int? r.audit.updatedBy), ("updated_date", ← instant r.audit.updatedDate),
    ("transaction_customer_id", .text r.transactionCustomerId),
    ("transaction_id", .text r.transactionId), ("payment_method", .text r.paymentMethod),
    ("transaction_type", .text r.transactionType), ("order_id", text? r.orderId),
    ("transaction_status", .text r.transactionStatus),
    ("transaction_reference_id", text? r.transactionReferenceId),
    ("transaction_date", ← instant r.transactionDate), ("currency_code", .text r.currencyCode),
    ("credit_card_owner_name", .text r.ownerName),
    ("credit_card_expire_year", .int r.expireYear),
    ("credit_card_expire_month", .int r.expireMonth), ("credit_card_number", .text r.cardNumber),
    ("description", text? r.description), ("amount", amount),
    ("is_transaction_success", .bool r.isSuccess), ("redirect_url", text? r.redirectUrl),
    ("transaction_message", text? r.message), ("customer", .int r.customerId)]

/-- Transactions with their histories. -/
def transactions (s : Store) (rows : List TransactionRow) : Except Failure (List Value) :=
  rows.mapM (transaction s)

/-- A named value of a customer. -/
def keyInfo (r : KeyInfoRow) : Value :=
  .object [("key_name", .text r.keyName), ("key_value", .text r.keyValue)]

/-- The name of the provider through which a customer first paid. -/
def providerName (s : Store) (r : CustomerRow) : Value :=
  text? (((s.methods.find? r.methodId).bind fun m => s.providers.find? m.providerId).map
    ProviderRow.name)

/-- A customer with its named values and its transactions. -/
def customer (s : Store) (r : CustomerRow) : Except Failure Value := do
  let rows ← s.loadTransactionsOf r.id
  let transactions ← transactions s rows
  return .object [("id", .int r.id), ("name", .text r.name), ("email", .text r.email),
    ("phone_number", .text r.phoneNumber), ("two_letter_iso_code", .text r.countryCode),
    ("api_customer_id", .text r.apiCustomerId), ("payment_method", .int r.methodId),
    ("payment_provider", providerName s r), ("created_date", ← instant r.audit.createdDate),
    ("key_infos", .list ((s.keyInfosOf r.id).map keyInfo)), ("card_transactions", .list transactions)]

/-- The report on the customer with the key that a value denotes. -/
def customerWithKey (s : Store) (key : Value) : Except Failure Value := do
  customer s (← Store.getRow .customer s.customers key)

/-- A line of a short list of transactions: the key, the name of the customer, the provider's name for
the transaction, and its states. -/
def line (s : Store) (r : TransactionRow) : Value :=
  let name := text? ((s.customers.find? r.customerId).map CustomerRow.name)
  .list [.int r.id, name, .text r.transactionId,
    .list ((s.historyOf r.id).map fun h => .text h.status)]

/-- The report on the transactions that pass a filter, in full or in short lines. -/
def listed (s : Store) (filter : Store.TransactionFilter) (inFull : Bool) : Except Failure Value := do
  let rows ← s.askTransactions filter
  if inFull then return .list (← transactions s rows)
  else return .list (rows.map (line s))

end Report

end CardPayments
