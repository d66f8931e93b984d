import CardPayments.Json.Reader
import CardPayments.Store.Query

/-!
# Records

A row of any table as a list of named cells, in the order of the columns, the way it is read: instants
are given in universal time, amounts are rounded to the places of their column, and documents are read
from their text.  `Store.records` lists the rows of a kind, and `Store.changesTo` compares two
stores: which rows were added, which cells of a row are different, and which rows are gone.
-/

namespace CardPayments

/-- What a column of a row holds. -/
inductive Cell where
  /-- Nothing. -/
  | null
  /-- A truth value. -/
  | bool (b : Bool)
  /-- An integer. -/
  | int (n : Int)
  /-- A text. -/
  | text (t : Text)
  /-- An amount as it is read; one with too many digits cannot be read. -/
  | amount (d : Option Decimal)
  /-- An instant. -/
  | time (t : DateTime)
  /-- A document. -/
  | document (v : Json.Value)

/-- The cells of a row with the names of their columns. -/
abbrev Record := List (Text × Cell)

namespace Cell

/-- A column that may be empty. -/
def ofOption {α : Type} (make : α → Cell) : Option α → Cell
  | some a => make a
  | none => null

/-- A text that may be missing. -/
def ofText? : Option Text → Cell := ofOption text

/-- An integer that may be missing. -/
def ofInt? : Option Int → Cell := ofOption int

/-- An instant that may be missing. -/
def ofInstant? : Option LocalTime → Cell := ofOption fun t => time (.aware t Offset.utc)

/-- An amount in a column with the given number of places. -/
def ofAmount? (places : Nat) : Option Amount → Cell := ofOption fun a => amount (a.read? places)

/-- A document that is kept as a text. -/
def ofDocument? : Option Text → Cell := ofOption fun t => document ((Json.read t).toOption.getD .null)

end Cell

/-- The cells for who wrote a row and when. -/
def Audit.record (a : Audit) : Record :=
  [("created_by", .ofInt? a.createdBy), ("created_date", .ofInstant? a.createdDate),
   ("updated_by", .ofInt? a.updatedBy), ("updated_date", .ofInstant? a.updatedDate)]

/-- The record of a row with the usual first columns. -/
def Record.ofRow (id : Nat) (audit : Audit) (cells : Record) : Record :=
  ("id", .int id) :: (audit.record ++ cells)

/-- The cells of a payment provider. -/
def ProviderRow.record (r : ProviderRow) : Record :=
  [("id", .int r.id), ("created_by", .ofInt? r.createdBy), ("created_date", .ofInstant? r.createdDate),
   ("name", .text r.name), ("api_url", .text r.apiUrl), ("is_production", .bool r.isProduction),
   ("is_active", .bool r.isActive)]

/-- The cells of a payment method. -/
def MethodRow.record (r : MethodRow) : Record :=
  .ofRow r.id r.audit
    [("payment_provider_id", .int r.providerId), ("token", .text r.token), ("status", .bool r.status)]

/-- The cells of a billing customer. -/
def CustomerRow.record (r : CustomerRow) : Record :=
  .ofRow r.id r.audit
    [("two_letter_iso_code", .text r.countryCode), ("name", .text r.name), ("email", .text r.email),
     ("phone_number", .text r.phoneNumber), ("api_customer_id", .text r.apiCustomerId),
     ("payment_method_id", .int r.methodId)]

/-- The cells of a named value of a customer. -/
def KeyInfoRow.record (r : KeyInfoRow) : Record :=
  .ofRow r.id r.audit
    [("billing_customer_id", .int r.customerId), ("key_name", .text r.keyName),
     ("key_value", .text r.keyValue)]

/-- The cells of a card transaction. -/
def TransactionRow.record (r : TransactionRow) : Record :=
  .ofRow r.id r.audit
    [("customer_id", .int r.customerId), ("transaction_customer_id", .text r.transactionCustomerId),
     ("transaction_id", .text r.transactionId), ("payment_method", .text r.paymentMethod),
     ("transaction_type", .text r.transactionType), ("order_id", .ofText? r.orderId),
     ("transaction_status", .text r.transactionStatus),
     ("transaction_reference_id", .ofText? r.transactionReferenceId),
     ("transaction_date", .ofInstant? r.transactionDate), ("currency_code", .text r.currencyCode),
     ("credit_card_owner_name", .text r.ownerName), ("credit_card_expire_year", .int r.expireYear),
     ("credit_card_expire_month", .int r.expireMonth), ("credit_card_number", .text r.cardNumber),
     ("credit_card_cvv2", .text r.cardCheck), ("description", .ofText? r.description),
     ("amount", .ofAmount? transactionPlaces (some r.amount)),
     ("is_transaction_success", .bool r.isSuccess), ("redirect_url", .ofText? r.redirectUrl),
     ("transaction_message", .ofText? r.message)]

/-- The cells of a status of a transaction. -/
def HistoryRow.record (r : HistoryRow) : Record :=
  .ofRow r.id r.audit
    [("transaction_id", .int r.transactionId), ("status", .text r.status), ("notes", .ofText? r.notes)]

/-- The cells of the log of a charge. -/
def LogRow.record (r : LogRow) : Record :=
  .ofRow r.id r.audit
    [("reference_no", .ofText? r.referenceNo),
     ("payment_method_id", .ofOption (fun n : Nat => .int n) r.methodId),
     ("payment_method_name", .ofText? r.methodName), ("payin_type", .ofInt? r.payinType),
     ("api_no1", .ofText? r.apiNo1), ("api_no2", .ofText? r.apiNo2),
     ("amount", .ofAmount? logPlaces r.amount),
     ("amount_from_api", .ofAmount? logPlaces r.amountFromApi),
     ("last_four_card_nbr", .ofText? r.lastFour), ("card_owner_name", .ofText? r.ownerName),
     ("currency", .ofText? r.currency), ("result", .ofInt? r.result)]

/-- The cells of the request and the answer behind a log. -/
def DetailsRow.record (r : DetailsRow) : Record :=
  .ofRow r.id r.audit
    [("payin_log_id", .int r.logId), ("post_info", .ofDocument? r.postInfo),
     ("resp_info", .ofDocument? r.respInfo), ("additional_info", .ofText? r.additionalInfo)]

/-! ### Changes -/

/-- How the rows of a kind differ from what they were. -/
structure Changes where
  /-- The rows that are new. -/
  added : List Record
  /-- The rows with other cells: their keys and the cells that are different. -/
  updated : List (Nat × Record)
  /-- The keys of the rows that are gone. -/
  deleted : List Nat

namespace Changes

/-- Is there any difference? -/
def isEmpty (c : Changes) : Bool := c.added.isEmpty && c.updated.isEmpty && c.deleted.isEmpty

/-- How a table differs from what it was; `same` says whether two cells are the same. -/
def between {ρ : Type} [Keyed ρ] (same : Cell → Cell → Bool) (record : ρ → Record)
    (before after : Table ρ) : Changes where
  added := (after.rows.filter fun r => !before.has (Keyed.key r)).map record
  updated := after.rows.filterMap fun r =>
    (before.find? (Keyed.key r)).bind fun old =>
      let cells := ((record r).zip (record old)).filter fun pair => !same pair.1.2 pair.2.2
      if cells.isEmpty then none else some (Keyed.key r, cells.map (·.1))
  deleted := (before.rows.filter fun r => !after.has (Keyed.key r)).map Keyed.key

end Changes

/-- Are two cells the same?  Documents never change once they are written, so their texts need not be
compared here. -/
def Cell.same : Cell → Cell → Bool
  | null, null => true
  | bool a, bool b => a = b
  | int a, int b => a = b
  | text a, text b => a = b
  | amount a, amount b => a = b
  | time a, time b => a = b
  | document _, document _ => true
  | _, _ => false

/-- How the rows of every kind differ in a later store. -/
def Store.changesTo (before after : Store) : List (Entity × Changes) :=
  [(.provider, .between Cell.same ProviderRow.record before.providers after.providers),
   (.method, .between Cell.same MethodRow.record before.methods after.methods),
   (.customer, .between Cell.same CustomerRow.record before.customers after.customers),
   (.keyInfo, .between Cell.same KeyInfoRow.record before.keyInfos after.keyInfos),
   (.transaction, .between Cell.same TransactionRow.record before.transactions after.transactions),
   (.history, .between Cell.same HistoryRow.record before.histories after.histories),
   (.log, .between Cell.same LogRow.record before.logs after.logs),
   (.details, .between Cell.same DetailsRow.record before.details after.details)].filter
    fun entry => !entry.2.isEmpty

end CardPayments
