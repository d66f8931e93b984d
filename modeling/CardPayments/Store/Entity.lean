import CardPayments.Text

/-!
# The kinds of stored rows

Eight kinds of rows are kept: the providers, the payment methods, the billing customers with their key
values, the card transactions with the history of their status, and the logs of charges with their
details.
-/

namespace CardPayments

/-- A kind of stored row. -/
inductive Entity where
  /-- A payment provider. -/
  | provider
  /-- A payment method: one attempt to pay. -/
  | method
  /-- A billing customer. -/
  | customer
  /-- A named value of a billing customer. -/
  | keyInfo
  /-- A card transaction. -/
  | transaction
  /-- One status that a card transaction had. -/
  | history
  /-- The log of a charge. -/
  | log
  /-- The request and the answer behind the log of a charge. -/
  | details
  deriving DecidableEq

namespace Entity

/-- All kinds of rows. -/
def all : List Entity :=
  [provider, method, customer, keyInfo, transaction, history, log, details]

/-- The name of a kind of rows, as answers give it. -/
def title : Entity → Text
  | provider => "PaymentProvider"
  | method => "PaymentMethod"
  | customer => "BillingCustomer"
  | keyInfo => "BillingCustomerKeyInfo"
  | transaction => "CardTransaction"
  | history => "TransactionStatusHistory"
  | log => "PayinLog"
  | details => "PayinLogDetails"

/-- The name of the table that holds the rows of a kind. -/
def tableName (e : Entity) : Text := "payments_" ++ e.title.map CodePoint.asciiLower

/-- The kind of rows with the given name. -/
def ofTitle? (t : Text) : Option Entity := all.find? fun e => e.title = t

end Entity

end CardPayments
