import CardPayments.Store.Query

/-!
# Deleting rows

A provider cannot be deleted while a payment method uses it, nor a payment method while a billing
customer does.  With a customer go its named values and its transactions, with a transaction its
history, with a log its details.  The logs of a deleted payment method stay and lose their reference.
-/

namespace CardPayments

namespace Store

/-- Removes the payment provider with a key. -/
def removeProvider (s : Store) (id : Nat) : Except Failure Store :=
  if s.methods.rows.any fun r => r.providerId = id then
    .error (.inUse .provider .method "payment_provider")
  else .ok { s with providers := s.providers.keep fun r => r.id ≠ id }

/-- Removes the payment method with a key. -/
def removeMethod (s : Store) (id : Nat) : Except Failure Store :=
  if s.customers.rows.any fun r => r.methodId = id then
    .error (.inUse .method .customer "payment_method")
  else
    let forget (r : LogRow) : LogRow := if r.methodId = some id then { r with methodId := none } else r
    .ok { s with
      methods := s.methods.keep fun r => r.id ≠ id
      logs := { s.logs with rows := s.logs.rows.map forget } }

/-- Removes the transactions with a property and their history. -/
def removeTransactions (s : Store) (p : TransactionRow → Bool) : Store :=
  let gone := (s.transactions.rows.filter p).map TransactionRow.id
  { s with
    transactions := s.transactions.keep fun r => !p r
    histories := s.histories.keep fun r => !gone.contains r.transactionId }

/-- Removes the billing customer with a key, and what belongs to it. -/
def removeCustomer (s : Store) (id : Nat) : Store :=
  let s := s.removeTransactions fun r => r.customerId = id
  { s with
    customers := s.customers.keep fun r => r.id ≠ id
    keyInfos := s.keyInfos.keep fun r => r.customerId ≠ id }

/-- Removes the log with a key and its details. -/
def removeLog (s : Store) (id : Nat) : Store :=
  { s with
    logs := s.logs.keep fun r => r.id ≠ id
    details := s.details.keep fun r => r.logId ≠ id }

/-- The number of rows in all tables. -/
def rowCount (s : Store) : Nat :=
  s.providers.rows.length + s.methods.rows.length + s.customers.rows.length +
    s.keyInfos.rows.length + s.transactions.rows.length + s.histories.rows.length +
    s.logs.rows.length + s.details.rows.length

/-- Deletes the row of a kind with the key that a value denotes: the store without it. -/
def delete (s : Store) (entity : Entity) (v : Json.Value) : Except Failure Store :=
  match entity with
  | .provider => do s.removeProvider (← getRow .provider s.providers v).id
  | .method => do s.removeMethod (← getRow .method s.methods v).id
  | .customer => do return s.removeCustomer (← getRow .customer s.customers v).id
  | .keyInfo => do
    let row ← getRow .keyInfo s.keyInfos v
    return { s with keyInfos := s.keyInfos.keep fun r => r.id ≠ row.id }
  | .transaction => do
    let row ← s.getTransaction v
    return s.removeTransactions fun r => r.id = row.id
  | .history => do
    let row ← getRow .history s.histories v
    return { s with histories := s.histories.keep fun r => r.id ≠ row.id }
  | .log => do return s.removeLog (← s.getLog v).id
  | .details => do
    let row ← getRow .details s.details v
    return { s with details := s.details.keep fun r => r.id ≠ row.id }

end Store

end CardPayments
