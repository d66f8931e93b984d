import CardPayments.Store.Column
import CardPayments.Store.Table

/-!
# Looking up rows

Rows are found by their key, customers by name and address, transactions by any combination of order,
customer and kind.  A customer is found by exact comparison, whatever the comparison with which the
candidates were gathered and the order in which they came, and the oldest of several is taken.

Transactions are loaded as a whole: if the amount of one of them cannot be read, none of them is loaded.
-/

namespace CardPayments

namespace Store

/-- The key that a value denotes; null and a number that is no key denote none. -/
def keyOf? : Json.Value → Except Failure (Option Nat)
  | .null => .ok none
  | v =>
    match v.toInteger with
    | .ok n => .ok (if 0 ≤ n then some n.toNat else none)
    | .error .infiniteInteger => .error .infiniteInteger
    | .error (.notAnInteger _) => .error (.notANumber "id" v.quoted false)
    | .error _ => .error (.notANumber "id" v.quoted true)

/-- The row with the key that a value denotes. -/
def rowOf? {ρ : Type} [Keyed ρ] (t : Table ρ) (v : Json.Value) : Except Failure (Option ρ) :=
  (keyOf? v).map fun key => key.bind t.find?

/-- The row with the key that a value denotes; it has to exist. -/
def getRow {ρ : Type} [Keyed ρ] (entity : Entity) (t : Table ρ) (v : Json.Value) :
    Except Failure ρ := do
  match ← rowOf? t v with
  | some r => return r
  | none => throw (.noRow entity)

/-- Can the amounts of a row be read in columns with the given number of places? -/
def requireReadable (places : Nat) (amounts : List (Option Amount)) : Except Failure Unit :=
  if amounts.all fun a => a.all fun b => (b.read? places).isSome then .ok ()
  else .error (.decimal .outOfBounds)

/-- The transaction with the key that a value denotes; it has to exist and to be readable. -/
def getTransaction (s : Store) (v : Json.Value) : Except Failure TransactionRow := do
  let row ← getRow .transaction s.transactions v
  requireReadable transactionPlaces [some row.amount]
  return row

/-- The log with the key that a value denotes; it has to exist and to be readable. -/
def getLog (s : Store) (v : Json.Value) : Except Failure LogRow := do
  let row ← getRow .log s.logs v
  requireReadable logPlaces [row.amount, row.amountFromApi]
  return row

/-- Puts a row before the first one whose key is not smaller. -/
def insertByKey {ρ : Type} [Keyed ρ] (r : ρ) : List ρ → List ρ
  | [] => [r]
  | first :: rest =>
    if Keyed.key r ≤ Keyed.key first then r :: first :: rest else first :: insertByKey r rest

/-- The rows in the order of their keys, in whatever order they come. -/
def oldestFirst {ρ : Type} [Keyed ρ] (rows : List ρ) : List ρ := rows.foldr insertByKey []

/-- The oldest customer with exactly the given name and address, among the candidates that a looser
comparison of texts gathers. -/
def findCustomerWith (alike : Text → Text → Bool) (s : Store) (name email : Text) :
    Option CustomerRow :=
  let candidates := s.customers.rows.filter fun r => alike r.name name && alike r.email email
  (oldestFirst candidates).find? fun r => r.name = name ∧ r.email = email

/-- The oldest customer with exactly the given name and address. -/
def findCustomer? (s : Store) (name email : Text) : Option CustomerRow :=
  findCustomerWith (fun t u => t = u) s name email

/-- Looks for the oldest customer with exactly the given name and address; neither may hold half of a
surrogate pair, and the address is looked at first. -/
def askCustomer (s : Store) (name email : Text) : Except Failure (Option CustomerRow) :=
  match (Offer.textFault email).or (Offer.textFault name) with
  | some e => .error e
  | none => .ok (s.findCustomer? name email)

/-- Which transactions are asked for. -/
structure TransactionFilter where
  /-- Those of this order. -/
  orderId : Option Text
  /-- Those of the customer with this key; a number that is no key has none. -/
  customer : Option (Option Nat)
  /-- Those of these kinds. -/
  types : Option (List Text)

/-- Does a transaction pass a filter? -/
def TransactionFilter.admits (f : TransactionFilter) (r : TransactionRow) : Bool :=
  (f.orderId.all fun o => r.orderId = some o) &&
    (f.customer.all fun c => c = some r.customerId) &&
    (f.types.all fun ts => ts.contains r.transactionType)

/-- Why a filter cannot be put to the store: texts may not hold half of a surrogate pair, and a key has to fit
64 bits.  The store is not asked at all when no kind is admitted. -/
def TransactionFilter.fault? (f : TransactionFilter) : Option Failure :=
  if f.types = some [] then none
  else
    (f.orderId.bind Offer.textFault).or
      ((f.customer.join.bind fun key => if Offer.fits key then none else some .integerTooLarge).or
        ((f.types.getD []).findSome? Offer.textFault))

/-- The transactions that pass a filter, oldest first. -/
def listTransactions (s : Store) (f : TransactionFilter) : List TransactionRow :=
  s.transactions.rows.filter f.admits

/-- Loads transactions; all of them have to be readable. -/
def loadTransactions (rows : List TransactionRow) : Except Failure (List TransactionRow) := do
  requireReadable transactionPlaces (rows.map fun r => some r.amount)
  return rows

/-- Asks for the transactions that pass a filter, oldest first in whatever order the rows come. -/
def askTransactions (s : Store) (f : TransactionFilter) : Except Failure (List TransactionRow) :=
  match f.fault? with
  | some e => .error e
  | none => loadTransactions (oldestFirst (s.listTransactions f))

/-- The states that a transaction had, oldest first. -/
def historyOf (s : Store) (transaction : Nat) : List HistoryRow :=
  s.histories.rows.filter fun r => r.transactionId = transaction

/-- The transactions of a customer, oldest first. -/
def transactionsOf (s : Store) (customer : Nat) : List TransactionRow :=
  s.transactions.rows.filter fun r => r.customerId = customer

/-- Loads the transactions of a customer. -/
def loadTransactionsOf (s : Store) (customer : Nat) : Except Failure (List TransactionRow) :=
  loadTransactions (s.transactionsOf customer)

/-- The named values of a customer, oldest first. -/
def keyInfosOf (s : Store) (customer : Nat) : List KeyInfoRow :=
  s.keyInfos.rows.filter fun r => r.customerId = customer

end Store

end CardPayments
