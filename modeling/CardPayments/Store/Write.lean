import CardPayments.Store.Draft

/-!
# Writes

The store is changed by groups of rows that belong together.  A group is written as a whole or not at
all: `Write.apply` gives the new store, or the first thing that is wrong.

Within a group the rows are looked at one after the other.  Whether the rows to which they refer exist
is looked at last.
-/

namespace CardPayments

/-- A group of rows that is written as a whole. -/
inductive Write where
  /-- A payment method. -/
  | method (draft : MethodDraft)
  /-- A billing customer, with the instant of its creation as a named value. -/
  | customer (draft : CustomerDraft) (now : DateTime)
  /-- The owner of a payment method, and when it got one. -/
  | owner (method : Nat) (owner : Offer) (now : DateTime)
  /-- A card transaction with the first entry of its history. -/
  | transaction (draft : TransactionDraft) (notes : Json.Value) (now : DateTime)
  /-- The log of a charge with the request and the answer. -/
  | log (draft : LogDraft) (request answer : Json.Value) (now : DateTime)

/-- The name of the value that holds the instant of a customer's creation. -/
def creationDateKey : Text := "CreationDate"

/-- The greatest length of what is noted about a status. -/
def notesLimit : Nat := 255

/-- The beginning of a text or a list. -/
def Json.Value.beginning (n : Nat) : Json.Value → Except Failure Json.Value
  | .text t => .ok (.text (t.take n))
  | .list items => .ok (.list (items.take n))
  | .object _ => .error .slicedObject
  | v => .error (.notSliceable v.kindName)

/-- What is noted about a status: the beginning of what is offered, if that is truthy. -/
def cutNotes (notes : Json.Value) : Except Failure Json.Value :=
  if notes.isTruthy then notes.beginning notesLimit else .ok notes

/-! ### Rows that follow others -/

/-- Who creates a customer and when. -/
def creationStamp (now : DateTime) : AuditDraft := { createdDate := now }

/-- The named value that holds the instant of a customer's creation. -/
def creationInfo (customer : Nat) (now : DateTime) (key : Nat) : KeyInfoRow :=
  ⟨key, (creationStamp now).audit, customer, creationDateKey, now.isoText⟩

/-- Who becomes the owner of a payment method and when. -/
def ownerStamp (owner : Offer) (now : DateTime) : AuditDraft :=
  { createdBy := owner, updatedBy := owner, updatedDate := now }

/-- The payment method with its owner; it keeps the instant at which it was written. -/
def MethodRow.stamped (r : MethodRow) (stamp : AuditDraft) : MethodRow :=
  { r with audit := { stamp.audit with createdDate := r.audit.createdDate } }

/-- The first entry of the history of a transaction. -/
def TransactionDraft.firstHistory (d : TransactionDraft) (notes : Json.Value) (now : DateTime) :
    HistoryDraft where
  audit := { createdBy := d.audit.createdBy, createdDate := now }
  status := d.transactionStatus
  notes := notes

/-- Who writes the details of a log and when. -/
def LogDraft.detailsStamp (d : LogDraft) (now : DateTime) : AuditDraft :=
  { createdBy := d.audit.createdBy, createdDate := now }

/-- The details of a log. -/
def LogDraft.details (d : LogDraft) (request answer : Json.Value) (now : DateTime) (log key : Nat) :
    DetailsRow :=
  ⟨key, (d.detailsStamp now).audit, log, documentText request, documentText answer, none⟩

/-! ### Writing -/

namespace Store

/-- Ends with a failure if there is one. -/
def refuse : Option Failure → Except Failure Unit
  | some e => .error e
  | none => .ok ()

/-- Ends with a failure unless a row that is referred to exists. -/
def requireRow (found : Bool) : Except Failure Unit :=
  if found then .ok () else .error (.violation .danglingReference)

/-- Writes a payment provider. -/
def insertProvider (s : Store) (d : ProviderDraft) : Except Failure (Nat × Store) := do
  refuse (Field.firstFault? .provider d.fields)
  let row := d.row s.providers.next
  if s.providers.rows.any fun r => r.name = row.name then
    throw (.violation (.duplicate .provider "name"))
  return (s.providers.next, { s with providers := s.providers.insert d.row })

/-- Writes a payment method. -/
def insertMethod (s : Store) (d : MethodDraft) : Except Failure (Nat × Store) := do
  refuse (Field.firstFault? .method d.fields)
  let row := d.row s.methods.next
  if s.methods.rows.any fun r => r.token = row.token then
    throw (.violation (.duplicate .method "token"))
  requireRow (s.providers.has row.providerId)
  return (s.methods.next, { s with methods := s.methods.insert d.row })

/-- Writes a billing customer and the instant of its creation. -/
def insertCustomer (s : Store) (d : CustomerDraft) (now : DateTime) : Except Failure (Nat × Store) := do
  refuse (Field.firstFault? .customer d.fields)
  let id := s.customers.next
  refuse (Field.firstFault? .keyInfo (creationStamp now).fields)
  requireRow (s.methods.has (d.row id).methodId)
  return (id,
    { s with
      customers := s.customers.insert d.row
      keyInfos := s.keyInfos.insert (creationInfo id now) })

/-- Gives a payment method an owner; nothing happens when the method is gone. -/
def stampOwner (s : Store) (method : Nat) (owner : Offer) (now : DateTime) :
    Except Failure (Option Nat × Store) := do
  if s.methods.has method then
    let stamp := ownerStamp owner now
    refuse (Field.firstFault? .method stamp.fields)
    return (some method, { s with methods := s.methods.modify method (·.stamped stamp) })
  else return (none, s)

/-- Writes a card transaction and the first entry of its history. -/
def insertTransaction (s : Store) (d : TransactionDraft) (notes : Json.Value) (now : DateTime) :
    Except Failure (Nat × Store) := do
  refuse (Field.firstFault? .transaction d.fields)
  let id := s.transactions.next
  let history := d.firstHistory (← cutNotes notes) now
  refuse (Field.firstFault? .history history.fields)
  requireRow (s.customers.has (d.row id).customerId)
  return (id,
    { s with
      transactions := s.transactions.insert d.row
      histories := s.histories.insert (history.row id) })

/-- Writes the log of a charge with the request and the answer. -/
def insertLog (s : Store) (d : LogDraft) (request answer : Json.Value) (now : DateTime) :
    Except Failure (Nat × Store) := do
  refuse (Field.firstFault? .log d.fields)
  let id := s.logs.next
  refuse (Field.firstFault? .details (d.detailsStamp now).fields)
  refuse (documentFault? "post_info" request)
  refuse (documentFault? "resp_info" answer)
  requireRow (((d.row id).methodId.map s.methods.has).getD true)
  return (id,
    { s with
      logs := s.logs.insert d.row
      details := s.details.insert (d.details request answer now id) })

/-- Changes a payment provider, and says how many rows were changed. -/
def updateProvider (s : Store) (id : Nat) (change : ProviderDraft → ProviderDraft) :
    Except Failure (Nat × Store) := do
  match s.providers.find? id with
  | none =>
    let fields := (change {}).fields
    refuse ((fields.findSome? Field.unreadable).or (fields.findSome? Field.unstorable))
    return (0, s)
  | some r =>
    let d := change (.ofRow r)
    refuse (Field.firstFault? .provider d.fields)
    if s.providers.rows.any fun other => other.id ≠ id && other.name = (d.row id).name then
      throw (.violation (.duplicate .provider "name"))
    return (1, { s with providers := s.providers.modify id fun _ => d.row id })

end Store

/-- Writes a group of rows: the key of its first row, or none when there was no row to change, and the
new store. -/
def Write.apply (w : Write) (s : Store) : Except Failure (Option Nat × Store) :=
  let some' (r : Nat × Store) : Option Nat × Store := (some r.1, r.2)
  match w with
  | method d => (s.insertMethod d).map some'
  | customer d now => (s.insertCustomer d now).map some'
  | owner id who now => s.stampOwner id who now
  | transaction d notes now => (s.insertTransaction d notes now).map some'
  | log d request answer now => (s.insertLog d request answer now).map some'

end CardPayments
