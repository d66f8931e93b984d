import CardPayments.Desk
import CardPayments.Payment.Form
import CardPayments.Payment.Process
import CardPayments.Store.Report

/-!
# Sessions

A session is the program at work: a desk, the settings, the time, the directory that all share and
others that are kept under names, and the payment services that are kept under names.

An operation of a session may fail; what it did until then stays done.  The shared directory is loaded
when it is first asked for.
-/

namespace CardPayments

/-- The program at work. -/
structure Session where
  /-- The world in which payments run. -/
  desk : Desk := {}
  settings : Settings := .trial
  now : DateTime
  /-- The directory that all share, once it is loaded. -/
  directory : Option Directory := none
  /-- The directories that are kept under names. -/
  directories : List (Text × Directory) := []
  /-- The payment services that are kept under names. -/
  services : List (Text × PaymentService) := []

/-- An operation of a session. -/
abbrev Session.Op (α : Type) := ExceptT Failure (StateM Session) α

/-- A directory: the one that all share, or one that is kept under a name. -/
inductive DirectoryName where
  /-- The one that all share. -/
  | shared
  /-- One that is kept under a name. -/
  | kept (name : Text)
  deriving DecidableEq

namespace Session

/-- Keeps something under a name, in place of what was there. -/
def keep {α : Type} (name : Text) (a : α) (kept : List (Text × α)) : List (Text × α) :=
  (name, a) :: kept.filter fun entry => entry.1 ≠ name

/-- What is kept under a name. -/
def kept? {α : Type} (name : Text) (kept : List (Text × α)) : Option α :=
  (kept.find? fun entry => entry.1 = name).map (·.2)

/-- The session before the next operation: nothing is laid out, and calls and entries are counted from
here on. -/
def cleared (s : Session) : Session :=
  { s with desk := { s.desk with
      replies := [], calls := [], journal := [], tokens := [], methodVanishes := false } }

/-- Lays out what waits for a payment: replies and tokens, and whether someone else interferes. -/
def layOut (replies : List Provider.Reply) (tokens : List Text) (vanishes : Bool) : Op Unit :=
  modify fun s => { s with desk := { s.desk with
    replies := replies, tokens := tokens, methodVanishes := vanishes } }

/-- Does what a computation says. -/
def lift {α : Type} : Except Failure α → Op α
  | .ok a => pure a
  | .error e => throw e

/-- Runs a program at the desk. -/
def run {α : Type} (p : Program α) : Op α := do
  let s ← get
  let (result, desk) := s.desk.run p
  set { s with desk := desk }
  lift result

/-- Changes the store. -/
def change {α : Type} (f : Store → Except Failure (α × Store)) : Op α := do
  let s ← get
  let (a, store) ← lift (f s.desk.store)
  set { s with desk := { s.desk with store := store } }
  return a

/-- Reads the store. -/
def ask {α : Type} (f : Store → Except Failure α) : Op α := do
  lift (f (← get).desk.store)

/-! ### Directories -/

/-- Loads a directory, and notes it. -/
def loadDirectory : Op Directory := do
  let directory := Directory.load (← get).desk.store
  run (.note directory.loadedEntry)
  return directory

/-- Loads the directory that all share. -/
def refreshShared : Op Directory := do
  let directory ← loadDirectory
  modify fun s => { s with directory := some directory }
  return directory

/-- The directory that all share; it is loaded if it is not there yet. -/
def sharedDirectory : Op Directory := do
  match (← get).directory with
  | some directory => return directory
  | none => refreshShared

/-- Forgets the directory that all share. -/
def resetShared : Op Unit := modify fun s => { s with directory := none }

/-- Loads a new directory and keeps it under a name. -/
def newDirectory (name : Text) : Op Unit := do
  let directory ← loadDirectory
  modify fun s => { s with directories := keep name directory s.directories }

/-- The directory of a name; one that was never loaded is empty. -/
def directoryNamed : DirectoryName → Op Directory
  | .shared => sharedDirectory
  | .kept name => do return (kept? name (← get).directories).getD ⟨[]⟩

/-- Loads the directory of a name again. -/
def refreshNamed : DirectoryName → Op Directory
  | .shared => do
    let _ ← sharedDirectory
    refreshShared
  | .kept name => do
    newDirectory name
    directoryNamed (.kept name)

/-! ### Services and payments -/

/-- Makes a payment service.  The shared directory is asked for only when it is known where customers
return and which device session stands in for a missing one. -/
def makeService (options : ServiceOptions) (name : Option DirectoryName) : Op PaymentService := do
  let given ← name.mapM directoryNamed
  let settings := (← get).settings
  let (redirectUrl, deviceSession) ← lift (PaymentService.addresses settings options)
  let directory ←
    match given with
    | some directory => pure directory
    | none => sharedDirectory
  lift (PaymentService.withAddresses settings options directory redirectUrl deviceSession)

/-- Makes a payment service and keeps it under a name; nothing is kept there when that fails. -/
def keepService (key : Text) (options : ServiceOptions) (name : Option DirectoryName) :
    Op PaymentService := do
  modify fun s => { s with services := s.services.filter fun entry => entry.1 ≠ key }
  let service ← makeService options name
  modify fun s => { s with services := keep key service s.services }
  return service

/-- The payment service that is kept under a name, or else a new one. -/
def serviceFor (key : Option Text) (options : ServiceOptions) (name : Option DirectoryName) :
    Op PaymentService := do
  let services := (← get).services
  match key.bind fun k => kept? k services with
  | some service => return service
  | none => makeService options name

/-- Takes a payment. -/
def pay (service : Op PaymentService) (request : PaymentRequest) : Op PaymentResult := do
  let s ← service
  run (s.process (← get).now request)

/-- Takes the payment that the text of a body asks for: what is wrong with the body, or what is sent
back. -/
def checkout (service : Op PaymentService) (body : Text) : Op (Except BodyFault Json.Value) := do
  let v ← lift ((Json.read body).mapError .json)
  match PaymentRequest.ofBody v with
  | .error fault => return .error fault
  | .ok request => do
    let result ← pay service request
    return .ok (← lift result.toJson)

/-! ### Rows -/

/-- The provider with which a store begins. -/
def firstProvider (now : DateTime) : ProviderDraft where
  createdBy := .value (.int 1)
  createdDate := now
  name := PaymentService.providerName
  apiUrl := Provider.Account.sandboxRoot

/-- Writes the first provider, unless there is one already. -/
def seed : Op Unit := do
  let now := (← get).now
  change fun store =>
    if store.providers.rows.isEmpty then
      (store.insertProvider (firstProvider now)).map fun (_, after) => ((), after)
    else .ok ((), store)

/-- Writes a payment method for the provider with the key that a value denotes. -/
def createMethod (provider : Json.Value) (token : Offer) : Op Nat := do
  let now := (← get).now
  let row ← ask fun store => Store.getRow .provider store.providers provider
  run (.insert (.method
    { audit := { createdDate := now }, provider := PaymentService.keyOffer row.id, token := token }))

/-- Makes someone the owner of the payment method with the key that a value denotes. -/
def updateOwner (method : Json.Value) (owner : Offer) : Op (Option MethodRow) := do
  let now := (← get).now
  match ← lift (Store.keyOf? method) with
  | none => return none
  | some key => do
    match ← run (.commit (.owner key owner now)) with
    | none => return none
    | some key => do return (← get).desk.store.methods.find? key

/-- Writes a billing customer whose payment method has the key that a value denotes. -/
def createCustomer (draft : CustomerDraft) (method : Json.Value) : Op Nat := do
  let now := (← get).now
  let row ← ask fun store => Store.getRow .method store.methods method
  run (.insert (.customer
    { draft with audit := { createdDate := now }, method := PaymentService.keyOffer row.id } now))

/-- The key of the oldest customer with a name and an address; only texts are ever equal to them. -/
def findCustomer (name email : Json.Value) : Op (Option Nat) := do
  match name, email with
  | .text name, .text email => do
    let found ← run (.findCustomer name email)
    return found.map CustomerRow.id
  | _, _ => return none

/-- Writes a card transaction. -/
def addTransaction (draft : TransactionDraft) (notes : Json.Value) : Op Nat := do
  run (.insert (.transaction draft notes (← get).now))

/-- Writes the log of a charge. -/
def addLog (draft : LogDraft) (request answer : Json.Value) : Op Nat := do
  run (.insert (.log draft request answer (← get).now))

/-- Deletes a row, and says how many rows went with it, itself included. -/
def delete (entity : Entity) (key : Json.Value) : Op Nat :=
  change fun store => do
    let after ← store.delete entity key
    return (store.rowCount - after.rowCount, after)

/-- The transactions that pass a filter. -/
def listTransactions (filter : Store.TransactionFilter) (inFull : Bool) : Op Json.Value :=
  ask fun store => Report.listed store filter inFull

end Session

end CardPayments
