import CardPayments.Store.Query

/-!
# Labels

The text by which a row is shown: a provider by its name, a payment method by its token, a customer by
name and address, a transaction by what it did and for what, and any other row by its key.
-/

namespace CardPayments

namespace Store

/-- The label of a row without one of its own. -/
def plainLabel (entity : Entity) (id : Nat) : Text :=
  entity.title ++ " object (" ++ Text.ofNat id ++ ")"

/-- The label of the row of a kind with the key that a value denotes. -/
def label (s : Store) (entity : Entity) (v : Json.Value) : Except Failure Text :=
  match entity with
  | .provider => do return (← getRow .provider s.providers v).name
  | .method => do return (← getRow .method s.methods v).token
  | .customer => do
    let r ← getRow .customer s.customers v
    return r.name ++ " <" ++ r.email ++ ">"
  | .transaction => do
    let r ← s.getTransaction v
    return r.transactionType ++ " " ++ r.transactionId
  | .keyInfo => do return plainLabel .keyInfo (← getRow .keyInfo s.keyInfos v).id
  | .history => do return plainLabel .history (← getRow .history s.histories v).id
  | .log => do return plainLabel .log (← s.getLog v).id
  | .details => do return plainLabel .details (← getRow .details s.details v).id

end Store

end CardPayments
