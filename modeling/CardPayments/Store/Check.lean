import CardPayments.Choices
import CardPayments.Store.Record
import CardPayments.Web.EmailAddress
import CardPayments.Web.Url

/-!
# Checking rows

What a stored row should look like: required texts are not empty, texts keep to the length of their
column, an e-mail address is one, and so is a URL, and a code is among the choices.  The store itself
does not insist on this; `Store.check` finds out.
-/

namespace CardPayments

/-! ### TextRule -/

/-- The form of a text. -/
inductive TextForm where
  /-- Anything. -/
  | free
  /-- An e-mail address. -/
  | email
  /-- A URL. -/
  | url
  deriving DecidableEq

namespace TextForm

/-- Has a text the form? -/
def admits : TextForm → Text → Bool
  | free, _ => true
  | email, t => Web.isEmailAddress t
  | url, t => Web.isUrl t

/-- The wording for a text that does not have the form. -/
def message : TextForm → Text
  | free => ""
  | email => "Enter a valid email address."
  | url => "Enter a valid URL."

end TextForm

/-- What is asked of the texts in a column. -/
structure TextRule where
  /-- The name of the column. -/
  column : Text
  /-- The greatest length. -/
  limit : Nat
  /-- May the text be empty? -/
  mayBeEmpty : Bool := false
  form : TextForm := .free

namespace TextRule

/-- The wording for a required text that is empty. -/
def emptyMessage : Text := "This field cannot be blank."

/-- The wording for a text that is too long. -/
def lengthMessage (limit length : Nat) : Text :=
  "Ensure this value has at most " ++ Text.ofNat limit ++ " characters (it has " ++
    Text.ofNat length ++ ")."

/-- What is wrong with a text. -/
def faults (r : TextRule) (t : Text) : List Text :=
  if t.isEmpty then if r.mayBeEmpty then [] else [emptyMessage]
  else
    (if r.form.admits t then [] else [r.form.message]) ++
      (if t.length ≤ r.limit then [] else [lengthMessage r.limit t.length])

end TextRule

namespace Entity

/-- What is asked of the texts of a row.  Texts without a rule may be anything. -/
def textRules : Entity → List TextRule
  | provider => [⟨"name", 100, false, .free⟩, ⟨"api_url", 255, false, .free⟩]
  | method => [⟨"token", 64, false, .free⟩]
  | customer =>
    [⟨"two_letter_iso_code", 2, false, .free⟩, ⟨"name", 255, false, .free⟩,
     ⟨"email", 254, false, .email⟩, ⟨"phone_number", 20, true, .free⟩,
     ⟨"api_customer_id", 100, false, .free⟩]
  | keyInfo => [⟨"key_name", 255, false, .free⟩, ⟨"key_value", 255, false, .free⟩]
  | transaction =>
    [⟨"transaction_customer_id", 100, false, .free⟩, ⟨"transaction_id", 100, false, .free⟩,
     ⟨"payment_method", 20, false, .free⟩, ⟨"transaction_type", 20, false, .free⟩,
     ⟨"order_id", 100, true, .free⟩, ⟨"transaction_status", 50, false, .free⟩,
     ⟨"transaction_reference_id", 100, true, .free⟩, ⟨"currency_code", 3, false, .free⟩,
     ⟨"credit_card_owner_name", 255, false, .free⟩, ⟨"credit_card_number", 25, false, .free⟩,
     ⟨"credit_card_cvv2", 4, false, .free⟩, ⟨"redirect_url", 500, true, .url⟩]
  | history => [⟨"status", 50, false, .free⟩, ⟨"notes", 255, true, .free⟩]
  | log =>
    [⟨"reference_no", 50, true, .free⟩, ⟨"payment_method_name", 50, true, .free⟩,
     ⟨"api_no1", 50, true, .free⟩, ⟨"api_no2", 50, true, .free⟩,
     ⟨"last_four_card_nbr", 4, true, .free⟩, ⟨"card_owner_name", 100, true, .free⟩,
     ⟨"currency", 50, true, .free⟩]
  | details => []

/-- The choices for the codes in a column. -/
def choicesFor? (e : Entity) (column : Text) : Option Choices :=
  if e = .log ∧ column = "payin_type" then some Choices.payinKind else none

end Entity

/-! ### Rows -/

/-- What is wrong with a cell in a column of a kind of rows. -/
def Cell.faults (entity : Entity) (column : Text) : Cell → List Text
  | .text t =>
    match entity.textRules.find? fun r => r.column = column with
    | some rule => rule.faults t
    | none => []
  | .int n =>
    match entity.choicesFor? column with
    | some choices =>
      if choices.members.any fun m => m.code = n then []
      else ["Value " ++ Text.ofInt n ++ " is not a valid choice."]
    | none => []
  | _ => []

/-- The columns of a record in which something is wrong. -/
def Record.faults (entity : Entity) (r : Record) : List (Text × List Text) :=
  (r.map fun (column, cell) => (column, cell.faults entity column)).filter fun entry =>
    !entry.2.isEmpty

namespace Store

/-- The record of the row of a kind with the key that a value denotes. -/
def recordOf (s : Store) (entity : Entity) (v : Json.Value) : Except Failure Record :=
  match entity with
  | .provider => do return (← getRow .provider s.providers v).record
  | .method => do return (← getRow .method s.methods v).record
  | .customer => do return (← getRow .customer s.customers v).record
  | .keyInfo => do return (← getRow .keyInfo s.keyInfos v).record
  | .transaction => do return (← s.getTransaction v).record
  | .history => do return (← getRow .history s.histories v).record
  | .log => do return (← s.getLog v).record
  | .details => do return (← getRow .details s.details v).record

/-- Checks the row of a kind with the key that a value denotes. -/
def check (s : Store) (entity : Entity) (v : Json.Value) : Except Failure Unit := do
  let faults := (← s.recordOf entity v).faults entity
  if faults.isEmpty then return else throw (.invalidRow faults)

end Store

end CardPayments
