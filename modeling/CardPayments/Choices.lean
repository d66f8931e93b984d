import CardPayments.Failure
import CardPayments.Text.LowerCase

/-!
# Coded choices

Some facts are stored by a small code and written out by a label: the kind of a payment, its status, the
kind of a transaction.  Each is a type of its own; `Choices` lists the members of one of them with
their names, codes and labels, in the order of definition.

A label is recognised in any case, by the full lower-case mapping.
-/

namespace CardPayments

/-- A member of a list of choices. -/
structure Choice where
  name : Text
  code : Int
  label : Text
  deriving DecidableEq

/-- A list of choices. -/
structure Choices where
  /-- Its name. -/
  title : Text
  members : List Choice
  deriving DecidableEq

/-! ### The lists -/

/-- What a payment does. -/
inductive PayinKind where
  /-- Money is taken. -/
  | charge
  /-- Money is given back. -/
  | refund
  deriving DecidableEq

/-- How a payment method takes money. -/
inductive MethodKind where
  /-- From a card. -/
  | card
  deriving DecidableEq

/-- The outcome of a charge. -/
inductive PaymentStatus where
  /-- The money was taken. -/
  | success
  /-- The charge waits for something. -/
  | pending
  /-- The charge failed. -/
  | failed
  /-- The provider said something else, or nothing. -/
  | unknown
  deriving DecidableEq

/-- What a transaction does. -/
inductive TransactionKind where
  /-- A payment. -/
  | pay
  /-- Money is given back. -/
  | refund
  /-- Money is taken. -/
  | charge
  /-- A card is exchanged for a token. -/
  | tokenization
  /-- Something else. -/
  | unknown
  deriving DecidableEq

/-- The state of a transaction at the provider. -/
inductive TransactionState where
  /-- It waits for something. -/
  | pending
  /-- It is done. -/
  | completed
  deriving DecidableEq

/-- The choice for what a payment does. -/
def PayinKind.choice : PayinKind → Choice
  | charge => ⟨"CHARGE", 1, "charge"⟩
  | refund => ⟨"REFUND", 2, "refund"⟩

/-- The choice for how a payment method takes money. -/
def MethodKind.choice : MethodKind → Choice
  | card => ⟨"CARD", 1, "card"⟩

/-- The choice for the outcome of a charge. -/
def PaymentStatus.choice : PaymentStatus → Choice
  | success => ⟨"SUCCESS", 1, "completed"⟩
  | pending => ⟨"PENDING", 2, "charge_pending"⟩
  | failed => ⟨"FAILED", 3, "failed"⟩
  | unknown => ⟨"UNKNOWN", 4, "unknown"⟩

/-- The choice for what a transaction does. -/
def TransactionKind.choice : TransactionKind → Choice
  | pay => ⟨"PAY", 1, "pay"⟩
  | refund => ⟨"REFUND", 2, "refund"⟩
  | charge => ⟨"CHARGE", 3, "charge"⟩
  | tokenization => ⟨"TOKENIZATION", 4, "tokenization"⟩
  | unknown => ⟨"UNKNOWN", 5, "unknown"⟩

/-- The choice for the state of a transaction. -/
def TransactionState.choice : TransactionState → Choice
  | pending => ⟨"PENDING", 1, "pending"⟩
  | completed => ⟨"COMPLETED", 2, "completed"⟩

namespace Choices

/-- What a payment does. -/
def payinKind : Choices :=
  ⟨"PayInType", [PayinKind.charge, .refund].map PayinKind.choice⟩

/-- How a payment method takes money. -/
def methodKind : Choices := ⟨"PaymentMethodType", [MethodKind.card].map MethodKind.choice⟩

/-- The outcomes of a charge. -/
def paymentStatus : Choices :=
  ⟨"PaymentStatus", [PaymentStatus.success, .pending, .failed, .unknown].map PaymentStatus.choice⟩

/-- What a transaction does. -/
def transactionKind : Choices :=
  ⟨"TransactionType",
    [TransactionKind.pay, .refund, .charge, .tokenization, .unknown].map TransactionKind.choice⟩

/-- The states of a transaction at the provider. -/
def transactionState : Choices :=
  ⟨"OpenPayTransactionStatus",
    [TransactionState.pending, .completed].map TransactionState.choice⟩

/-- All lists of choices. -/
def all : List Choices := [payinKind, methodKind, paymentStatus, transactionKind, transactionState]

/-- The list of choices with the given name. -/
def ofTitle? (t : Text) : Option Choices := all.find? fun c => c.title = t

/-- The code that a value stands for when it is given where a code is expected: a truth value counts as
one or zero. -/
def codeOf? : Json.Value → Option Int
  | .int n => some n
  | .bool b => some (if b then 1 else 0)
  | _ => none

/-- The label of the choice with the given code. -/
def describe (c : Choices) (v : Json.Value) : Except Failure Text :=
  match (codeOf? v).bind fun n => c.members.find? fun m => m.code = n with
  | some m => .ok m.label
  | none => .error (.unknownChoice v.quoted c.title)

/-- The code of the first choice whose label is the given one, whatever the case of either. -/
def codeOfLabel? (c : Choices) (label : Text) : Option Int :=
  (c.members.find? fun m => Text.lower m.label = Text.lower label).map (·.code)

end Choices

namespace PaymentStatus

/-- The label of an outcome. -/
def label (s : PaymentStatus) : Text := s.choice.label

/-- The code of the outcome that the provider reports; what is not recognised is unknown. -/
def codeOf (status : Option Text) : Int :=
  (status.bind Choices.paymentStatus.codeOfLabel?).getD unknown.choice.code

end PaymentStatus

/-- The label of what a transaction does. -/
def TransactionKind.label (k : TransactionKind) : Text := k.choice.label

/-- The label of the state of a transaction. -/
def TransactionState.label (s : TransactionState) : Text := s.choice.label

/-- The label of how a payment method takes money. -/
def MethodKind.label (k : MethodKind) : Text := k.choice.label

end CardPayments
