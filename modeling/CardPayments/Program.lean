import CardPayments.Journal
import CardPayments.Provider.Wire
import CardPayments.Store.Query
import CardPayments.Store.Write

/-!
# Programs

A payment is a program: a value that says which action comes next, and how to go on for each answer to
it.  What an action does to the world is not said here; a program only orders actions, and may end with
a result or with a failure.

An action is what cannot be interrupted: an entry in the journal, the choice of a token, a call of the
provider, a look into the store, the writing of a group of rows.

`Program.noting` is the one way of handling a failure: an entry is written, and the failure goes on.
-/

namespace CardPayments

/-! ### Action -/

/-- An action. -/
inductive Action where
  /-- Write an entry into the journal. -/
  | note (entry : Journal.Entry)
  /-- Choose the token of a new payment method. -/
  | chooseToken
  /-- Call the provider. -/
  | call (c : Provider.Call)
  /-- Look for the oldest customer with a name and an address. -/
  | findCustomer (name email : Text)
  /-- Write a group of rows. -/
  | commit (w : Write)

/-- The answers to an action. -/
def Action.Answer : Action → Type
  | note _ => Unit
  | chooseToken => Text
  | call _ => Provider.Reply
  | findCustomer _ _ => Except Failure (Option CustomerRow)
  | commit _ => Except Failure (Option Nat)

/-! ### Program -/

/-- A program with results of type `α`. -/
inductive Program (α : Type) where
  /-- The program is over. -/
  | done (result : α)
  /-- The program has failed. -/
  | fail (e : Failure)
  /-- Do an action, and go on with the answer. -/
  | act (a : Action) (next : a.Answer → Program α)

namespace Program

variable {α β : Type}

/-- Goes on with another program when the first one is over. -/
def bind : Program α → (α → Program β) → Program β
  | done x, f => f x
  | fail e, _ => fail e
  | act a next, f => act a fun answer => (next answer).bind f

instance : Monad Program where
  pure := done
  bind := bind

/-- The program that does nothing but compute. -/
def ofExcept : Except Failure α → Program α
  | .ok x => done x
  | .error e => fail e

/-- Writes an entry when the program fails; the failure goes on as it is. -/
def noting (entry : Failure → Journal.Entry) : Program α → Program α
  | done x => done x
  | fail e => act (.note (entry e)) fun _ => fail e
  | act a next => act a fun answer => (next answer).noting entry

/-- Writes an entry. -/
def note (entry : Journal.Entry) : Program Unit := act (.note entry) done

/-- Chooses a token. -/
def chooseToken : Program Text := act .chooseToken done

/-- Calls the provider. -/
def call (c : Provider.Call) : Program Provider.Reply := act (.call c) done

/-- Looks for a customer. -/
def findCustomer (name email : Text) : Program (Option CustomerRow) :=
  act (.findCustomer name email) ofExcept

/-- Writes a group of rows; the answer is the key of its first row, or none when there was no row to
change. -/
def commit (w : Write) : Program (Option Nat) := act (.commit w) ofExcept

/-- Writes a group of new rows; the answer is the key of its first row. -/
def insert (w : Write) : Program Nat := do return (← commit w).getD 0

end Program

end CardPayments
