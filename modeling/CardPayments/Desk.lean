import CardPayments.Program
import CardPayments.Store.Delete

/-!
# The desk

A desk is the world in which programs run one after the other: the store, the replies that are waiting
for the next calls, and what has been called and noted so far.  `Desk.perform` is what one action does,
`Desk.run` what a program does.

A failed action leaves no trace in the store.  A call for which no reply is waiting fails like a call
that reaches nobody.
-/

namespace CardPayments

/-- The world in which programs run. -/
structure Desk where
  /-- The stored rows. -/
  store : Store := .empty
  /-- The replies that wait for the next calls. -/
  replies : List Provider.Reply := []
  /-- How many levels deep the body of an answer may be nested: a stack holds 1000 calls, some of which are made before
  the reading of a body begins. -/
  room : Nat := 980
  /-- The calls that were made, in order. -/
  calls : List Provider.Call := []
  /-- The entries that were noted, in order. -/
  journal : List Journal.Entry := []
  /-- The tokens that are chosen next. -/
  tokens : List Text := []
  /-- How many tokens were counted out because none was waiting. -/
  countedTokens : Nat := 0
  /-- Does someone else delete a payment method just before it gets its owner? -/
  methodVanishes : Bool := false

namespace Desk

/-- The length of a token. -/
def tokenLength : Nat := 32

/-- The token with a number. -/
def countedToken (n : Nat) : Text := Text.ofNatHex tokenLength n

/-- The reply to a call that reaches nobody. -/
def noReply : Provider.Reply := .broken "ConnectionError" "no scripted response"

/-- Writes an entry into the journal. -/
def note (d : Desk) (entry : Journal.Entry) : Desk := { d with journal := d.journal ++ [entry] }

/-- The next token. -/
def chooseToken (d : Desk) : Text × Desk :=
  match d.tokens with
  | token :: rest => (token.map CodePoint.asciiLower, { d with tokens := rest })
  | [] => (countedToken (d.countedTokens + 1), { d with countedTokens := d.countedTokens + 1 })

/-- Makes a call; its answer is read at once. -/
def call (d : Desk) (c : Provider.Call) : Provider.Reply × Desk :=
  let d := { d with calls := d.calls ++ [c] }
  match d.replies with
  | reply :: rest => (reply.takenIn d.room, { d with replies := rest })
  | [] => (noReply, d)

/-- The store just before a group of rows is written. -/
def storeBefore (d : Desk) : Write → Except Failure Store
  | .owner method _ _ =>
    if d.methodVanishes && d.store.methods.has method then d.store.removeMethod method
    else .ok d.store
  | _ => .ok d.store

/-- Writes a group of rows. -/
def commit (d : Desk) (w : Write) : Except Failure (Option Nat) × Desk :=
  match d.storeBefore w with
  | .error e => (.error e, d)
  | .ok before =>
    match w.apply before with
    | .error e => (.error e, { d with store := before })
    | .ok (key, after) => (.ok key, { d with store := after })

/-- What an action does: its answer, and the desk after it. -/
def perform (d : Desk) : (a : Action) → a.Answer × Desk
  | .note entry => ((), d.note entry)
  | .chooseToken => d.chooseToken
  | .call c => d.call c
  | .findCustomer name email => (d.store.askCustomer name email, d)
  | .commit w => d.commit w

/-- What a program does: its result, and the desk after it. -/
def run {α : Type} : Program α → Desk → Except Failure α × Desk
  | .done x, d => (.ok x, d)
  | .fail e, d => (.error e, d)
  | .act a next, d => run (next (d.perform a).1) (d.perform a).2

end Desk

end CardPayments
