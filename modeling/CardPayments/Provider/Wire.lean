import CardPayments.Json.Nesting

/-!
# Calls and replies

What goes over the wire: a call of the provider, and what came of it.

The body of an answer is always read.  When it is nested too deep for the one who reads it, the call fails like one
that was broken on the way, whatever the status: `Reply.takenIn`.
-/

namespace CardPayments

namespace Provider

/-- A call of the provider. -/
structure Call where
  /-- The address that is called. -/
  url : Text
  /-- The key with which the merchant identifies itself. -/
  privateKey : Json.Value
  /-- The object that is sent. -/
  payload : Json.Value
  /-- How many seconds the call may take. -/
  timeout : Json.Value

/-- What came of a call. -/
inductive Reply where
  /-- The provider answered with a status and a body. -/
  | answered (status : Int) (body : Text)
  /-- The call failed on the way, or its answer could not be taken in, in a certain manner. -/
  | broken (kind message : Text)
  deriving DecidableEq, Inhabited

/-- A reply as it is taken in when the body of an answer may be nested so many levels deep. -/
def Reply.takenIn (room : Nat) : Reply → Reply
  | broken kind message => broken kind message
  | answered status body =>
    match Json.overrun? room body with
    | some bracket => broken "RecursionError" (Json.overrunMessage bracket)
    | none => answered status body

end Provider

end CardPayments
