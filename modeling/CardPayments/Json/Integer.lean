import CardPayments.Failure

/-!
# Integers from JSON values

Where an integer is asked for, other values are understood as well: a truth value is one or zero, a
floating-point number loses its fraction, and a text is read as a numeral.
-/

namespace CardPayments

namespace Json

/-- The integer that a value denotes when an integer is asked for. -/
def Value.toInteger : Value → Except Failure Int
  | .int n => .ok n
  | .bool b => .ok (if b then 1 else 0)
  | .text t => (Numeral.readInteger t).mapError .numeral
  | .float (.finite negative index) => .ok (Binary64.truncate negative index)
  | .float (.infinite _) => .error .infiniteInteger
  | .float .nan => .error .undefinedInteger
  | v => .error (.notAnInteger v.kindName)

end Json

end CardPayments
