/-!
# Powers

Powers of two, five and ten with natural exponents, the scales of binary and decimal numbers.
-/

namespace CardPayments

/-- The power of two with a natural exponent. -/
def twoTo (n : Nat) : Nat := Nat.pow 2 n

/-- The power of five with a natural exponent. -/
def fiveTo (n : Nat) : Nat := Nat.pow 5 n

/-- The power of ten with a natural exponent. -/
def tenTo (n : Nat) : Nat := Nat.pow 10 n

end CardPayments
