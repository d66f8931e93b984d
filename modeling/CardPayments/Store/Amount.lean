import CardPayments.Decimal

/-!
# Stored amounts

An amount is stored as it is written.  It is rounded only when it is read: a whole number that is
written without an exponent and fits 64 bits is kept exactly, any other amount becomes the nearest
binary number; of that, fifteen significant digits are taken, and these are rounded to the places of
the column.  An amount with more digits than the column has cannot be read.

A zero has lost its sign by then, but a negative amount that is rounded to zero keeps it.
-/

namespace CardPayments

/-- A stored amount: a finite decimal. -/
structure Amount where
  negative : Bool
  /-- The digits. -/
  coefficient : Nat
  /-- The power of ten by which they count. -/
  exponent : Int
  deriving DecidableEq

namespace Amount

/-- The finite decimal as an amount. -/
def ofDecimal? : Decimal → Option Amount
  | .finite negative coefficient exponent => some ⟨negative, coefficient, exponent⟩
  | _ => none

/-- The number of significant digits that are read. -/
def significantDigits : Nat := 15

/-- The greatest number of digits of a column. -/
def columnDigits : Nat := 18

/-- The decimal that is kept: the coefficient and exponent of the amount itself or of the nearest binary
number, which is none when the amount is too large for one. -/
def kept? (a : Amount) : Option (Nat × Int) :=
  if a.exponent = 0 ∧ a.coefficient < twoTo 63 then some (a.coefficient, 0)
  else
    match Binary64.nearest a.negative a.coefficient a.exponent with
    | .finite _ index =>
      let (m, q) := Binary64.scaled index
      some (m * twoTo q.toNat * fiveTo (-q).toNat, min q 0)
    | _ => none

/-- The amount as it is read from a column with the given number of places. -/
def read? (places : Nat) (a : Amount) : Option Decimal := do
  let (coefficient, exponent) ← a.kept?
  let (digits, power) := Decimal.roundSignificant significantDigits coefficient exponent
  let rounded ← Decimal.roundTo? columnDigits places digits power
  return .finite (a.negative && coefficient ≠ 0) rounded (-places)

end Amount

/-- The places of the amount of a transaction. -/
def transactionPlaces : Nat := 2

/-- The places of the amounts of a log. -/
def logPlaces : Nat := 4

end CardPayments
