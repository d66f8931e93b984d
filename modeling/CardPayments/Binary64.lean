import CardPayments.Power
import CardPayments.Text

/-!
# Binary floating-point numbers

The 64-bit binary floating-point numbers, as far as a program needs them that reads, stores and prints
them but does not compute with them.  A finite number is a sign and an *index*: its position in the
ascending list of the non-negative finite numbers, which is also the number that its bits denote.  So
rounding a decimal is choosing an index, and no operation of the machine is involved.

`Binary64.nearest` rounds `coefficient * 10 ^ exponent` to the nearest number, a tie to the even one.
-/

namespace CardPayments

/-- A number of the 64-bit binary format; all that are no number count as one. -/
inductive Binary64 where
  /-- The finite number of the given sign at the given position from zero. -/
  | finite (negative : Bool) (index : Fin 0x7FF0000000000000)
  /-- An infinity. -/
  | infinite (negative : Bool)
  /-- Not a number. -/
  | nan
  deriving DecidableEq

namespace Binary64

/-- The significand and the binary exponent of the number at an index. -/
def scaled (index : Nat) : Nat × Int :=
  if index < twoTo 52 then (index, -1074)
  else (twoTo 52 + index % twoTo 52, (index / twoTo 52 : Int) - 1075)

/-- The quotient rounded to the nearest integer, a tie to the even one. -/
def roundQuotient (num den : Nat) : Nat :=
  let q := num / den
  let twice := 2 * (num % den)
  if twice < den ∨ (twice = den ∧ q % 2 = 0) then q else q + 1

/-- The index of the number nearest to a positive quotient; it may lie beyond the finite numbers.

The quotient lies in an interval of ratio four around a power of two that the logarithms give, which
leaves two candidates for the exponent: the smaller one unless the significand would need 54 bits. -/
def nearestIndex (num den : Nat) : Nat :=
  let estimate : Int := (num.log2 : Int) - den.log2 - 53
  let q0 : Int := max estimate (-1074)
  let fractionAt (q : Int) : Nat × Nat := (num * twoTo (-q).toNat, den * twoTo q.toNat)
  let q := if (fractionAt q0).1 / (fractionAt q0).2 < twoTo 53 then q0 else q0 + 1
  (q + 1074).toNat * twoTo 52 + roundQuotient (fractionAt q).1 (fractionAt q).2

/-- The number of the given sign at an index, or the infinity when the index is beyond the last. -/
def ofIndex (negative : Bool) (index : Nat) : Binary64 :=
  if h : index < 0x7FF0000000000000 then .finite negative ⟨index, h⟩ else .infinite negative

/-- The number nearest to `coefficient * 10 ^ exponent`.

The powers of ten are only formed when the result is neither zero nor infinite for its size alone. -/
def nearest (negative : Bool) (coefficient : Nat) (exponent : Int) : Binary64 :=
  let top := exponent + (Nat.toDigits 10 coefficient).length
  if coefficient = 0 ∨ top < -330 then ofIndex negative 0
  else if 310 < top then .infinite negative
  else ofIndex negative
    (nearestIndex (coefficient * tenTo exponent.toNat) (tenTo (-exponent).toNat))

/-- Is the number a zero of either sign? -/
def isZero : Binary64 → Bool
  | .finite _ index => index.val = 0
  | _ => false

/-- The integer part of a finite number. -/
def truncate (negative : Bool) (index : Nat) : Int :=
  let (m, q) := scaled index
  let n := m * twoTo q.toNat / twoTo (-q).toNat
  if negative then -(n : Int) else n

end Binary64

end CardPayments
