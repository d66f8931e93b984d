import CardPayments.Binary64

/-!
# Decimal numbers

A decimal keeps its exponent and the sign of a zero: `1.0` and `1.00` are different, and so are `0`
and `-0`.  Beside the finite decimals there are the infinities and the decimals that are no number;
one of the latter may be *signaling*, which means that computing with it fails, and may carry a
payload of digits.

`Decimal.quantize` brings a decimal to a fixed number of places, a half going to the even neighbour,
and fails when more digits would be needed than the given precision.
-/

namespace CardPayments

/-- A decimal number. -/
inductive Decimal where
  /-- The number `coefficient * 10 ^ exponent`, negated if the flag says so. -/
  | finite (negative : Bool) (coefficient : Nat) (exponent : Int)
  /-- An infinity. -/
  | infinite (negative : Bool)
  /-- Not a number; a payload of zero is not written. -/
  | nan (negative signaling : Bool) (payload : Nat)
  deriving DecidableEq

namespace Decimal

/-- The number of digits of a coefficient; zero has one. -/
def digitCount (coefficient : Nat) : Nat := (Nat.toDigits 10 coefficient).length

/-- Is it neither infinite nor no number? -/
def isFinite : Decimal → Bool
  | .finite .. => true
  | _ => false

/-! ### Writing -/

/-- A minus sign, if asked for. -/
def signText (negative : Bool) : Text := if negative then "-" else ""

/-- The digits of a coefficient with a point before the last `places` of them. -/
def pointed (coefficient places : Nat) : Text :=
  let digits := Text.ofNatPadded (places + 1) coefficient
  let whole := digits.length - places
  if places = 0 then digits else digits.take whole ++ "." ++ digits.drop whole

/-- The text of a finite decimal without its sign: positional when the exponent is not positive and the
leading digit stands for 10 ^ -6 or more, otherwise with an exponent after `E`. -/
def magnitudeText (coefficient : Nat) (exponent : Int) : Text :=
  let digits := Text.ofNat coefficient
  let lead := exponent + digits.length - 1
  if exponent ≤ 0 ∧ -6 ≤ lead then pointed coefficient (-exponent).toNat
  else
    let fraction := digits.drop 1
    digits.take 1 ++ (if fraction.isEmpty then fraction else "." ++ fraction) ++
      (if lead < 0 then "E-" else "E+") ++ Text.ofNat lead.natAbs

/-- The text of a decimal. -/
def toText : Decimal → Text
  | .finite negative coefficient exponent =>
    signText negative ++ magnitudeText coefficient exponent
  | .infinite negative => signText negative ++ "Infinity"
  | .nan negative signaling payload =>
    signText negative ++ (if signaling then "sNaN" else "NaN") ++
      (if payload = 0 then Text.ofString "" else Text.ofNat payload)

/-- The text of a decimal without any exponent. -/
def toPlainText : Decimal → Text
  | .finite negative coefficient exponent =>
    signText negative ++
      (if exponent ≤ 0 then pointed coefficient (-exponent).toNat
       else Text.ofNat (coefficient * tenTo exponent.toNat))
  | d => d.toText

/-! ### Rounding -/

/-- The coefficient of the multiple of `10 ^ -places` nearest to `coefficient * 10 ^ exponent`, a half
going to the even neighbour, or nothing when it has more digits than `precision`.

Powers of ten are only formed when the size of the number leaves the answer open. -/
def roundTo? (precision places coefficient : Nat) (exponent : Int) : Option Nat :=
  let shift := exponent + places
  let digits : Int := (digitCount coefficient : Int) + shift
  if coefficient = 0 ∨ digits < 0 then some 0
  else if (precision : Int) < digits then none
  else
    let rounded := Binary64.roundQuotient (coefficient * tenTo shift.toNat) (tenTo (-shift).toNat)
    if rounded < tenTo precision then some rounded else none

/-- The decimal with the given number of places nearest to the given one, or nothing when it would have
more digits than `precision`, or when the given one is infinite or signaling. -/
def quantize? (precision places : Nat) : Decimal → Option Decimal
  | .finite negative coefficient exponent =>
    (roundTo? precision places coefficient exponent).map (.finite negative · (-places))
  | .infinite _ => none
  | .nan _ true _ => none
  | .nan negative false payload => some (.nan negative false (payload % tenTo precision))

/-- The decimal with at most `precision` significant digits nearest to the given finite one, a half
going to the even neighbour. -/
def roundSignificant (precision coefficient : Nat) (exponent : Int) : Nat × Int :=
  let drop := digitCount coefficient - precision
  if drop = 0 then (coefficient, exponent)
  else
    let rounded := Binary64.roundQuotient coefficient (tenTo drop)
    if rounded < tenTo precision then (rounded, exponent + drop)
    else (rounded / 10, exponent + drop + 1)

/-- The binary number nearest to a decimal; a signaling one has none. -/
def toBinary64? : Decimal → Option Binary64
  | .finite negative coefficient exponent => some (.nearest negative coefficient exponent)
  | .infinite negative => some (.infinite negative)
  | .nan _ signaling _ => if signaling then none else some .nan

end Decimal

end CardPayments
