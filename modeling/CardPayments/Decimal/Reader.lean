import CardPayments.Decimal
import CardPayments.Text.Blank
import CardPayments.Text.DecimalDigit

/-!
# Reading decimals

A decimal is written as an optional sign and digits of any script with at most one point, optionally
followed by an exponent; or as `inf`, `infinity`, `nan` or `snan`, in any case, the last two optionally
followed by digits.  Blanks around it are removed, and underscores are dropped wherever they stand.

The exponent of a decimal is bounded; a text whose decimal would be out of bounds is refused for a
reason of its own.
-/

namespace CardPayments

/-- Why a text or an operation gives no decimal. -/
inductive DecimalFault where
  /-- The text is not a decimal. -/
  | notADecimal
  /-- The result is out of the bounds on digits or exponents, or the operation is not defined. -/
  | outOfBounds
  deriving DecidableEq

namespace Decimal

/-- The greatest exponent of a leading digit. -/
def greatestLead : Int := 999999999999999999

/-- The least exponent. -/
def leastExponent : Int := -1999999999999999997

/-- The finite decimal, if its exponent is within bounds. -/
def bounded (negative : Bool) (coefficient : Nat) (exponent : Int) : Except DecimalFault Decimal :=
  if leastExponent ≤ exponent ∧ exponent + digitCount coefficient - 1 ≤ greatestLead
  then .ok (.finite negative coefficient exponent) else .error .outOfBounds

/-- The values of the digits of a text that holds nothing but decimal digits. -/
def digitValues? (t : Text) : Option (List Nat) := t.mapM CodePoint.decimalDigit?

/-- Reads the exponent after its letter: an optional sign and at least one digit. -/
def readExponent? (t : Text) : Option Int :=
  let (negative, rest) := Text.splitSign t
  match digitValues? rest with
  | none => none
  | some [] => none
  | some digits =>
    let n := Text.valueOfDigits digits
    some (if negative then -(n : Int) else n)

/-- Splits a number at its exponent letter, if it has one. -/
def splitExponent? (t : Text) : Option (Text × Int) :=
  let isLetter (c : CodePoint) : Bool := c.asciiLower = CodePoint.ofChar 'e'
  let mantissa := t.takeWhile fun c => !isLetter c
  match t.dropWhile fun c => !isLetter c with
  | [] => some (mantissa, 0)
  | _ :: rest => (readExponent? rest).map fun e => (mantissa, e)

/-- Reads a finite decimal without its sign: its coefficient and exponent. -/
def readMagnitude? (t : Text) : Option (Nat × Int) := do
  let (mantissa, exponent) ← splitExponent? t
  let isPoint (c : CodePoint) : Bool := c = CodePoint.ofChar '.'
  let whole ← digitValues? (mantissa.takeWhile fun c => !isPoint c)
  let fraction ← digitValues? ((mantissa.dropWhile fun c => !isPoint c).drop 1)
  if whole.isEmpty && fraction.isEmpty then none
  else some (Text.valueOfDigits (whole ++ fraction), exponent - fraction.length)

/-- Reads a decimal that is not finite, without its sign; the case of its letters does not matter. -/
def readSpecial? (negative : Bool) (t : Text) : Option Decimal :=
  let lowered := t.map CodePoint.asciiLower
  if lowered = "inf" ∨ lowered = "infinity" then some (.infinite negative)
  else
    match Text.dropStart? "nan" lowered, Text.dropStart? "snan" lowered with
    | some payload, _ =>
      (digitValues? payload).map fun ds => .nan negative false (Text.valueOfDigits ds)
    | none, some payload =>
      (digitValues? payload).map fun ds => .nan negative true (Text.valueOfDigits ds)
    | none, none => none

/-- Reads a decimal. -/
def read (t : Text) : Except DecimalFault Decimal :=
  let (negative, rest) := Text.splitSign (t.trim.filter (· ≠ CodePoint.ofChar '_'))
  match readSpecial? negative rest with
  | some d => .ok d
  | none =>
    match readMagnitude? rest with
    | some (coefficient, exponent) => bounded negative coefficient exponent
    | none => .error .notADecimal

end Decimal

end CardPayments
