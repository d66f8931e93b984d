import CardPayments.Text.Blank
import CardPayments.Text.DecimalDigit
import CardPayments.Text.Quoted

/-!
# Integer numerals

`readInteger` reads an integer from a text: blanks around it, an optional sign, and decimal digits of
any script, with single underscores between digits.  Numerals of more than `digitLimit` digits are
refused, because the work of converting them grows with the square of their length.
-/

namespace CardPayments

/-- Why a text is not read as an integer. -/
inductive NumeralFault where
  /-- The text is not a numeral. -/
  | notANumeral (written : Text)
  /-- The numeral has more digits than are converted. -/
  | tooLong (digits : Nat)
  deriving DecidableEq

namespace Numeral

/-- The greatest number of digits that is converted. -/
def digitLimit : Nat := 4300

/-- Blanks that may surround an integer: those of ASCII layout and those outside ASCII, but not the
four information separators. -/
def isMargin (c : CodePoint) : Bool :=
  c.isBlank && !(0x1C ≤ c.value && c.value ≤ 0x1F)

/-- May the code point stand in the body of an integer numeral? -/
def isBody (c : CodePoint) : Bool := c.isDecimalDigit || c = CodePoint.ofChar '_'

/-- Do underscores only stand singly between digits? -/
def separatesDigits (body : Text) : Bool :=
  (Text.splitAtEach (CodePoint.ofChar '_') body).all fun piece => !piece.isEmpty

/-- The integer with the given sign and digits. -/
def signedValue (negative : Bool) (digits : List Nat) : Int :=
  let n := Text.valueOfDigits digits
  if negative then -(n : Int) else n

/-- Reads an integer. -/
def readInteger (t : Text) : Except NumeralFault Int :=
  let (negative, rest) := Text.splitSign (t.dropWhile isMargin)
  let body := rest.takeWhile isBody
  let digits := body.filterMap CodePoint.decimalDigit?
  if !separatesDigits body then .error (.notANumeral t)
  else if digitLimit < digits.length then .error (.tooLong digits.length)
  else if (rest.dropWhile isBody).all isMargin then .ok (signedValue negative digits)
  else .error (.notANumeral t)

end Numeral

/-- The message for a text that is not read as an integer; it shows at most 200 code points of it. -/
def NumeralFault.message : NumeralFault → Text
  | .notANumeral t => "invalid literal for int() with base 10: " ++ t.quoted.take 200
  | .tooLong digits =>
    "Exceeds the limit (" ++ Text.ofNat Numeral.digitLimit ++
      " digits) for integer string conversion: value has " ++ Text.ofNat digits ++
      " digits; use sys.set_int_max_str_digits() to increase the limit"

end CardPayments
