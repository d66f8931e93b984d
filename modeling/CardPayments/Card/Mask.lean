import CardPayments.Text

/-!
# Masked card data

Card data is only ever kept masked: of the number the last four code points remain, after blanks
between the groups are removed, and of the check value only its length, up to four.  A number of at
most four code points is kept as it is.
-/

namespace CardPayments

namespace Card

/-- The given number of asterisks. -/
def stars (n : Nat) : Text := List.replicate n (CodePoint.ofChar '*')

/-- The number without blanks. -/
def compact (number : Text) : Text := number.filter (· ≠ CodePoint.ofChar ' ')

/-- The last four code points of a text. -/
def lastFour (t : Text) : Text := t.drop (t.length - 4)

/-- The masked number. -/
def maskNumber (number : Text) : Text :=
  let digits := compact number
  stars (digits.length - 4) ++ lastFour digits

/-- The masked check value. -/
def maskCheck (check : Text) : Text := stars (min check.length 4)

end Card

end CardPayments
