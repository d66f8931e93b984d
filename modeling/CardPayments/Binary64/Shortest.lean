import CardPayments.Binary64

/-!
# The shortest text of a floating-point number

A number is written with the fewest decimal digits that read back to it; of several such decimals the
nearest is taken, and of two equally near ones the even one.  Whether a decimal reads back is decided
exactly, by comparing it with the two ends of the interval of reals that round to the number.

Decimals whose leading digit stands for 10 ^ -4 up to 10 ^ 15 are written positionally, always with a
point; the others with an exponent of at least two digits and its sign.
-/

namespace CardPayments

namespace Binary64

/-- Compares `a * 10 ^ i` with `n * 2 ^ j`. -/
def compareScaled (a : Nat) (i : Int) (n : Nat) (j : Int) : Ordering :=
  compare (a * tenTo i.toNat * twoTo (-j).toNat) (n * twoTo j.toNat * tenTo (-i).toNat)

/-- Does the decimal `digits * 10 ^ exponent` round to the positive number at the index?

The ends of the interval belong to it when the significand is even.  Below a power of two the gap to
the next smaller number is half as wide. -/
def readsBack (index digits : Nat) (exponent : Int) : Bool :=
  let (m, q) := scaled index
  let narrowBelow := index % twoTo 52 = 0 ∧ twoTo 52 < index
  let low := if narrowBelow then 4 * m - 1 else 4 * m - 2
  let fromLow := compareScaled digits exponent low (q - 2)
  let fromHigh := compareScaled digits exponent (4 * m + 2) (q - 2)
  let even := m % 2 == 0
  (fromLow == .gt || (even && fromLow == .eq)) && (fromHigh == .lt || (even && fromHigh == .eq))

/-- The least `k` with `m * 2 ^ q < 10 ^ k`, for a positive `m`, found by trying the candidates around
the one that the binary logarithm suggests. -/
def decimalScale (m : Nat) (q : Int) : Int :=
  let guess := ((m.log2 : Int) + q) * 30103 / 100000
  let candidates : List Int := [guess - 1, guess, guess + 1, guess + 2]
  (candidates.find? fun k => compareScaled 1 k m q == .gt).getD (guess + 3)

/-- The best decimal on the grid of the multiples of `10 ^ exponent`: of the two neighbours of the
number on that grid those that read back, and of these the nearer. -/
def onGrid? (index : Nat) (exponent : Int) : Option Nat :=
  let (m, q) := scaled index
  let below := m * twoTo q.toNat * tenTo (-exponent).toNat / (twoTo (-q).toNat * tenTo exponent.toNat)
  match readsBack index below exponent, readsBack index (below + 1) exponent with
  | true, false => some below
  | false, true => some (below + 1)
  | false, false => none
  | true, true =>
    match compareScaled (2 * below + 1) exponent (2 * m) q with
    | .gt => some below
    | .lt => some (below + 1)
    | .eq => some (if below % 2 = 0 then below else below + 1)

/-- The digits and the exponent of the shortest decimal for the positive number at an index: the first
grid, from one digit to seventeen, that has a decimal that reads back. -/
def shortest (index : Nat) : Nat × Int :=
  let (m, q) := scaled index
  let k := decimalScale m q
  let found := (List.range 17).findSome? fun n : Nat =>
    let exponent : Int := k - (n + 1)
    (onGrid? index exponent).map fun digits => (digits, exponent)
  found.getD (m * twoTo q.toNat * fiveTo (-q).toNat, min q 0)

/-- The least exponent of a leading digit that is written positionally. -/
def positionalFrom : Int := -4

/-- The least exponent of a leading digit from which on an exponent is written. -/
def positionalBelow : Int := 16

/-- Lays out decimal digits whose first one stands for `10 ^ lead`. -/
def layout (digits : Text) (lead : Int) : Text :=
  if positionalFrom ≤ lead ∧ lead < positionalBelow then
    if lead < 0 then
      "0." ++ List.replicate (-lead - 1).toNat (CodePoint.ofChar '0') ++ digits
    else
      let whole := lead.toNat + 1
      let padded := digits ++ List.replicate (whole - digits.length) (CodePoint.ofChar '0')
      let fraction := digits.drop whole
      padded.take whole ++ "." ++ (if fraction.isEmpty then Text.ofString "0" else fraction)
  else
    let fraction := digits.drop 1
    digits.take 1 ++ (if fraction.isEmpty then fraction else "." ++ fraction) ++
      (if lead < 0 then "e-" else "e+") ++ Text.ofNatPadded 2 lead.natAbs

/-- The text of the non-negative number at an index. -/
def indexText (index : Nat) : Text :=
  if index = 0 then "0.0"
  else
    let (digits, exponent) := shortest index
    let written := Text.ofNat digits
    let trimmed := (written.reverse.dropWhile (· = CodePoint.ofChar '0')).reverse
    layout trimmed (exponent + written.length - 1)

/-- The shortest text of the number. -/
def toText : Binary64 → Text
  | .finite negative index => if negative then "-" ++ indexText index else indexText index
  | .infinite negative => if negative then "-inf" else "inf"
  | .nan => "nan"

end Binary64

end CardPayments
