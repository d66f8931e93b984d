/-!
# Text

A text is a list of code points, and every length, cut and comparison counts in them.  The list may
hold half of a surrogate pair on its own: a JSON escape can denote one, and such a text is carried
along until it has to be stored.  For this reason a text is not a `String`; string literals are read
as texts through a coercion.

The numerals at the end are the plain decimal ones; `Text.ofInt` puts a minus sign in front.
-/

namespace CardPayments

/-! ### CodePoint -/

/-- A Unicode code point, surrogates included. -/
structure CodePoint where
  /-- The number of the code point. -/
  value : Nat
  /-- Code points end at U+10FFFF. -/
  isLt : value < 0x110000
  deriving DecidableEq

namespace CodePoint

/-- The code point of a character. -/
def ofChar (c : Char) : CodePoint where
  value := c.toNat
  isLt := by
    have v := c.valid
    have e : c.val.toNat = c.toNat := rfl
    simp only [UInt32.isValidChar, Nat.isValidChar] at v
    omega

instance : Coe Char CodePoint := ⟨ofChar⟩

/-- The code point with the given number; a number beyond the last one gives U+FFFD. -/
def ofNat (n : Nat) : CodePoint :=
  if h : n < 0x110000 then ⟨n, h⟩ else ⟨0xFFFD, by decide⟩

instance : Inhabited CodePoint := ⟨ofNat 0⟩

/-- Is it the first half of a surrogate pair? -/
def isHighSurrogate (c : CodePoint) : Bool := 0xD800 ≤ c.value && c.value ≤ 0xDBFF

/-- Is it the second half of a surrogate pair? -/
def isLowSurrogate (c : CodePoint) : Bool := 0xDC00 ≤ c.value && c.value ≤ 0xDFFF

/-- Is it half of a surrogate pair? -/
def isSurrogate (c : CodePoint) : Bool := 0xD800 ≤ c.value && c.value ≤ 0xDFFF

/-- Does it lie in one of the closed ranges? -/
def inRanges (ranges : List (Nat × Nat)) (c : CodePoint) : Bool :=
  ranges.any fun r => r.1 ≤ c.value && c.value ≤ r.2

/-- The value of an ASCII digit. -/
def asciiDigit? (c : CodePoint) : Option Nat :=
  if 0x30 ≤ c.value ∧ c.value ≤ 0x39 then some (c.value - 0x30) else none

/-- Is it one of the ten ASCII digits? -/
def isAsciiDigit (c : CodePoint) : Bool := c.asciiDigit?.isSome

/-- The value of a hexadecimal ASCII digit, in either case. -/
def hexDigit? (c : CodePoint) : Option Nat :=
  if 0x30 ≤ c.value ∧ c.value ≤ 0x39 then some (c.value - 0x30)
  else if 0x61 ≤ c.value ∧ c.value ≤ 0x66 then some (c.value - 0x57)
  else if 0x41 ≤ c.value ∧ c.value ≤ 0x46 then some (c.value - 0x37)
  else none

/-- Lower-cases the letters A to Z and leaves every other code point as it is. -/
def asciiLower (c : CodePoint) : CodePoint :=
  if 0x41 ≤ c.value ∧ c.value ≤ 0x5A then ofNat (c.value + 0x20) else c

end CodePoint

/-! ### Text -/

/-- A list of code points. -/
abbrev Text := List CodePoint

namespace Text

/-- The code points of a string. -/
def ofString (s : String) : Text := s.toList.map CodePoint.ofChar

instance : Coe String Text := ⟨ofString⟩

/-- Removes the code points with the given property from both ends. -/
def trimBy (p : CodePoint → Bool) (t : Text) : Text :=
  ((t.dropWhile p).reverse.dropWhile p).reverse

/-- The pieces between the occurrences of a code point; always at least one piece. -/
def splitAtEach (c : CodePoint) : Text → List Text
  | [] => [[]]
  | d :: rest =>
    match splitAtEach c rest with
    | [] => [[d]]
    | piece :: pieces => if d = c then [] :: piece :: pieces else (d :: piece) :: pieces

/-- Splits at the last occurrence of a code point, which belongs to neither part. -/
def splitAtLast? (c : CodePoint) (t : Text) : Option (Text × Text) :=
  let tail := (t.reverse.takeWhile (· ≠ c)).reverse
  if tail.length < t.length then some (t.take (t.length - tail.length - 1), tail) else none

/-- The texts one after the other, with a separator between neighbours. -/
def joinWith (separator : Text) (ts : List Text) : Text := separator.intercalate ts

/-- The rest of the text after a given beginning. -/
def dropStart? : Text → Text → Option Text
  | [], t => some t
  | _ :: _, [] => none
  | c :: s, d :: t => if c = d then dropStart? s t else none

/-- The decimal numeral of a natural number. -/
def ofNat (n : Nat) : Text := (Nat.toDigits 10 n).map CodePoint.ofChar

/-- The decimal numeral of an integer, with a minus sign in front of a negative one. -/
def ofInt (n : Int) : Text := if n < 0 then "-" ++ ofNat n.natAbs else ofNat n.natAbs

/-- The decimal numeral of a natural number, filled up with zeros on the left to a least width. -/
def ofNatPadded (width n : Nat) : Text :=
  let digits := ofNat n
  List.replicate (width - digits.length) (CodePoint.ofChar '0') ++ digits

/-- The hexadecimal numeral of a natural number in lower case, filled up to a least width. -/
def ofNatHex (width n : Nat) : Text :=
  let digits : Text := (Nat.toDigits 16 n).map CodePoint.ofChar
  List.replicate (width - digits.length) (CodePoint.ofChar '0') ++ digits

/-- The sign in front of a number, true for a minus, and what follows it. -/
def splitSign : Text → Bool × Text
  | [] => (false, [])
  | c :: rest =>
    if c = CodePoint.ofChar '-' then (true, rest)
    else if c = CodePoint.ofChar '+' then (false, rest)
    else (false, c :: rest)

/-- The number that a list of decimal digits denotes, most significant digit first. -/
def valueOfDigits (digits : List Nat) : Nat := digits.foldl (fun n d => 10 * n + d) 0

end Text

end CardPayments
