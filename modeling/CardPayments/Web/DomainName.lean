import CardPayments.Text

/-!
# Domain names

The texts that are taken for domain names: at least two labels between points, of letters, digits and
dashes, where anything from U+00A1 to U+FFFF counts as a letter.  The last label is stricter than the
others: it has at least two letters and no ASCII digits, unless it is the ASCII form of an
international label.

Comparing without regard to case makes four letters outside ASCII the same as an ASCII letter; they are
admitted wherever a rule names the ASCII letters.
-/

namespace CardPayments

namespace Web

/-- Is it a letter A to Z, in either case? -/
def isAsciiLetter (c : CodePoint) : Bool :=
  let d := c.asciiLower
  0x61 ≤ d.value && d.value ≤ 0x7A

/-- The letters outside ASCII that are an ASCII letter but for case: dotted and dotless I, long S, and
the Kelvin sign. -/
def isFoldedLetter (c : CodePoint) : Bool :=
  c.value = 0x130 || c.value = 0x131 || c.value = 0x17F || c.value = 0x212A

/-- Is it a dash? -/
def isDash (c : CodePoint) : Bool := c = CodePoint.ofChar '-'

/-- May it stand in the last label of a domain name? -/
def isNameLetter (c : CodePoint) : Bool :=
  isAsciiLetter c || isDash c || (0xA1 ≤ c.value && c.value ≤ 0xFFFF)

/-- May it stand in a label? -/
def isLabelCharacter (c : CodePoint) : Bool := isNameLetter c || c.isAsciiDigit

/-- Does the text neither begin nor end with a dash? -/
def hasNoOuterDash (t : Text) : Bool := !(t.head?.any isDash) && !(t.getLast?.any isDash)

/-- The greatest length of a label. -/
def labelLimit : Nat := 63

/-- Is the text a label? -/
def isLabel (t : Text) : Bool :=
  1 ≤ t.length && t.length ≤ labelLimit && t.all isLabelCharacter && hasNoOuterDash t

/-- Is the text the ASCII form of an international label, which begins with `xn--`? -/
def isEncodedLabel (t : Text) : Bool :=
  match Text.dropStart? "xn--" (t.map CodePoint.asciiLower) with
  | none => false
  | some code =>
    1 ≤ code.length && code.length ≤ labelLimit - 4 &&
      code.all fun c => isAsciiLetter c || c.isAsciiDigit || isFoldedLetter c

/-- Is the text a last label? -/
def isTopLabel (t : Text) : Bool :=
  (2 ≤ t.length && t.length ≤ labelLimit && t.all isNameLetter && hasNoOuterDash t) ||
    isEncodedLabel t

/-- Is the text a domain name? -/
def isDomainName (t : Text) : Bool :=
  let labels := Text.splitAtEach '.' t
  2 ≤ labels.length && labels.dropLast.all isLabel && labels.getLast?.any isTopLabel

end Web

end CardPayments
