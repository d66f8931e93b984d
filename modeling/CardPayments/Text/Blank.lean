import CardPayments.Text

/-!
# Blank code points

The code points that count as white space when a text is trimmed: the 25 of the Unicode property
White_Space and the four information separators U+001C to U+001F.
-/

namespace CardPayments

/-- The closed ranges of blank code points, ascending and apart. -/
def CodePoint.blankRanges : List (Nat × Nat) :=
  [(0x9, 0xD), (0x1C, 0x20), (0x85, 0x85), (0xA0, 0xA0), (0x1680, 0x1680), (0x2000, 0x200A),
   (0x2028, 0x2029), (0x202F, 0x202F), (0x205F, 0x205F), (0x3000, 0x3000)]

/-- Is it white space? -/
def CodePoint.isBlank (c : CodePoint) : Bool := c.inRanges blankRanges

/-- Removes white space from both ends. -/
def Text.trim (t : Text) : Text := t.trimBy CodePoint.isBlank

/-- Does the text hold nothing but white space? -/
def Text.isBlank (t : Text) : Bool := t.all CodePoint.isBlank

end CardPayments
