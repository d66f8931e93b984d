import CardPayments.Text.Printable

/-!
# Quoted texts

The quoted form of a text, used where a message shows a text that was not understood and where a
list or an object is written inside a message.  The text stands in single quotes, or in double quotes
when it holds a single quote and no double one.  A backslash and the quote itself are escaped by a
backslash; so are tab, line feed and carriage return, by a letter; any other code point that is not
printable is written by its number with two, four or eight hexadecimal digits.
-/

namespace CardPayments

/-- How one code point is written between the quotes. -/
def CodePoint.quotedWith (quote c : CodePoint) : Text :=
  if c = quote ∨ c = CodePoint.ofChar '\\' then [CodePoint.ofChar '\\', c]
  else if c = CodePoint.ofChar '\t' then "\\t"
  else if c = CodePoint.ofChar '\n' then "\\n"
  else if c = CodePoint.ofChar '\r' then "\\r"
  else if c.isPrintable then [c]
  else if c.value < 0x100 then "\\x" ++ Text.ofNatHex 2 c.value
  else if c.value < 0x10000 then "\\u" ++ Text.ofNatHex 4 c.value
  else "\\U" ++ Text.ofNatHex 8 c.value

/-- The quote around a text: a double one when that saves escaping. -/
def Text.quoteOf (t : Text) : CodePoint :=
  if t.contains (CodePoint.ofChar '\'') && !t.contains (CodePoint.ofChar '"')
  then CodePoint.ofChar '"' else CodePoint.ofChar '\''

/-- The text in quotes. -/
def Text.quoted (t : Text) : Text :=
  let quote := t.quoteOf
  [quote] ++ t.flatMap (CodePoint.quotedWith quote) ++ [quote]

end CardPayments
