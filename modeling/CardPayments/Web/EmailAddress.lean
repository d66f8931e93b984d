import CardPayments.Web.DomainName
import CardPayments.Web.IpAddress

/-!
# E-mail addresses

The texts that are taken for e-mail addresses.  The last at sign divides the user from the place.  The
user is a list of atoms between points, or a quoted text; the place is `localhost`, a domain name, or
an IP address in brackets.
-/

namespace CardPayments

namespace Web

/-! ### The user -/

/-- The signs that may stand in an atom beside letters and digits. -/
def atomSigns : Text := "-!#$%&'*+/=?^_\x60\x7b|\x7d~"

/-- May it stand in an atom? -/
def isAtomCharacter (c : CodePoint) : Bool :=
  isAsciiLetter c || c.isAsciiDigit || isFoldedLetter c || atomSigns.contains c

/-- Is the text a list of atoms between points? -/
def isDotAtom (t : Text) : Bool :=
  (Text.splitAtEach '.' t).all fun atom => !atom.isEmpty && atom.all isAtomCharacter

/-- May it stand between quotes as it is? -/
def isQuotedCharacter (c : CodePoint) : Bool :=
  c.inRanges [(1, 8), (0xB, 0xC), (0xE, 0x1F), (0x21, 0x21), (0x23, 0x5B), (0x5D, 0x7F)] ||
    isFoldedLetter c

/-- May it stand between quotes after a backslash? -/
def isEscapedCharacter (c : CodePoint) : Bool :=
  c.inRanges [(1, 9), (0xB, 0xC), (0xE, 0x7F)] || isFoldedLetter c

/-- Is the text the inside of a quoted text and its closing quote? -/
def closesQuote : Text → Bool
  | [] => false
  | [c] => c = CodePoint.ofChar '"'
  | c :: d :: rest =>
    if c = CodePoint.ofChar '\\' then isEscapedCharacter d && closesQuote rest
    else isQuotedCharacter c && closesQuote (d :: rest)

/-- Is the text a quoted text? -/
def isQuotedUser : Text → Bool
  | [] => false
  | c :: rest => c = CodePoint.ofChar '"' && closesQuote rest

/-! ### The place -/

/-- Is the text an IP address in brackets? -/
def isAddressLiteral (t : Text) : Bool :=
  match t with
  | [] => false
  | c :: rest =>
    let inside := rest.dropLast
    c = CodePoint.ofChar '[' && rest.getLast? = some (CodePoint.ofChar ']') &&
      (isIpv4 inside || isShortIpv6 inside)

/-- Is the text the place of an e-mail address? -/
def isMailPlace (t : Text) : Bool :=
  t = Text.ofString "localhost" || isDomainName t || isAddressLiteral t

/-- The greatest length of an e-mail address. -/
def emailLimit : Nat := 320

/-- Is the text an e-mail address? -/
def isEmailAddress (t : Text) : Bool :=
  match Text.splitAtLast? '@' t with
  | none => false
  | some (user, place) =>
    t.length ≤ emailLimit && (isDotAtom user || isQuotedUser user) && isMailPlace place

end Web

end CardPayments
