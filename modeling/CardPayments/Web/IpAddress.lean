import CardPayments.Text

/-!
# IP addresses

The texts that are IP addresses.  A version 4 address is four decimal numbers up to 255 between points,
without leading zeros.  A version 6 address is eight groups of up to four hexadecimal digits between
colons; the last two groups may be written as a version 4 address, and one run of groups, at least one
of them, may be left out between two colons.
-/

namespace CardPayments

namespace Web

/-! ### Version 4 -/

/-- Is the text a number up to 255 without leading zeros? -/
def isOctet (t : Text) : Bool :=
  let digits := t.filterMap CodePoint.asciiDigit?
  t.all CodePoint.isAsciiDigit && 1 ≤ t.length && t.length ≤ 3 &&
    (t.length = 1 || digits.head? ≠ some 0) && Text.valueOfDigits digits ≤ 255

/-- Is the text a version 4 address? -/
def isIpv4 (t : Text) : Bool :=
  let parts := Text.splitAtEach '.' t
  parts.length = 4 && parts.all isOctet

/-! ### Version 6 -/

/-- Is the text a group of a version 6 address? -/
def isGroup (t : Text) : Bool :=
  1 ≤ t.length && t.length ≤ 4 && t.all fun c => c.hexDigit?.isSome

/-- The number of groups in texts between colons; only the last text may be a version 4 address, which
counts as two groups. -/
def countGroups? (closing : Bool) : List Text → Option Nat
  | [] => some 0
  | [last] =>
    if isGroup last then some 1 else if closing && isIpv4 last then some 2 else none
  | part :: rest => if isGroup part then (countGroups? closing rest).map (· + 1) else none

/-- The number of groups in a part of an address; the empty part has none.  A version 4 address may
stand only at the end of the part that closes the address. -/
def groupCount? (closing : Bool) (t : Text) : Option Nat :=
  if t.isEmpty then some 0 else countGroups? closing (Text.splitAtEach ':' t)

/-- The texts before and after the first two colons in a row. -/
def splitAtGap? : Text → Option (Text × Text)
  | [] => none
  | c :: rest =>
    match Text.dropStart? "::" (c :: rest) with
    | some after => some ([], after)
    | none => (splitAtGap? rest).map fun (before, after) => (c :: before, after)

/-- Is the text a version 6 address? -/
def isIpv6 (t : Text) : Bool :=
  match splitAtGap? t with
  | none => groupCount? true t = some 8
  | some (before, after) =>
    match groupCount? false before, groupCount? true after with
    | some m, some n => m + n ≤ 7
    | _, _ => false

/-- The greatest length of a version 6 address in an e-mail address or a URL. -/
def ipv6Limit : Nat := 39

/-- Is the text a version 6 address of the usual length? -/
def isShortIpv6 (t : Text) : Bool := t.length ≤ ipv6Limit && isIpv6 t

end Web

end CardPayments
