import CardPayments.Text.Blank
import CardPayments.Text.LowerCase
import CardPayments.Web.DomainName
import CardPayments.Web.IpAddress

/-!
# URLs

The texts that are taken for the address of a page or a file: a scheme, an authority, and the rest
without blanks.  The authority names a host, with a user in front and a port behind it if need be.

Brackets are only for version 6 addresses, and nothing in the authority may become one of the
separators of a URL when its compatibility characters are resolved.
-/

namespace CardPayments

namespace Web

/-- The schemes. -/
def schemes : List Text := ["http", "https", "ftp", "ftps"]

/-- The greatest length of a URL. -/
def urlLimit : Nat := 2048

/-- The greatest length of the name of a host. -/
def hostLimit : Nat := 253

/-- The compatibility characters that stand for a separator of URLs or hold one. -/
def hiddenSeparators : List Nat :=
  [0x2047, 0x2048, 0x2049, 0x2100, 0x2101, 0x2105, 0x2106, 0x2A74, 0xFE13, 0xFE16, 0xFE55, 0xFE56,
   0xFE5F, 0xFE6B, 0xFF03, 0xFF0F, 0xFF1A, 0xFF1F, 0xFF20]

/-- The text before and after the first occurrence of another text. -/
def splitAtText? (separator : Text) : Text → Option (Text × Text)
  | [] => (Text.dropStart? separator []).map fun rest => ([], rest)
  | c :: rest =>
    match Text.dropStart? separator (c :: rest) with
    | some after => some ([], after)
    | none => (splitAtText? separator rest).map fun (before, after) => (c :: before, after)

/-- The text before the first occurrence of a code point, and the text after it if there is one. -/
def splitAtFirst (c : CodePoint) (t : Text) : Text × Option Text :=
  match t.dropWhile (· ≠ c) with
  | [] => (t, none)
  | _ :: after => (t.takeWhile (· ≠ c), some after)

/-- The text after the last occurrence of a code point; all of it when there is none. -/
def afterLast (c : CodePoint) (t : Text) : Text :=
  match Text.splitAtLast? c t with
  | some (_, after) => after
  | none => t

/-- Does a code point end the authority? -/
def endsAuthority (c : CodePoint) : Bool := (Text.ofString "/?#").contains c

/-! ### The host -/

/-- Is the text a version 6 address in brackets, as far as its characters go? -/
def looksBracketed (t : Text) : Bool :=
  match t with
  | [] => false
  | c :: rest =>
    let inside := rest.dropLast
    c = CodePoint.ofChar '[' && rest.getLast? = some (CodePoint.ofChar ']') && !inside.isEmpty &&
      inside.all fun d => d.hexDigit?.isSome || d = CodePoint.ofChar ':' || d = CodePoint.ofChar '.'

/-- Is the text `localhost` but for case? -/
def isLocalHost (t : Text) : Bool :=
  let plain := t.map fun c => if c.value = 0x17F then CodePoint.ofChar 's' else c.asciiLower
  plain = Text.ofString "localhost"

/-- The text without a point at its end. -/
def withoutRoot (t : Text) : Text :=
  if t.getLast? = some (CodePoint.ofChar '.') then t.dropLast else t

/-- Is the text the host of a URL? -/
def isHost (t : Text) : Bool :=
  isIpv4 t || looksBracketed t || isDomainName (withoutRoot t) || isLocalHost t

/-- Is the text a port? -/
def isPort (t : Text) : Bool := 1 ≤ t.length && t.length ≤ 5 && t.all CodePoint.isAsciiDigit

/-- Is the text a host, with or without a port? -/
def isPlace (t : Text) : Bool :=
  isHost t ||
    match Text.splitAtLast? ':' t with
    | some (host, port) => isHost host && isPort port
    | none => false

/-- May it stand in the name or the password of a user? -/
def isUserCharacter (c : CodePoint) : Bool :=
  !c.isBlank && c ≠ CodePoint.ofChar ':' && c ≠ CodePoint.ofChar '@' && c ≠ CodePoint.ofChar '/'

/-- Is the text the user of a URL: a name, and a password after a colon if there is one? -/
def isUser (t : Text) : Bool :=
  let (name, password) := splitAtFirst ':' t
  !name.isEmpty && name.all isUserCharacter && password.all fun p => p.all isUserCharacter

/-- Is the text a host and what follows it? -/
def isPlaceAndRest (t : Text) : Bool :=
  isPlace (t.takeWhile fun c => !endsAuthority c) &&
    (t.dropWhile fun c => !endsAuthority c).all fun c => !c.isBlank

/-- Is the text what may follow the scheme of a URL? -/
def isAfterScheme (t : Text) : Bool :=
  isPlaceAndRest t ||
    match splitAtFirst '@' t with
    | (user, some rest) => isUser user && isPlaceAndRest rest
    | (_, none) => false

/-! ### The authority -/

/-- Is the text a future kind of address: `v`, hexadecimal digits, a point and anything? -/
def isFutureAddress (t : Text) : Bool :=
  match Text.dropStart? "v" t with
  | none => false
  | some rest =>
    let version := rest.takeWhile fun c => c.hexDigit?.isSome
    let address := rest.drop (version.length + 1)
    !version.isEmpty && rest[version.length]? = some (CodePoint.ofChar '.') && !address.isEmpty &&
      address.all (· ≠ CodePoint.ofChar '\n')

/-- Is the text a version 6 address, with or without the name of a network behind a percent sign? -/
def isScopedIpv6 (t : Text) : Bool :=
  match splitAtFirst '%' t with
  | (address, none) => isIpv6 address
  | (address, some network) =>
    isIpv6 address && !network.isEmpty && !network.contains (CodePoint.ofChar '%')

/-- Are the brackets of an authority in order: none, or some around an address? -/
def hasBracketsInOrder (authority : Text) : Bool :=
  let opened := authority.contains (CodePoint.ofChar '[')
  let closed := authority.contains (CodePoint.ofChar ']')
  if opened && closed then
    let inside := (((splitAtFirst '[' authority).2).map fun t => (splitAtFirst ']' t).1).getD []
    if inside.head? = some (CodePoint.ofChar 'v') then isFutureAddress inside else isScopedIpv6 inside
  else !opened && !closed

/-- Is what stands between the first and the last of its code points, when these are brackets, a
version 6 address?  A port may follow the brackets. -/
def hasAddressInBrackets (authority : Text) : Bool :=
  let bracketed :=
    match Text.splitAtLast? ':' authority with
    | some (before, port) =>
      if isPort port && before.getLast? = some (CodePoint.ofChar ']') then before else authority
    | none => authority
  match bracketed with
  | [] => true
  | c :: rest =>
    let inside := rest.dropLast
    if c = CodePoint.ofChar '[' && rest.getLast? = some (CodePoint.ofChar ']') && !inside.isEmpty
    then isShortIpv6 inside else true

/-- The name of the host in an authority, in lower case. -/
def hostName (authority : Text) : Text :=
  let place := afterLast '@' authority
  let name :=
    match splitAtFirst '[' place with
    | (_, some rest) => (splitAtFirst ']' rest).1
    | (before, none) => (splitAtFirst ':' before).1
  let (plain, network) := splitAtFirst '%' name
  Text.lower plain ++ ((network.map fun n => CodePoint.ofChar '%' :: n).getD [])

/-- Is the authority of a URL sound? -/
def isAuthority (authority : Text) : Bool :=
  let host := hostName authority
  hasBracketsInOrder authority && hasAddressInBrackets authority &&
    !(authority.any fun c => hiddenSeparators.contains c.value) &&
    !host.isEmpty && host.length ≤ hostLimit

/-- Is the text a URL? -/
def isUrl (t : Text) : Bool :=
  match splitAtText? "://" t with
  | none => false
  | some (scheme, rest) =>
    t.length ≤ urlLimit && !(t.any fun c => (Text.ofString "\t\r\n").contains c) &&
      schemes.contains (scheme.map CodePoint.asciiLower) && isAfterScheme rest &&
      isAuthority (rest.takeWhile fun c => !endsAuthority c)

end Web

end CardPayments
