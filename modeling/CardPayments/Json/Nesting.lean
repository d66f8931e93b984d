import CardPayments.Json.Reader

/-!
# Documents that are nested too deep

Every list and every object that is being read takes room on the stack, and how much room there is depends on the one
who reads.  `Json.overrun?` is the bracket at which the room is at its end.  Whatever is wrong with the document before
that bracket is found first, and what stands after it does not matter: reading gets to the bracket exactly if the text
before it breaks off where a value is expected.
-/

namespace CardPayments

namespace Json

/-- Where in a document a code point stands. -/
inductive Place where
  /-- Between the quotes of no text. -/
  | outside
  /-- In a text. -/
  | quoted
  /-- In a text, after a backslash. -/
  | escaped
  deriving DecidableEq

/-- The place after a code point. -/
def Place.after (c : CodePoint) : Place → Place
  | outside => if c = CodePoint.ofChar '"' then quoted else outside
  | quoted =>
    if c = CodePoint.ofChar '"' then outside else if c = CodePoint.ofChar '\\' then escaped else quoted
  | escaped => quoted

/-- Does a list or an object begin with this? -/
def isOpening (c : CodePoint) : Bool := c = CodePoint.ofChar '[' || c = CodePoint.ofChar '\x7b'

/-- Does a list or an object end with this? -/
def isClosing (c : CodePoint) : Bool := c = CodePoint.ofChar ']' || c = CodePoint.ofChar '\x7d'

/-- How many levels there is room for after a code point. -/
def roomAfter (c : CodePoint) (room : Nat) : Place → Nat
  | .outside => if isOpening c then room - 1 else if isClosing c then room + 1 else room
  | _ => room

/-- The text before the first bracket that opens a level for which there is no room, and that bracket. -/
def splitAtOverrun? (room : Nat) (place : Place) : Text → Option (Text × CodePoint)
  | [] => none
  | c :: rest =>
    if place = .outside ∧ isOpening c ∧ room = 0 then some ([], c)
    else (splitAtOverrun? (roomAfter c room place) (place.after c) rest).map fun (before, bracket) =>
      (c :: before, bracket)

/-- Does a text break off where a value is expected? -/
def breaksOff (t : Text) : Bool :=
  match readDocument t with
  | .error (.malformed .expectingValue 0) => true
  | _ => false

/-- The bracket that opens one level more than there is room for, if reading gets there. -/
def overrun? (room : Nat) (t : Text) : Option CodePoint :=
  (splitAtOverrun? room .outside t).bind fun (before, bracket) =>
    if breaksOff before then some bracket else none

/-- The wording for a document that is nested too deep, by the bracket with which it is. -/
def overrunMessage (bracket : CodePoint) : Text :=
  let kind : Text := if bracket = CodePoint.ofChar '[' then "array" else "object"
  "maximum recursion depth exceeded while decoding a JSON " ++ kind ++ " from a unicode string"

end Json

end CardPayments
