import CardPayments.Json.Value

/-!
# Writing JSON

`Value.toText` writes a value on one line, `Value.toIndentedText` with every item of a container on a
line of its own.  Both use ASCII only: any other code point is written as an escape, one beyond
U+FFFF as a pair of them.
-/

namespace CardPayments

namespace Json

/-- The escape of one 16-bit unit. -/
def unitEscape (n : Nat) : Text := "\\u" ++ Text.ofNatHex 4 n

/-- How a code point is written inside a JSON text. -/
def escape (c : CodePoint) : Text :=
  if c = CodePoint.ofChar '"' then "\\\""
  else if c = CodePoint.ofChar '\\' then "\\\\"
  else if 0x20 ≤ c.value ∧ c.value ≤ 0x7E then [c]
  else if c = CodePoint.ofChar '\n' then "\\n"
  else if c = CodePoint.ofChar '\r' then "\\r"
  else if c = CodePoint.ofChar '\t' then "\\t"
  else if c.value = 0x0C then "\\f"
  else if c.value = 0x08 then "\\b"
  else if c.value < 0x10000 then unitEscape c.value
  else
    unitEscape (0xD800 + (c.value - 0x10000) / 0x400) ++
      unitEscape (0xDC00 + (c.value - 0x10000) % 0x400)

/-- The JSON text of a text. -/
def writeString (t : Text) : Text := "\"" ++ t.flatMap escape ++ "\""

/-- The JSON text of a floating-point number. -/
def writeFloat : Binary64 → Text
  | .infinite negative => if negative then "-Infinity" else "Infinity"
  | .nan => "NaN"
  | x => x.toText

namespace Value

mutual

/-- Writes a value on one line. -/
def toText : Value → Text
  | null => "null"
  | bool b => if b then "true" else "false"
  | int n => Text.ofInt n
  | float x => writeFloat x
  | text t => writeString t
  | list items => "[" ++ Text.joinWith ", " (itemTexts items) ++ "]"
  | object fields => "\x7b" ++ Text.joinWith ", " (fieldTexts fields) ++ "\x7d"

/-- Writes the items of a list. -/
def itemTexts : List Value → List Text
  | [] => []
  | v :: rest => v.toText :: itemTexts rest

/-- Writes the fields of an object. -/
def fieldTexts : List (Text × Value) → List Text
  | [] => []
  | (name, v) :: rest => (writeString name ++ ": " ++ v.toText) :: fieldTexts rest

end

/-- A new line with two blanks for every level of nesting. -/
def lineBreak (depth : Nat) : Text :=
  [CodePoint.ofChar '\n'] ++ List.replicate (2 * depth) (CodePoint.ofChar ' ')

/-- The lines of a container between its brackets; an empty one stays on one line. -/
def block (opening closing : Text) (depth : Nat) (lines : List Text) : Text :=
  if lines.isEmpty then opening ++ closing
  else
    opening ++ lineBreak (depth + 1) ++
      Text.joinWith ([CodePoint.ofChar ','] ++ lineBreak (depth + 1)) lines ++
      lineBreak depth ++ closing

mutual

/-- Writes a value at a depth of nesting, with a line for every item. -/
def toIndentedText (depth : Nat) : Value → Text
  | list items => block "[" "]" depth (indentedItems (depth + 1) items)
  | object fields => block "\x7b" "\x7d" depth (indentedFields (depth + 1) fields)
  | null => "null"
  | bool b => if b then "true" else "false"
  | int n => Text.ofInt n
  | float x => writeFloat x
  | text t => writeString t

/-- Writes the items of a list at a depth. -/
def indentedItems (depth : Nat) : List Value → List Text
  | [] => []
  | v :: rest => v.toIndentedText depth :: indentedItems depth rest

/-- Writes the fields of an object at a depth. -/
def indentedFields (depth : Nat) : List (Text × Value) → List Text
  | [] => []
  | (name, v) :: rest =>
    (writeString name ++ ": " ++ v.toIndentedText depth) :: indentedFields depth rest

end

mutual

/-- Is every floating-point number in the value finite?  Only then is its text standard JSON. -/
def isStandard : Value → Bool
  | float (.finite ..) => true
  | float _ => false
  | list items => itemsStandard items
  | object fields => fieldsStandard fields
  | _ => true

/-- Are all items standard? -/
def itemsStandard : List Value → Bool
  | [] => true
  | v :: rest => v.isStandard && itemsStandard rest

/-- Are the values of all fields standard? -/
def fieldsStandard : List (Text × Value) → Bool
  | [] => true
  | (_, v) :: rest => v.isStandard && fieldsStandard rest

end

end Value

end Json

end CardPayments
