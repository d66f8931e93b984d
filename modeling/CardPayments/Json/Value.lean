import CardPayments.Binary64.Shortest
import CardPayments.Numeral

/-!
# JSON values

The values that the provider and the clients exchange.  Whole numbers are unbounded and apart from
floating-point numbers, and the fields of an object stand in the order in which they first arrived.

`Value.display` is the one text of a value: a text is its own display, anything else is written out.
`Value.isTruthy` says which values count as present: not null, false, zero, or empty.
-/

namespace CardPayments

namespace Json

/-- A JSON value. -/
inductive Value where
  /-- The null value. -/
  | null
  /-- A truth value. -/
  | bool (b : Bool)
  /-- A whole number. -/
  | int (n : Int)
  /-- A floating-point number; an extension of the format also has infinities and no-numbers. -/
  | float (x : Binary64)
  /-- A text. -/
  | text (t : Text)
  /-- A list. -/
  | list (items : List Value)
  /-- An object: its fields with their names, in order of arrival. -/
  | object (fields : List (Text × Value))

namespace Value

instance : Inhabited Value := ⟨.null⟩

instance : Coe Text Value := ⟨.text⟩

instance : Coe String Value := ⟨fun s => .text s⟩

/-- The value of the field with the given name. -/
def lookup? (name : Text) (fields : List (Text × Value)) : Option Value :=
  (fields.find? fun field => field.1 = name).map (·.2)

/-- Writes a field: in its place when the name is there already, at the end when it is new. -/
def insertField (name : Text) (v : Value) : List (Text × Value) → List (Text × Value)
  | [] => [(name, v)]
  | field :: rest =>
    if field.1 = name then (name, v) :: rest else field :: insertField name v rest

/-- Does the value count as present? -/
def isTruthy : Value → Bool
  | null => false
  | bool b => b
  | int n => n ≠ 0
  | float x => !x.isZero
  | text t => !t.isEmpty
  | list items => !items.isEmpty
  | object fields => !fields.isEmpty

/-- The value, or the empty text when it does not count as present. -/
def orEmpty (v : Value) : Value := if v.isTruthy then v else text []

/-- The name of the kind of a value, as messages give it. -/
def kindName : Value → Text
  | null => "NoneType"
  | bool _ => "bool"
  | int _ => "int"
  | float _ => "float"
  | text _ => "str"
  | list _ => "list"
  | object _ => "dict"

/-- The text of a truth value. -/
def boolText (b : Bool) : Text := if b then "True" else "False"

mutual

/-- The text of a value inside another one: texts are quoted there. -/
def quoted : Value → Text
  | null => "None"
  | bool b => boolText b
  | int n => Text.ofInt n
  | float x => x.toText
  | text t => t.quoted
  | list items => "[" ++ Text.joinWith ", " (quotedItems items) ++ "]"
  | object fields => "\x7b" ++ Text.joinWith ", " (quotedFields fields) ++ "\x7d"

/-- The texts of the items of a list. -/
def quotedItems : List Value → List Text
  | [] => []
  | v :: rest => v.quoted :: quotedItems rest

/-- The texts of the fields of an object. -/
def quotedFields : List (Text × Value) → List Text
  | [] => []
  | (name, v) :: rest => (name.quoted ++ ": " ++ v.quoted) :: quotedFields rest

end

/-- The text of a value. -/
def display : Value → Text
  | text t => t
  | v => v.quoted

end Value

end Json

end CardPayments
