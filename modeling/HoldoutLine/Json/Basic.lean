/-! # JSON values

A JSON document as a value. Whole numbers written without sign, point or exponent are counts of any
size; every other number is a double. Members of an object keep their order.
-/

namespace HoldoutLine

inductive Json where
  | null
  | bool (value : Bool)
  | count (value : Nat)
  | number (value : Float)
  | text (value : String)
  | list (items : List Json)
  | object (members : List (String × Json))

namespace Json

def member? (json : Json) (name : String) : Option Json :=
  match json with
  | .object members => members.lookup name
  | _ => none

def asCount? : Json → Option Nat
  | .count value => some value
  | _ => none

def asText? : Json → Option String
  | .text value => some value
  | _ => none

def asList? : Json → Option (List Json)
  | .list items => some items
  | _ => none

/-- An absent value is null. -/
def ofOption {α : Type} (encode : α → Json) : Option α → Json
  | some value => encode value
  | none => .null

end Json

end HoldoutLine
