import HoldoutLine.Json.Basic
import HoldoutLine.Decimal.Notation

/-! # Written JSON

The indented form of a JSON value: two blanks a level, one item or member a line, a colon and a blank
after a name, and an empty list or object on one line. A double is written with the fewest digits that
read back, always with a point or an exponent, so that it cannot be taken for a count; not-a-number and
the infinities have no JSON form and become null.
-/

namespace HoldoutLine.Json

def fourHex (code : Nat) : List Char :=
  let digits := Nat.toDigits 16 code
  List.replicate (4 - digits.length) '0' ++ digits

def escapedChar (c : Char) : List Char :=
  if c = '"' ∨ c = '\\' then ['\\', c]
  else if c.toNat = 8 then ['\\', 'b']
  else if c.toNat = 12 then ['\\', 'f']
  else if c = '\n' then ['\\', 'n']
  else if c = '\r' then ['\\', 'r']
  else if c = '\t' then ['\\', 't']
  else if c.toNat < 0x20 then '\\' :: 'u' :: fourHex c.toNat
  else [c]

def quoted (text : String) : String :=
  String.ofList ('"' :: text.toList.flatMap escapedChar ++ ['"'])

/-- A double, or null if it is not finite. -/
def numberText (x : Float) : String :=
  match Binary64.ofFloat x with
  | .finite .. => NumberLayout.json.text x
  | _ => "null"

def indent (depth : Nat) : String := String.ofList (List.replicate (2 * depth) ' ')

/-- Lines between an opening and a closing bracket, the lines one level deeper than the brackets. -/
def bracketed (opening closing : String) (depth : Nat) : List String → String
  | [] => opening ++ closing
  | lines =>
    opening ++ "\n" ++ String.intercalate ",\n" (lines.map (indent (depth + 1) ++ ·)) ++ "\n" ++
      indent depth ++ closing

mutual

/-- The indented form of a value whose first line starts at the given depth. -/
def pretty (depth : Nat) : Json → String
  | .null => "null"
  | .bool value => if value then "true" else "false"
  | .count value => toString value
  | .number value => numberText value
  | .text value => quoted value
  | .list items => bracketed "[" "]" depth (prettyItems (depth + 1) items)
  | .object members => bracketed "\x7b" "\x7d" depth (prettyMembers (depth + 1) members)

def prettyItems (depth : Nat) : List Json → List String
  | [] => []
  | item :: rest => pretty depth item :: prettyItems depth rest

def prettyMembers (depth : Nat) : List (String × Json) → List String
  | [] => []
  | (name, value) :: rest => (quoted name ++ ": " ++ pretty depth value) :: prettyMembers depth rest

end

end HoldoutLine.Json
