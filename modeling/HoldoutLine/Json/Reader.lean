import HoldoutLine.Json.Basic
import HoldoutLine.Decimal.Numeral

/-! # Reading JSON

A reader for any JSON document. Each reader takes the characters that are left and gives a value and the
characters after it, or `none` where no value of its kind stands. The fuel bounds how many values and
items may still be opened; `Json.read?` gives it twice the length of the text, which is more than the
text can hold.
-/

namespace HoldoutLine.Json

def asFloat? : Json → Option Float
  | .count value => some (Numeral.nearest false value 0).toFloat
  | .number value => some value
  | _ => none

/-- A number, or null for none. -/
def asOptionalFloat? : Json → Option (Option Float)
  | .null => some none
  | other => other.asFloat?.map some

/-- JSON's own blanks. -/
def isJsonBlank (c : Char) : Bool := c = ' ' ∨ c = '\t' ∨ c = '\n' ∨ c = '\r'

def skipBlanks (text : List Char) : List Char := text.dropWhile isJsonBlank

def hexDigit? (c : Char) : Option Nat :=
  if '0' ≤ c ∧ c ≤ '9' then some (c.toNat - '0'.toNat)
  else if 'a' ≤ c ∧ c ≤ 'f' then some (c.toNat - 'a'.toNat + 10)
  else if 'A' ≤ c ∧ c ≤ 'F' then some (c.toNat - 'A'.toNat + 10)
  else none

def fourHex? : List Char → Option (Nat × List Char)
  | a :: b :: c :: d :: rest => do
    let a ← hexDigit? a
    let b ← hexDigit? b
    let c ← hexDigit? c
    let d ← hexDigit? d
    return (((16 * a + b) * 16 + c) * 16 + d, rest)
  | _ => none

/-- The character of a `\u` escape whose `\u` is already read; two escapes together write a character
beyond the basic plane. -/
def unicodeEscape? (text : List Char) : Option (Char × List Char) := do
  let (high, rest) ← fourHex? text
  if 0xD800 ≤ high ∧ high ≤ 0xDBFF then
    match rest with
    | '\\' :: 'u' :: rest =>
      let (low, rest) ← fourHex? rest
      if 0xDC00 ≤ low ∧ low ≤ 0xDFFF then
        return (Char.ofNat (0x10000 + (high - 0xD800) * 0x400 + (low - 0xDC00)), rest)
      else none
    | _ => none
  else if 0xDC00 ≤ high ∧ high ≤ 0xDFFF then none
  else return (Char.ofNat high, rest)

/-- The character of an escape whose backslash is already read. -/
def escape? : List Char → Option (Char × List Char)
  | '"' :: rest => some ('"', rest)
  | '\\' :: rest => some ('\\', rest)
  | '/' :: rest => some ('/', rest)
  | 'b' :: rest => some (Char.ofNat 8, rest)
  | 'f' :: rest => some (Char.ofNat 12, rest)
  | 'n' :: rest => some ('\n', rest)
  | 'r' :: rest => some ('\r', rest)
  | 't' :: rest => some ('\t', rest)
  | 'u' :: rest => unicodeEscape? rest
  | _ => none

/-- The rest of a text after its opening quote; `done` holds the characters read so far, last first. -/
def textBody? (fuel : Nat) (done : List Char) (text : List Char) : Option (String × List Char) :=
  match fuel, text with
  | 0, _ => none
  | _, [] => none
  | _, '"' :: rest => some (String.ofList done.reverse, rest)
  | fuel + 1, '\\' :: rest =>
    match escape? rest with
    | some (c, rest) => textBody? fuel (c :: done) rest
    | none => none
  | fuel + 1, c :: rest => if c.toNat < 0x20 then none else textBody? fuel (c :: done) rest

/-- The fraction of a number: digits after a point, or nothing. -/
def fraction? : List Char → Option (List Char × List Char)
  | '.' :: rest =>
    let (digits, rest) := rest.span Char.isDigit
    if digits.isEmpty then none else some (digits, rest)
  | other => some ([], other)

/-- The power of ten of a number, if one is stated. -/
def power? : List Char → Option (Option Int × List Char)
  | [] => some (none, [])
  | c :: rest =>
    if c = 'e' ∨ c = 'E' then
      let (negative, rest) := Numeral.splitSign rest
      let (digits, rest) := rest.span Char.isDigit
      let size : Int := Numeral.ofDigits digits
      if digits.isEmpty then none else some (some (if negative then -size else size), rest)
    else some (none, c :: rest)

/-- A number after its sign. -/
def magnitude? (negative : Bool) (text : List Char) : Option (Json × List Char) := do
  let (whole, rest) := text.span Char.isDigit
  guard (!whole.isEmpty && (whole.length == 1 || whole.head? != some '0'))
  let (fraction, rest) ← fraction? rest
  let (power, rest) ← power? rest
  if !negative && fraction.isEmpty && power.isNone then
    return (.count (Numeral.ofDigits whole), rest)
  else
    let significand := Numeral.ofDigits (whole ++ fraction)
    let value := Numeral.nearest negative significand (power.getD 0 - fraction.length)
    return (.number value.toFloat, rest)

def number? : List Char → Option (Json × List Char)
  | '-' :: rest => magnitude? true rest
  | unsigned => magnitude? false unsigned

mutual

/-- A value, without blanks before it. -/
def value? (fuel : Nat) (text : List Char) : Option (Json × List Char) :=
  match fuel with
  | 0 => none
  | fuel + 1 =>
    match text with
    | 'n' :: 'u' :: 'l' :: 'l' :: rest => some (.null, rest)
    | 't' :: 'r' :: 'u' :: 'e' :: rest => some (.bool true, rest)
    | 'f' :: 'a' :: 'l' :: 's' :: 'e' :: rest => some (.bool false, rest)
    | '"' :: rest => (textBody? (rest.length + 1) [] rest).map fun (value, rest) => (.text value, rest)
    | '[' :: rest =>
      match skipBlanks rest with
      | ']' :: rest => some (.list [], rest)
      | rest => items? fuel [] rest
    | '\x7b' :: rest =>
      match skipBlanks rest with
      | '\x7d' :: rest => some (.object [], rest)
      | rest => members? fuel [] rest
    | other => number? other

/-- The items of a list up to its closing bracket; `done` holds those read so far, last first. -/
def items? (fuel : Nat) (done : List Json) (text : List Char) : Option (Json × List Char) :=
  match fuel with
  | 0 => none
  | fuel + 1 =>
    match value? fuel text with
    | none => none
    | some (item, rest) =>
      match skipBlanks rest with
      | ',' :: rest => items? fuel (item :: done) (skipBlanks rest)
      | ']' :: rest => some (.list (item :: done).reverse, rest)
      | _ => none

/-- The members of an object up to its closing brace; `done` holds those read so far, last first. -/
def members? (fuel : Nat) (done : List (String × Json)) (text : List Char) :
    Option (Json × List Char) :=
  match fuel with
  | 0 => none
  | fuel + 1 =>
    match text with
    | '"' :: rest =>
      match textBody? (rest.length + 1) [] rest with
      | none => none
      | some (name, rest) =>
        match skipBlanks rest with
        | ':' :: rest =>
          match value? fuel (skipBlanks rest) with
          | none => none
          | some (value, rest) =>
            match skipBlanks rest with
            | ',' :: rest => members? fuel ((name, value) :: done) (skipBlanks rest)
            | '\x7d' :: rest => some (.object ((name, value) :: done).reverse, rest)
            | _ => none
        | _ => none
    | _ => none

end

/-- The value that a whole document writes, blanks around it allowed. -/
def read? (document : String) : Option Json :=
  let text := skipBlanks document.toList
  match value? (2 * text.length + 2) text with
  | some (value, rest) => if (skipBlanks rest).isEmpty then some value else none
  | none => none

end HoldoutLine.Json
