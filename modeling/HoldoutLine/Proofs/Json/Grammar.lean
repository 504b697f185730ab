import HoldoutLine.Decimal.Notation
import HoldoutLine.Json.Reader
import HoldoutLine.Proofs.Decimal.Grammar

/-! # The grammar of JSON documents

Which texts are JSON documents and what they write, said without reading them: `Json.Writes` relates a text to the
value, the items or the members that it writes, and `Json.IsDocument` allows blanks around one value. A whole number
without sign, point and power is a count of any size, every other number the double nearest to it. Blanks may stand
around every bracket, comma and colon; a list or an object has no comma behind its last entry.
-/

namespace HoldoutLine.Json

open Numeral

def IsGap (text : List Char) : Prop := ∀ c ∈ text, isJsonBlank c = true

section Numbers

/-- Digits without a zero in front, zero itself apart. -/
structure IsWhole (digits : List Char) : Prop where
  some : digits ≠ []
  numbered : IsDigits digits
  plain : digits.head? = Option.some '0' → digits.length = 1

/-- A point and digits behind it, or nothing. -/
inductive IsFraction : List Char → List Char → Prop where
  | absent : IsFraction [] []
  | present {digits : List Char} (some : digits ≠ []) (numbered : IsDigits digits) : IsFraction ('.' :: digits) digits

/-- The power of ten that a text states, or nothing. -/
inductive IsPower : List Char → Option Int → Prop where
  | absent : IsPower [] none
  | present {mark : Char} {sign digits : List Char} (marked : mark = 'e' ∨ mark = 'E') (signed : IsSign sign)
      (stated : digits ≠ []) (numbered : IsDigits digits) :
      IsPower (mark :: (sign ++ digits)) (some (if sign = ['-'] then -(ofDigits digits : Int) else ofDigits digits))

/-- The value that a number is. -/
inductive IsNumber : List Char → Json → Prop where
  | count {whole : List Char} (plain : IsWhole whole) : IsNumber whole (.count (ofDigits whole))
  /-- A sign, a point or a power of ten marks a double. -/
  | double {negative : Bool} {whole point fraction tail : List Char} {power : Option Int} (plain : IsWhole whole)
      (pointed : IsFraction point fraction) (powered : IsPower tail power)
      (marked : negative = true ∨ fraction ≠ [] ∨ power ≠ none) :
      IsNumber (Binary64.signText negative ++ (whole ++ (point ++ tail)))
        (.number (nearest negative (ofDigits (whole ++ fraction)) (power.getD 0 - fraction.length)).toFloat)

end Numbers

section Texts

/-- Four hexadecimal digits and the number that they write. -/
inductive IsFourHex : List Char → Nat → Prop where
  | digits {a b c d : Char} {first second third fourth : Nat} (one : hexDigit? a = some first)
      (two : hexDigit? b = some second) (three : hexDigit? c = some third) (four : hexDigit? d = some fourth) :
      IsFourHex [a, b, c, d] (((16 * first + second) * 16 + third) * 16 + fourth)

/-- The character of an escape behind its backslash. -/
inductive IsEscape : List Char → Char → Prop where
  | quote : IsEscape ['"'] '"'
  | backslash : IsEscape ['\\'] '\\'
  | slash : IsEscape ['/'] '/'
  | backspace : IsEscape ['b'] (Char.ofNat 8)
  | formFeed : IsEscape ['f'] (Char.ofNat 12)
  | newline : IsEscape ['n'] '\n'
  | carriageReturn : IsEscape ['r'] '\r'
  | tab : IsEscape ['t'] '\t'
  | unicode {digits : List Char} {code : Nat} (hex : IsFourHex digits code) (single : code < 0xD800 ∨ 0xDFFF < code) :
      IsEscape ('u' :: digits) (Char.ofNat code)
  /-- Two escapes together write a character beyond the basic plane. -/
  | pair {digits others : List Char} {high low : Nat} (first : IsFourHex digits high) (second : IsFourHex others low)
      (leads : 0xD800 ≤ high ∧ high ≤ 0xDBFF) (trails : 0xDC00 ≤ low ∧ low ≤ 0xDFFF) :
      IsEscape ('u' :: (digits ++ '\\' :: 'u' :: others))
        (Char.ofNat (0x10000 + (high - 0xD800) * 0x400 + (low - 0xDC00)))

/-- The characters that are meant by what stands between two quotes. -/
inductive IsBody : List Char → List Char → Prop where
  | empty : IsBody [] []
  | plain {c : Char} {written meant : List Char} (visible : 0x20 ≤ c.toNat) (unquoted : c ≠ '"') (unescaped : c ≠ '\\')
      (rest : IsBody written meant) : IsBody (c :: written) (c :: meant)
  | escaped {escape written meant : List Char} {c : Char} (stands : IsEscape escape c) (rest : IsBody written meant) :
      IsBody ('\\' :: (escape ++ written)) (c :: meant)

def IsQuoted (written : List Char) (meant : String) : Prop :=
  ∃ body, written = '"' :: (body ++ ['"']) ∧ IsBody body meant.toList

end Texts

/-- What a piece of a document writes: a value, the items of a list or the members of an object. -/
inductive Phrase where
  | value (json : Json)
  | items (items : List Json)
  | members (members : List (String × Json))

/-- A text writes a phrase. The blanks behind an entry of a list or an object belong to it, those in front of it do
not. -/
inductive Writes : List Char → Phrase → Prop where
  | null : Writes ['n', 'u', 'l', 'l'] (.value .null)
  | yes : Writes ['t', 'r', 'u', 'e'] (.value (.bool true))
  | no : Writes ['f', 'a', 'l', 's', 'e'] (.value (.bool false))
  | number {text : List Char} {json : Json} (number : IsNumber text json) : Writes text (.value json)
  | text {written : List Char} {meant : String} (quoted : IsQuoted written meant) :
      Writes written (.value (.text meant))
  | emptyList {gap : List Char} (blank : IsGap gap) : Writes ('[' :: (gap ++ [']'])) (.value (.list []))
  | list {gap body : List Char} {items : List Json} (blank : IsGap gap) (inside : Writes body (.items items)) :
      Writes ('[' :: (gap ++ (body ++ [']']))) (.value (.list items))
  | emptyObject {gap : List Char} (blank : IsGap gap) :
      Writes ('\x7b' :: (gap ++ ['\x7d'])) (.value (.object []))
  | object {gap body : List Char} {members : List (String × Json)} (blank : IsGap gap)
      (inside : Writes body (.members members)) :
      Writes ('\x7b' :: (gap ++ (body ++ ['\x7d']))) (.value (.object members))
  | lastItem {text gap : List Char} {item : Json} (written : Writes text (.value item)) (blank : IsGap gap) :
      Writes (text ++ gap) (.items [item])
  | nextItem {text gap space rest : List Char} {item : Json} {items : List Json} (written : Writes text (.value item))
      (blank : IsGap gap) (spaced : IsGap space) (others : Writes rest (.items items)) :
      Writes (text ++ (gap ++ ',' :: (space ++ rest))) (.items (item :: items))
  | lastMember {label before after text gap : List Char} {name : String} {value : Json} (named : IsQuoted label name)
      (front : IsGap before) (back : IsGap after) (written : Writes text (.value value)) (blank : IsGap gap) :
      Writes (label ++ (before ++ ':' :: (after ++ (text ++ gap)))) (.members [(name, value)])
  | nextMember {label before after text gap space rest : List Char} {name : String} {value : Json}
      {members : List (String × Json)} (named : IsQuoted label name) (front : IsGap before) (back : IsGap after)
      (written : Writes text (.value value)) (blank : IsGap gap) (spaced : IsGap space)
      (others : Writes rest (.members members)) :
      Writes (label ++ (before ++ ':' :: (after ++ (text ++ (gap ++ ',' :: (space ++ rest))))))
        (.members ((name, value) :: members))

/-- A whole document: one value with blanks around it. -/
def IsDocument (document : List Char) (json : Json) : Prop :=
  ∃ before text after, document = before ++ (text ++ after) ∧ IsGap before ∧ Writes text (.value json) ∧ IsGap after

end HoldoutLine.Json
