/-! # Characters by their code point

The written form of a character that would not show: its code point in lowercase hexadecimal digits,
without leading zeros, between braces.
-/

namespace HoldoutLine

/-- Lowercase hexadecimal digits, without leading zeros. -/
def hexText (n : Nat) : List Char := Nat.toDigits 16 n

/-- A character by its code point. -/
def codePointEscape (c : Char) : List Char := '\\' :: 'u' :: '\x7b' :: hexText c.toNat ++ ['\x7d']

end HoldoutLine
