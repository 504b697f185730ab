/-! # UTF-8 texts

Bytes that should be text: `Utf8.decode` gives the text, or how many bytes at the start are well formed;
`Utf8.shown` makes a cut text visible by showing a character that was cut off as U+FFFD.
-/

namespace HoldoutLine.Utf8

/-- The length of the longest well-formed stretch from `start` on, added to `start`. -/
def validEnd (bytes : ByteArray) (start : Nat) : Nat :=
  match _decoded : bytes.utf8DecodeChar? start with
  | none => start
  | some c => validEnd bytes (start + c.utf8Size)
termination_by bytes.size - start
decreasing_by
  have inside := ByteArray.lt_size_of_isSome_utf8DecodeChar? (b := bytes) (i := start) (by simp [_decoded])
  have positive := c.utf8Size_pos
  omega

/-- The text that the bytes encode, or the length of the well-formed bytes before the first bad one. -/
def decode (bytes : ByteArray) : Except Nat String :=
  match String.fromUTF8? bytes with
  | some text => .ok text
  | none => .error (validEnd bytes 0)

/-- A text whose last character may have been cut: what is left of it shows as one U+FFFD. -/
def shown (bytes : ByteArray) : String :=
  match decode bytes with
  | .ok text => text
  | .error stop =>
    match String.fromUTF8? (bytes.extract 0 stop) with
    | some text => text ++ "\ufffd"
    | none => "\ufffd"

end HoldoutLine.Utf8
