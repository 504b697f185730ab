import HoldoutLine.Proofs.Table.Reads
import HoldoutLine.Text.Utf8

/-! # The bytes of a text

A text is decoded from its own bytes, and a byte below 128 in them belongs to the character that it is. So a scanner
that looks for commas, quotes and line ends among the bytes of a text finds those of its characters, and the bytes
begin with a byte order mark only if the text does.
-/

namespace HoldoutLine

namespace Utf8

def bytes (text : List Char) : List UInt8 := text.flatMap String.utf8EncodeChar

theorem bytes_append (before after : List Char) : bytes (before ++ after) = bytes before ++ bytes after :=
  List.flatMap_append

theorem bytes_cons (c : Char) (rest : List Char) : bytes (c :: rest) = String.utf8EncodeChar c ++ bytes rest :=
  List.flatMap_cons

theorem bytes_flatMap {α : Type} (xs : List α) (chars : α → List Char) :
    bytes (xs.flatMap chars) = xs.flatMap fun x => bytes (chars x) :=
  List.flatMap_assoc

/-- Every character has a byte. -/
theorem eq_nil_of_bytes {text : List Char} (nothing : bytes text = []) : text = [] := by
  cases text with
  | nil => rfl
  | cons c rest =>
    rw [bytes_cons, List.append_eq_nil_iff] at nothing
    exact (String.utf8EncodeChar_ne_nil nothing.1).elim

/-- The bytes that a text is stored in. -/
theorem toList_toUTF8 (text : String) : text.toUTF8.data.toList = bytes text.toList := by
  rw [String.toUTF8_eq_toByteArray, ← String.utf8Encode_toList, List.utf8Encode, List.toList_data_toByteArray]
  rfl

/-- The text in bytes is the one that they encode. -/
theorem decode_eq_iff {encoded : ByteArray} {text : String} : decode encoded = .ok text ↔ encoded = text.toUTF8 := by
  constructor
  · intro decoded
    unfold decode at decoded
    split at decoded
    · next other found =>
      cases decoded
      unfold String.fromUTF8? at found
      split at found
      · cases found
        rfl
      · cases found
    · cases decoded
  · rintro rfl
    have found : String.fromUTF8? text.toUTF8 = some text := dif_pos text.isValidUTF8
    rw [decode, found]

/-- Decoding gives back the text whose bytes these are. -/
theorem decode_bytes (text : List Char) : decode ⟨(bytes text).toArray⟩ = .ok (String.ofList text) := by
  refine decode_eq_iff.mpr (ByteArray.ext (Array.toList_inj.mp ?_))
  rw [toList_toUTF8, String.toList_ofList]

/-- A byte below 128 belongs to the character that it is. -/
theorem eq_of_mem_utf8EncodeChar {c : Char} {byte : UInt8} (member : byte ∈ String.utf8EncodeChar c)
    (ascii : byte.toNat < 128) : byte.toNat = c.toNat := by
  change _ = c.val.toNat
  unfold String.utf8EncodeChar at member
  dsimp only at member
  -- All bytes of a longer encoding have the top bit, so only the single byte is left.
  split_ifs at member <;> simp only [List.mem_cons, List.not_mem_nil, or_false] at member
  · rw [member, UInt8.toNat_ofNat']
    omega
  · rcases member with rfl | rfl <;> rw [UInt8.toNat_ofNat'] at ascii <;> omega
  · rcases member with rfl | rfl | rfl <;> rw [UInt8.toNat_ofNat'] at ascii <;> omega
  · rcases member with rfl | rfl | rfl | rfl <;> rw [UInt8.toNat_ofNat'] at ascii <;> omega

/-- A character holds the byte of no other character below 128. -/
theorem ne_of_mem_utf8EncodeChar {c other : Char} {byte : UInt8} (member : byte ∈ String.utf8EncodeChar c)
    (ascii : other.toNat < 128) (differs : c ≠ other) : byte ≠ UInt8.ofNat other.toNat := by
  rintro rfl
  have value : (UInt8.ofNat other.toNat).toNat = other.toNat := by
    rw [UInt8.toNat_ofNat']
    omega
  have same := eq_of_mem_utf8EncodeChar member (lt_of_eq_of_lt value ascii)
  exact differs (Char.toNat_inj.mp (same.symm.trans value))

end Utf8

namespace Table.Feed

/-- The byte order mark is the bytes of one character. -/
theorem byteOrderMark_eq : byteOrderMark = Utf8.bytes ['\uFEFF'] := by decide

/-- Bytes of a text begin with a mark only if the text does. -/
theorem head_of_mark {text : List Char} (mark : byteOrderMark <+: Utf8.bytes text) :
    text.head? = some '\uFEFF' := by
  obtain ⟨rest, split⟩ := mark
  have encoded : (['\uFEFF'] : List Char).utf8Encode ++ rest.toByteArray = text.utf8Encode := by
    rw [byteOrderMark_eq] at split
    rw [List.utf8Encode, List.utf8Encode, ← List.toByteArray_append]
    exact congrArg List.toByteArray split
  obtain ⟨more, rfl⟩ := List.isPrefix_of_utf8Encode_append_eq_utf8Encode _ encoded
  rfl

theorem bytes_ofText (text : String) : (ofText text).bytes = Utf8.bytes text.toList := by
  rw [ofText, ofBytes, bytes_inReads (by decide), Utf8.toList_toUTF8]

/-- A text that does not begin with a mark opens none, however its bytes are handed out. -/
theorem opening_of_text {feed : Feed} {text : List Char} (bytes : feed.bytes = Utf8.bytes text)
    (unmarked : text.head? ≠ some '\uFEFF') : feed.opening = .unmarked :=
  opening_of_no_mark fun mark => unmarked (head_of_mark (bytes ▸ mark))

/-- The scan of such a text reads it from end to end. -/
theorem scan_of_text {feed : Feed} {text : List Char} (bytes : feed.bytes = Utf8.bytes text)
    (unmarked : text.head? ≠ some '\uFEFF') (whole : feed.failure = none) :
    feed.scan = ⟨((Scanner.initial 0).run (Utf8.bytes text)).close.finished, none⟩ := by
  have opening := opening_of_text bytes unmarked
  have several : feed.opening ≠ .markAlone := by
    rw [opening]
    decide
  have everything : feed.table = Utf8.bytes text := by
    rw [table, opening, bytes]
    rfl
  rw [scan_of_table several, scanner, opening, everything, whole]
  rfl

end Table.Feed

end HoldoutLine
