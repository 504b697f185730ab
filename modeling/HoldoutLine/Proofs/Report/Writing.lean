import HoldoutLine.Proofs.Text.Utf8
import HoldoutLine.Report.Sink

/-! # Writing a report to a sink

A sink takes the first bytes of what is offered to it, as many as there is room for, and tells its reason if there are
more. Offering one text after another is offering both at once, so it does not matter in which pieces a text is
written: line by line, cell by cell or character by character, the sink ends up the same (`Sink.writeAll_eq`). A report
is its text, written in lines: with room for the text a sink takes all of it and no write fails, whatever the report
holds (`Report.writeText_of_room`), and with less it is left with the beginning of the text
(`Report.writeText_up_to_room`).
-/

namespace HoldoutLine

private theorem toUTF8_append (first second : String) :
    (first ++ second).toUTF8 = first.toUTF8 ++ second.toUTF8 :=
  String.toByteArray_append

namespace Sink

section Offers

def offered (sink : Sink) (bytes : ByteArray) : Sink :=
  { sink with taken := sink.taken ++ bytes.extract 0 sink.room, room := sink.room - bytes.size }

/-- What a sink says when so many bytes are offered to it. -/
def refusal? (sink : Sink) (size : Nat) : Option String := if size ≤ sink.room then none else some sink.reason

variable {sink : Sink} {bytes : ByteArray}

private theorem extract_of_size_le {size : Nat} (le : bytes.size ≤ size) : bytes.extract 0 size = bytes := by
  refine ByteArray.ext ?_
  rw [ByteArray.data_extract]
  exact Array.extract_eq_self_of_le le

private theorem write_eq (sink : Sink) (text : String) :
    sink.write text = (sink.offered text.toUTF8, sink.refusal? text.toUTF8.size) := by
  simp only [write, refusal?, offered]
  split_ifs with room
  · rw [extract_of_size_le room]
  · rw [Nat.sub_eq_zero_of_le (Nat.le_of_not_le room)]

private theorem offered_offered (sink : Sink) (bytes more : ByteArray) :
    (sink.offered bytes).offered more = sink.offered (bytes ++ more) := by
  simp only [offered, ByteArray.extract_append, ByteArray.append_assoc, ByteArray.size_append, Nat.sub_sub,
    Nat.zero_sub]

/-- A full sink takes nothing more. -/
theorem offered_of_full (full : sink.room = 0) (bytes : ByteArray) : sink.offered bytes = sink := by
  obtain ⟨taken, room, reason⟩ := sink
  obtain rfl : room = 0 := full
  simp only [offered, ByteArray.extract_same, ByteArray.append_empty, Nat.zero_sub]

/-- So what comes after bytes that do not fit is lost. -/
theorem offered_append_of_lt (short : sink.room < bytes.size) (more : ByteArray) :
    sink.offered (bytes ++ more) = sink.offered bytes := by
  rw [← offered_offered]
  exact offered_of_full (Nat.sub_eq_zero_of_le (Nat.le_of_lt short)) more

private theorem refusal?_of_le {size : Nat} (room : size ≤ sink.room) : sink.refusal? size = none := if_pos room

private theorem refusal?_of_lt {size : Nat} (short : sink.room < size) :
    sink.refusal? size = some sink.reason :=
  if_neg (Nat.not_le_of_lt short)

private theorem refusal?_offered (room : bytes.size ≤ sink.room) (size : Nat) :
    (sink.offered bytes).refusal? size = sink.refusal? (bytes.size + size) := by
  have fits : size ≤ sink.room - bytes.size ↔ bytes.size + size ≤ sink.room := by omega
  simp only [refusal?, offered, fits]

end Offers

section Pieces

def writeAll (sink : Sink) : List String → Sink × Option String
  | [] => (sink, none)
  | piece :: rest =>
    match sink.write piece with
    | (sink, none) => sink.writeAll rest
    | (sink, some reason) => (sink, some reason)

/-- In whatever pieces a text is written, the sink is offered the text. -/
theorem writeAll_eq (sink : Sink) (pieces : List String) :
    sink.writeAll pieces =
      (sink.offered (String.join pieces).toUTF8, sink.refusal? (String.join pieces).toUTF8.size) := by
  induction pieces generalizing sink with
  | nil =>
    have nothing : sink.offered "".toUTF8 = sink := by
      rw [offered, extract_of_size_le (Nat.zero_le _)]
      simp
    exact Prod.ext nothing.symm rfl
  | cons piece rest ih =>
    rw [String.join_cons, toUTF8_append, ByteArray.size_append, writeAll, write_eq]
    by_cases room : piece.toUTF8.size ≤ sink.room
    · rw [refusal?_of_le room]
      dsimp only
      rw [ih, offered_offered, refusal?_offered room]
    · have short : sink.room < piece.toUTF8.size := Nat.lt_of_not_le room
      rw [refusal?_of_lt short, offered_append_of_lt short, refusal?_of_lt (by omega)]

/-- Lines are pieces that carry their ends. -/
theorem writeLines_eq_writeAll (sink : Sink) (lines : List String) :
    sink.writeLines lines = sink.writeAll (lines.map (· ++ "\n")) := by
  induction lines generalizing sink with
  | nil => rfl
  | cons line rest ih =>
    rw [List.map_cons, writeLines, writeAll]
    cases sink.write (line ++ "\n") with
    | mk after failure =>
      cases failure with
      | none => exact ih after
      | some reason => rfl

end Pieces

def after (sink : Sink) (text : String) : Sink :=
  { sink with taken := sink.taken ++ text.toUTF8, room := sink.room - text.toUTF8.size }

private theorem offered_of_room {sink : Sink} {text : String} (room : text.toUTF8.size ≤ sink.room) :
    sink.offered text.toUTF8 = sink.after text := by
  rw [offered, extract_of_size_le room, after]

end Sink

namespace Report

private theorem writeText_eq (report : Report) (style : ReportStyle) (rows : Nat) (sink : Sink) :
    report.writeText style rows sink =
      (sink.offered (report.renderText style rows).toUTF8,
        sink.refusal? (report.renderText style rows).toUTF8.size) := by
  rw [writeText, Sink.writeLines_eq_writeAll, Sink.writeAll_eq]
  rfl

/-- No report fails to be written, and what is written is its text. -/
theorem writeText_of_room (report : Report) (style : ReportStyle) (rows : Nat) {sink : Sink}
    (room : (report.renderText style rows).toUTF8.size ≤ sink.room) :
    report.writeText style rows sink = (sink.after (report.renderText style rows), none) := by
  rw [writeText_eq, Sink.offered_of_room room, Sink.refusal?_of_le room]

/-- A report that is written to a sink with a given room leaves there the first bytes of its text, as many as there is
room for. No write fails exactly if the whole text fits, and then what was taken is read back as the text; otherwise the
failure is the sink's own. All this is so in whatever pieces the text is written. -/
theorem writeText_up_to_room (report : Report) (style : ReportStyle) (rows room : Nat) (reason : String) :
    let text := report.renderText style rows
    ∃ sink failure, report.writeText style rows (.ofRoom room reason) = (sink, failure) ∧
      sink.taken = text.toUTF8.extract 0 room ∧ sink.taken.size = min room text.toUTF8.size ∧
      failure = (if text.toUTF8.size ≤ room then none else some reason) ∧
      (Utf8.decode sink.taken = .ok text ↔ text.toUTF8.size ≤ room) ∧
      ∀ pieces, String.join pieces = text → (Sink.ofRoom room reason).writeAll pieces = (sink, failure) := by
  intro text
  have taken : ((Sink.ofRoom room reason).offered text.toUTF8).taken = text.toUTF8.extract 0 room :=
    ByteArray.empty_append
  have size : (text.toUTF8.extract 0 room).size = min room text.toUTF8.size := by
    rw [ByteArray.size_extract, Nat.sub_zero]
  refine ⟨_, _, report.writeText_eq style rows _, taken, taken ▸ size, rfl, ?_, ?_⟩
  · rw [taken, Utf8.decode_eq_iff]
    refine ⟨fun whole => ?_, Sink.extract_of_size_le⟩
    rw [whole] at size
    omega
  · intro pieces cut
    rw [Sink.writeAll_eq, cut]

end Report

end HoldoutLine
