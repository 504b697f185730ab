import HoldoutLine.Command.Run
import HoldoutLine.Proofs.Json.Numbers

/-! # What the messages tell

The message of a failed run names where the dataset was to come from and all that is known of the failure
(`DatasetError.message_mentions`, `RunError.message_mentions`), and a run that fails prints its message
(`Command.Invocation.outcome_mentions`). Two cells or rows of a table that are refused for
different reasons, on different lines or with different texts are refused with different messages
(`DatasetError.eq_of_message`), and so are two sources, unless a file has the name of another source
(`Command.Source.eq_of_label`).
-/

namespace HoldoutLine

def Mentions (text part : String) : Prop := part.toList <:+: text.toList

section Mentions

variable {text part : String}

private theorem Mentions.append_left (mentions : Mentions text part) (before : String) :
    Mentions (before ++ text) part := by
  rw [Mentions, String.toList_append]
  exact mentions.trans (List.suffix_append _ _).isInfix

private theorem Mentions.append_right (mentions : Mentions text part) (after : String) :
    Mentions (text ++ after) part := by
  rw [Mentions, String.toList_append]
  exact mentions.trans (List.prefix_append _ _).isInfix

/-- Joined pieces mention each of them. -/
theorem mentions_join {pieces : List String} (member : part ∈ pieces) : Mentions (String.join pieces) part := by
  obtain ⟨before, after, rfl⟩ := List.append_of_mem member
  rw [String.join_append, String.join_cons]
  exact (Mentions.append_right List.infix_rfl _).append_left _

end Mentions

namespace DatasetError

/-- What is known of an error, as its message shows it. -/
def particulars : DatasetError → List String
  | .invalidText record start field validBytes =>
    [toString record, toString start.line, toString field, toString start.offset, toString validBytes]
  | .readFailed reason | .openFailed reason => [reason]
  | .missingHeader | .noRows => []
  | .wrongColumnCount line found => ["line " ++ toString line, toString found]
  | .notNumeric line value | .nonFinite line value => ["line " ++ toString line, value]
  | .nonFiniteRow row observation =>
    ["row " ++ toString row, NumberLayout.report.text observation.predictor,
      NumberLayout.report.text observation.target]

/-- A detail is put together of the particulars and of words between them. -/
theorem detail_eq_join (error : DatasetError) :
    ∃ pieces, error.detail = String.join pieces ∧ error.particulars ⊆ pieces := by
  have joined : ∀ text : String, text = String.join [text] := fun text => by
    rw [String.join_cons, String.join_nil, String.append_empty]
  cases error with
  | invalidText record start field validBytes =>
    refine ⟨["CSV parse error: record ", toString record, " (line ", toString start.line, ", field: ", toString field,
      ", byte: ", toString start.offset, "): ", "invalid utf-8: invalid UTF-8 in field ", toString field,
      " near byte index ", toString validBytes], ?_, by simp [particulars]⟩
    change "CSV parse error: record " ++ toString record ++ " (line " ++ toString start.line ++ ", field: " ++
      toString field ++ ", byte: " ++ toString start.offset ++ "): " ++
        ("invalid utf-8: invalid UTF-8 in field " ++ toString field ++ " near byte index " ++ toString validBytes) = _
    simp only [String.join_cons, String.join_nil, String.append_assoc, String.append_empty]
  | wrongColumnCount line found =>
    refine ⟨["line " ++ toString line, ": expected 2 columns, found ", toString found], ?_, by simp [particulars]⟩
    change "line " ++ toString line ++ ": expected 2 columns, found " ++ toString found = _
    simp only [String.join_cons, String.join_nil, String.append_assoc, String.append_empty]
  | notNumeric line value =>
    refine ⟨["line " ++ toString line, ": '", value, "' is not a number"], ?_, by simp [particulars]⟩
    change "line " ++ toString line ++ ": '" ++ value ++ "' is not a number" = _
    simp only [String.join_cons, String.join_nil, String.append_assoc, String.append_empty]
  | nonFinite line value =>
    refine ⟨["line " ++ toString line, ": '", value, "' is not a finite number"], ?_, by simp [particulars]⟩
    change "line " ++ toString line ++ ": '" ++ value ++ "' is not a finite number" = _
    simp only [String.join_cons, String.join_nil, String.append_assoc, String.append_empty]
  | nonFiniteRow row observation =>
    refine ⟨["row " ++ toString row, " holds a non-finite value (", NumberLayout.report.text observation.predictor,
      ", ", NumberLayout.report.text observation.target, ")"], ?_, by simp [particulars]⟩
    change "row " ++ toString row ++ " holds a non-finite value (" ++
      NumberLayout.report.text observation.predictor ++ ", " ++
        NumberLayout.report.text observation.target ++ ")" = _
    simp only [String.join_cons, String.join_nil, String.append_assoc, String.append_empty]
  | missingHeader => exact ⟨_, joined _, List.nil_subset _⟩
  | noRows => exact ⟨_, joined _, List.nil_subset _⟩
  | readFailed reason => exact ⟨_, joined reason, List.Subset.refl _⟩
  | openFailed reason => exact ⟨_, joined reason, List.Subset.refl _⟩

/-- The message tells all that is known of the error. -/
theorem message_mentions (error : DatasetError) : ∀ part ∈ error.particulars, Mentions error.message part := by
  intro part member
  obtain ⟨pieces, joined, present⟩ := error.detail_eq_join
  rw [message, joined]
  exact (mentions_join (present member)).append_left _

/-- The line of the table that an error is about, and what is said of it. -/
def remark? : DatasetError → Option (ℕ × String)
  | .wrongColumnCount line found => some (line, "expected 2 columns, found " ++ toString found)
  | .notNumeric line value => some (line, "'" ++ (value ++ "' is not a number"))
  | .nonFinite line value => some (line, "'" ++ (value ++ "' is not a finite number"))
  | _ => none

private theorem message_eq_of_remark {error : DatasetError} {remark : ℕ × String}
    (said : error.remark? = some remark) :
    error.message = "malformed input: " ++ ("line " ++ (toString remark.1 ++ (": " ++ remark.2))) := by
  cases error <;> cases said
  case wrongColumnCount line found =>
    change "malformed input: " ++ ("line " ++ toString line ++ ": expected 2 columns, found " ++ toString found) = _
    rw [String.append_assoc, String.append_assoc]
    rfl
  case notNumeric line value =>
    change "malformed input: " ++ ("line " ++ toString line ++ ": '" ++ value ++ "' is not a number") = _
    rw [String.append_assoc, String.append_assoc, String.append_assoc]
    rfl
  case nonFinite line value =>
    change "malformed input: " ++ ("line " ++ toString line ++ ": '" ++ value ++ "' is not a finite number") = _
    rw [String.append_assoc, String.append_assoc, String.append_assoc]
    rfl

/-- The line ends at the colon, so a message gives its line and what is said of it. -/
theorem remark_of_message {error other : DatasetError} {remark alsoRemark : ℕ × String}
    (said : error.remark? = some remark) (alsoSaid : other.remark? = some alsoRemark)
    (same : error.message = other.message) : remark = alsoRemark := by
  rw [message_eq_of_remark said, message_eq_of_remark alsoSaid, String.append_right_inj,
    String.append_right_inj] at same
  have spanned : ∀ told : ℕ × String, (toString told.1 ++ (": " ++ told.2)).toList.span Char.isDigit =
      (Nat.toDigits 10 told.1, ':' :: ' ' :: told.2.toList) := by
    intro told
    have colon : ": ".toList = [':', ' '] := rfl
    rw [String.toList_append, String.toList_append, colon, Nat.toString_eq_repr, Nat.toList_repr]
    refine Numeral.span_digits (Json.isDigits_toDigits told.1) fun c first => ?_
    cases first
    rfl
  have parts := congrArg (fun text => text.toList.span Char.isDigit) same
  rw [spanned, spanned, Prod.mk.injEq, List.cons.injEq, List.cons.injEq] at parts
  obtain ⟨line, -, -, words⟩ := parts
  have number := congrArg (fun digits => Nat.ofDigitChars 10 digits 0) line
  rw [Nat.ofDigitChars_ten_toDigits, Nat.ofDigitChars_ten_toDigits] at number
  exact Prod.ext number (String.toList_inj.mp words)

private theorem eq_of_remark {error other : DatasetError} {remark : ℕ × String}
    (said : error.remark? = some remark) (alsoSaid : other.remark? = some remark) : error = other := by
  have opening : ∀ found words : String, "expected 2 columns, found " ++ found ≠ "'" ++ words := by
    intro found words same
    have first := congrArg (fun text => text.toList.head?) same
    simp only [String.toList_append] at first
    exact absurd first (by simp)
  have ending : ∀ value words : String, value ++ "' is not a number" ≠ words ++ "' is not a finite number" := by
    intro value words same
    have last := congrArg (fun text => (text.toList.reverse.drop 7).head?) same
    simp only [String.toList_append, List.reverse_append] at last
    exact absurd last (by simp)
  cases error <;> cases said <;> cases other <;>
    simp only [remark?, Option.some.injEq, Prod.mk.injEq, reduceCtorEq] at alsoSaid
  all_goals obtain ⟨rfl, words⟩ := alsoSaid
  -- The nine pairs of kinds, in the order of the constructors.
  · rw [String.append_right_inj, Nat.toString_eq_repr, Nat.toString_eq_repr, Nat.repr_inj] at words
    rw [words]
  · exact (opening _ _ words.symm).elim
  · exact (opening _ _ words.symm).elim
  · exact (opening _ _ words).elim
  · rw [String.append_right_inj, String.append_left_inj] at words
    rw [words]
  · exact (ending _ _ (String.append_right_inj _ |>.mp words).symm).elim
  · exact (opening _ _ words).elim
  · exact (ending _ _ (String.append_right_inj _ |>.mp words)).elim
  · rw [String.append_right_inj, String.append_left_inj] at words
    rw [words]

/-- Different errors about lines of the table have different messages. -/
theorem eq_of_message {error other : DatasetError} (placed : error.remark?.isSome = true)
    (alsoPlaced : other.remark?.isSome = true) (same : error.message = other.message) : error = other := by
  obtain ⟨remark, said⟩ := Option.isSome_iff_exists.mp placed
  obtain ⟨alsoRemark, alsoSaid⟩ := Option.isSome_iff_exists.mp alsoPlaced
  obtain rfl := remark_of_message said alsoSaid same
  exact eq_of_remark said alsoSaid

end DatasetError

namespace Command

/-- Sources with the same label are the same, unless one of them is a file that is named like another source. -/
theorem Source.eq_of_label {source other : Source} (same : source.label = other.label) :
    source = other ∨ ∃ path ∈ ["embedded scores", "stdin"], source = .file path ∨ other = .file path := by
  cases source <;> cases other
  case file.file => exact .inl (congrArg Source.file same)
  case bundled.bundled => exact .inl rfl
  case standardInput.standardInput => exact .inl rfl
  case bundled.file path => exact .inr ⟨path, by rw [show path = _ from same.symm]; decide, .inr rfl⟩
  case file.bundled path => exact .inr ⟨path, by rw [show path = _ from same]; decide, .inl rfl⟩
  case standardInput.file path => exact .inr ⟨path, by rw [show path = _ from same.symm]; decide, .inr rfl⟩
  case file.standardInput path => exact .inr ⟨path, by rw [show path = _ from same]; decide, .inl rfl⟩
  case bundled.standardInput => exact absurd same (by decide)
  case standardInput.bundled => exact absurd same (by decide)

/-- A dataset that cannot be loaded is reported with its source and with all that is known of the error. -/
theorem RunError.message_mentions (source : Source) (cause : DatasetError) :
    ∀ part ∈ source.label :: cause.particulars, Mentions (RunError.load source cause).message part := by
  have label : Mentions (RunError.load source cause).message source.label :=
    ((Mentions.append_left List.infix_rfl _).append_right _).append_right _
  refine List.forall_mem_cons.mpr ⟨label, fun part member => ?_⟩
  exact (cause.message_mentions part member).append_left _

/-- A run that fails prints its message behind the log. -/
theorem Invocation.outcome_mentions {invocation : Invocation} {surroundings : Surroundings} {failure : RunError}
    (failed : (invocation.report surroundings).result = .error failure) :
    (invocation.outcome surroundings).exitCode = 1 ∧
      Mentions (invocation.outcome surroundings).diagnostics failure.message := by
  unfold Invocation.outcome
  dsimp only
  rw [failed]
  exact ⟨rfl, (Mentions.append_left List.infix_rfl _).append_right _⟩

end Command

end HoldoutLine
