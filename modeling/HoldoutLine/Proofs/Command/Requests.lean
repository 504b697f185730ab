import HoldoutLine.Proofs.Command.Completeness

/-! # Requests for help and for the version are answered at once

A request settles what is pending and ends the reading (`Progress.readAll_request`), so what stands behind it is not
looked at. In front of it stand arguments that would be accepted by themselves. They leave nothing that could not be
settled, unless one more option with a value that it does not take stands between them and the request: then settling
fails, and that is the answer.
-/

namespace HoldoutLine.Command

open Spelled

/-- The arguments that ask for help or for the version, and for nothing else, with the answer to each. -/
inductive Asks : String → Refusal → Prop where
  | helpName : Asks "--help" .helpRequested
  | helpLetter : Asks "-h" .helpRequested
  | versionName : Asks "--version" .versionRequested
  | versionLetter : Asks "-V" .versionRequested

/-- Whether an argument starts an option that takes a value, by its name or by its letter, perhaps behind letters that
ask for more log output. -/
def Argument.starts (option : ValueOption) : Argument → Bool
  | .long name _ => longOption? name = some (.value option)
  | .letters text => (text.dropWhile (· = 'v')).head?.bind shortOption? = some (.value option)
  | _ => false

def Contains (arguments : List String) (option : ValueOption) : Prop :=
  ∃ argument ∈ arguments, (Argument.ofChars argument.toList).starts option = true

instance (arguments : List String) (option : ValueOption) : Decidable (Contains arguments option) :=
  inferInstanceAs (Decidable (∃ argument ∈ arguments, (Argument.ofChars argument.toList).starts option = true))

namespace Progress

variable {argument request : String} {flag : Flag} {answer : Refusal} {rest : List String}

/-- An option that only ever gives an answer gives it once what is pending is settled. -/
theorem startFlag_refused (raised : ∀ settings : Settings, settings.raise flag = .error answer) (progress : Progress) :
    progress.startFlag flag = progress.settle >>= fun _ => .error answer := by
  unfold startFlag
  simp only [raised]
  rfl

private theorem readAll_askingName (name : List Char)
    (kind : Argument.ofChars argument.toList = .long name none)
    (known : longOption? name = some (.flag flag)) (raised : ∀ settings : Settings, settings.raise flag = .error answer)
    (progress : Progress) (rest : List String) :
    progress.readAll (argument :: rest) = progress.settle >>= fun _ => .error answer := by
  rw [readAll_long kind, readLong, known]
  dsimp only
  rw [Option.isSome_none, if_neg Bool.false_ne_true, startFlag_refused raised, bind_assoc]
  rfl

private theorem readAll_askingLetter (letter : Char)
    (kind : Argument.ofChars argument.toList = .letters [letter])
    (known : shortOption? letter = some (.flag flag))
    (raised : ∀ settings : Settings, settings.raise flag = .error answer) (progress : Progress) (rest : List String) :
    progress.readAll (argument :: rest) = progress.settle >>= fun _ => .error answer := by
  rw [readAll_letters kind, readLetters, known]
  dsimp only
  rw [startFlag_refused raised, bind_assoc, bind_assoc]
  rfl

/-- Behind a request nothing is read. -/
theorem readAll_request (asks : Asks request answer) (progress : Progress) (rest : List String) :
    progress.readAll (request :: rest) = progress.settle >>= fun _ => .error answer := by
  have help : ∀ settings : Settings, settings.raise .help = .error .helpRequested := fun _ => rfl
  have version : ∀ settings : Settings, settings.raise .version = .error .versionRequested := fun _ => rfl
  cases asks with
  | helpName => exact readAll_askingName "help".toList (by decide) (by decide) help progress rest
  | helpLetter => exact readAll_askingLetter 'h' (by decide) (by decide) help progress rest
  | versionName => exact readAll_askingName "version".toList (by decide) (by decide) version progress rest
  | versionLetter => exact readAll_askingLetter 'V' (by decide) (by decide) version progress rest

/-- An option in front of a request is obeyed first, and only its failure shows. -/
theorem readAll_option_request {spelled : Spelled} (valid : spelled.isValid = true) (asks : Asks request answer)
    (settings : Settings) (rest : List String) :
    readAll ⟨settings, .nothing⟩ (spelled.arguments ++ request :: rest) =
      settings.obey spelled >>= fun _ => .error answer := by
  rw [readAll_arguments valid, ← Spelled.settle_hear, bind_assoc]
  simp only [readAll_request asks]
  rfl

private theorem settlesFirst_request (asks : Asks request answer) (rest : List String) :
    SettlesFirst (request :: rest) := by
  intro progress
  simp only [readAll_request asks]
  rfl

end Progress

section Accepted

variable {arguments : List String} {invocation : Invocation} {spelled : List Spelled} {wrong : Spelled}
  {option : ValueOption} {text : String}

/-- What is accepted without a terminator is spelled options, and reading goes on from their settings. -/
theorem exists_spelled_of_parse (parsed : parse arguments = .ok invocation) (unclosed : "--" ∉ arguments) :
    ∃ spelled, WellSpelled spelled ∧ arguments = spelled.flatMap Spelled.arguments := by
  obtain ⟨result, read⟩ : ∃ result, Progress.initial.readAll arguments = .ok result := by
    cases read : Progress.initial.readAll arguments with
    | error refusal => rw [parse, read] at parsed; cases parsed
    | ok result => exact ⟨result, rfl⟩
  obtain ⟨spelled, closed, valid, rfl⟩ := Progress.spelled_of_readAll Progress.isReady_initial read
  rw [Progress.readAll_commandLine valid] at read
  have nothing : WellSpelled [] := ⟨by simp, List.nodup_nil, by simp⟩
  have well := (wellSpelled_of_foldlM nothing valid read).1
  refine ⟨spelled, well, ?_⟩
  cases closed with
  | false => exact List.append_nil _
  | true => exact (unclosed (List.mem_append_right _ List.mem_cons_self)).elim

/-- Reading goes on from the settings that well-spelled options come to. -/
theorem parse_append (well : WellSpelled spelled) {rest : List String} (settles : Progress.SettlesFirst rest) :
    parse (spelled.flatMap Spelled.arguments ++ rest) =
      (Progress.readAll ⟨settings spelled, .nothing⟩ rest).map Settings.invocation := by
  have obeyed : spelled.foldlM Settings.obey (settings []) = .ok (settings ([] ++ spelled)) := foldlM_obey well
  rw [parse, Progress.readAll_append well.valid settles]
  change Except.map _ (spelled.foldlM Settings.obey (settings []) >>= _) = _
  rw [obeyed]
  rfl

/-- The arguments of an option that takes a value start it. -/
theorem contains_arguments (valid : wrong.isValid = true) (given : wrong.value? = some (option, text)) :
    Contains wrong.arguments option := by
  have cluster_starts : ∀ {verbose letter} (value : List Char), option.letter? = some letter →
      (Argument.ofChars (cluster verbose (letter :: value)).toList).starts option = true := by
    intro verbose letter value short
    obtain ⟨text, letters, known⟩ := letters_of_cluster verbose value short
    rw [letters, Argument.starts, known, decide_eq_true rfl]
  cases wrong with
  | verboseName | verboseLetters => cases given
  | longApart =>
    cases given
    exact ⟨_, List.mem_cons_self, by rw [ofChars_longApart, Argument.starts, longOption_name, decide_eq_true rfl]⟩
  | longAttached =>
    cases given
    exact ⟨_, List.mem_cons_self, by rw [ofChars_longAttached, Argument.starts, longOption_name, decide_eq_true rfl]⟩
  | letterApart =>
    cases given
    exact ⟨_, List.mem_cons_self, cluster_starts [] (of_decide_eq_true (Bool.and_eq_true_iff.mp valid).1)⟩
  | letterAttached =>
    cases given
    exact ⟨_, List.mem_cons_self, cluster_starts _ (of_decide_eq_true (Bool.and_eq_true_iff.mp valid).1)⟩
  | letterEqual =>
    cases given
    exact ⟨_, List.mem_cons_self, cluster_starts _ (of_decide_eq_true valid)⟩

/-- An option that no argument starts has no text. -/
theorem textOf_of_not_contains (well : WellSpelled spelled)
    (absent : ¬Contains (spelled.flatMap Spelled.arguments) option) : textOf? spelled option = none := by
  by_contra known
  obtain ⟨text, here⟩ := Option.ne_none_iff_exists'.mp known
  obtain ⟨given, listed, value⟩ := List.mem_filterMap.mp (given_of_textOf here)
  obtain ⟨argument, member, starts⟩ := contains_arguments (well.valid given listed) value
  exact absent ⟨argument, List.mem_flatMap.mpr ⟨given, listed, member⟩, starts⟩

/-- An option that was not given before is refused for a value that it does not take. -/
theorem obey_invalid (well : WellSpelled spelled) (given : wrong.value? = some (option, text))
    (fresh : textOf? spelled option = none) (improper : ¬option.Takes text) :
    (settings spelled).obey wrong = .error .invalidValue := by
  have unknown : ((settings spelled).louder wrong.verbosity).has option = false := by
    rw [has_louder, has_settings well, fresh, Option.isSome_none]
  have unassigned : ((settings spelled).louder wrong.verbosity).assign? option text = none := by
    rw [← Option.not_isSome_iff_eq_none, isSome_assign_iff]
    exact improper
  rw [Settings.obey, given]
  dsimp only
  rw [Settings.store, unknown, if_neg Bool.false_ne_true, unassigned]

end Accepted

/-- Behind arguments that are accepted and hold no terminator, a request is answered whatever follows it. If there is
one more option between them, not among the arguments so far and with a value that it does not take, the answer is
that the value is invalid, whatever follows. -/
theorem request_answered_at_once {arguments : List String} {invocation : Invocation}
    (parsed : parse arguments = .ok invocation) (unclosed : "--" ∉ arguments) {request : String} {answer : Refusal}
    (asks : Asks request answer) (rest : List String) :
    parse (arguments ++ request :: rest) = .error answer ∧
      ∀ (wrong : Spelled) (option : ValueOption) (text : String), wrong.isValid = true →
        wrong.value? = some (option, text) → ¬Contains arguments option → ¬option.Takes text →
        parse (arguments ++ (wrong.arguments ++ request :: rest)) = .error .invalidValue := by
  obtain ⟨spelled, well, rfl⟩ := exists_spelled_of_parse parsed unclosed
  constructor
  · rw [parse_append well (Progress.settlesFirst_request asks rest), Progress.readAll_request asks]
    rfl
  · intro wrong option text valid given absent improper
    have refused := obey_invalid well given (textOf_of_not_contains well absent) improper
    rw [parse_append well (Progress.settlesFirst_arguments valid _), Progress.readAll_option_request valid asks,
      refused]
    rfl

def pendingLine : List String := ["-vs7", "--input=--help", "--rows", "3"]

/-- A second seed, an unknown option, a word and a terminator. -/
def brokenLine : List String := ["-s", "x", "--bogus", "word", "--", "--help"]

theorem pendingLine_answered_at_once :
    parse pendingLine = .ok ⟨.file "--help", ⟨0.2, 7⟩, .text, .detailed, 3, 1⟩ ∧ "--" ∉ pendingLine ∧
      parse (pendingLine ++ "-V" :: brokenLine) = .error .versionRequested ∧
      ¬Contains pendingLine .format ∧ ¬ValueOption.format.Takes "xml" ∧
      parse (pendingLine ++ (["-vf", "xml"] ++ "-V" :: brokenLine)) = .error .invalidValue := by
  have parsed : parse pendingLine = .ok ⟨.file "--help", ⟨0.2, 7⟩, .text, .detailed, 3, 1⟩ := by rfl
  have unclosed : "--" ∉ pendingLine := by decide
  have absent : ¬Contains pendingLine .format := by decide +kernel
  have improper : ¬ValueOption.format.Takes "xml" := by decide +kernel
  obtain ⟨answered, refused⟩ := request_answered_at_once parsed unclosed .versionLetter brokenLine
  exact ⟨parsed, unclosed, answered, absent, improper,
    refused (.letterApart 1 .format 'f' "xml") .format "xml" (by decide +kernel) rfl absent improper⟩

end HoldoutLine.Command
