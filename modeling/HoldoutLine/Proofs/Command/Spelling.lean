import HoldoutLine.Command.Scan
import HoldoutLine.Command.Spelling
import HoldoutLine.Proofs.Decimal.Grammar
import Mathlib.Data.List.Nodup

/-! # Spelled options are read as they are meant

Reading the arguments of spelled options comes to obeying the options one after the other: `readAll_spelled` says
so for any values, good or bad, and any way of spelling, `readAll_commandLine` with a bare `--` behind them and
`readAll_append` with other arguments there. What is pending between two arguments never shows, since it is settled
before anything else is done.
-/

namespace HoldoutLine.Command

namespace Settings

def louder (settings : Settings) : Nat → Settings
  | 0 => settings
  | more + 1 => louder { settings with verbosity := min (settings.verbosity + 1) 255 } more

/-- What settings come to when a spelled option is obeyed. -/
def obey (settings : Settings) (spelled : Spelled) : Except Refusal Settings :=
  match spelled.value? with
  | none => .ok (settings.louder spelled.verbosity)
  | some (option, text) => (settings.louder spelled.verbosity).store option text

theorem louder_eq (settings : Settings) (more : Nat) (bounded : settings.verbosity ≤ 255) :
    settings.louder more = { settings with verbosity := min (settings.verbosity + more) 255 } := by
  induction more generalizing settings with
  | zero => rw [louder, Nat.add_zero, Nat.min_eq_left bounded]
  | succ more ih =>
    rw [louder, ih _ (Nat.min_le_right ..)]
    dsimp only
    congr 1
    omega

end Settings

namespace Spelled

/-- How far reading has got behind a spelled option; a value that stands apart is held back. -/
def hear (settings : Settings) : Spelled → Except Refusal Progress
  | .longApart option text => .ok ⟨settings, .holding option text⟩
  | .letterApart verbose option _ text => .ok ⟨settings.louder verbose, .holding option text⟩
  | spelled => (settings.obey spelled).map fun settings => ⟨settings, .nothing⟩

/-- What is held back is what is left to obey. -/
theorem settle_hear (settings : Settings) (spelled : Spelled) :
    (spelled.hear settings >>= Progress.settle) = settings.obey spelled := by
  have settled : ∀ outcome : Except Refusal Settings,
      (outcome.map (fun settings => (⟨settings, .nothing⟩ : Progress)) >>= Progress.settle) = outcome := by
    intro outcome
    cases outcome <;> rfl
  cases spelled with
  | verboseName | verboseLetters | longApart | letterApart => rfl
  | longAttached | letterAttached | letterEqual => exact settled _

end Spelled

/-- The arguments of spelled options, and a terminator behind them if the line is closed. -/
def commandLine (spelled : List Spelled) (closed : Bool) : List String :=
  spelled.flatMap Spelled.arguments ++ if closed then ["--"] else []

section Arguments

open Spelled

variable {option : ValueOption} {letter : Char} {text : String}

theorem ofChars_longApart (option : ValueOption) :
    Argument.ofChars ("--" ++ option.name).toList = .long option.name.toList none := by
  cases option <;> decide

theorem ofChars_longAttached (option : ValueOption) (text : String) :
    Argument.ofChars ("--" ++ option.name ++ "=" ++ text).toList = .long option.name.toList (some text) := by
  cases option <;> simp [ValueOption.name, Argument.ofChars, Argument.ofLong]

theorem ofChars_letters (verbose : Nat) (value : List Char) (undashed : letter ≠ '-') :
    Argument.ofChars (cluster verbose (letter :: value)).toList =
      .letters (List.replicate verbose 'v' ++ letter :: value) := by
  cases verbose with
  | zero => simp [cluster, Argument.ofChars, undashed]
  | succ more => simp [cluster, Argument.ofChars, List.replicate_succ]

theorem ofChars_verbose (more : Nat) :
    Argument.ofChars (cluster (more + 1) []).toList = .letters (List.replicate (more + 1) 'v' ++ []) := by
  simp [cluster, Argument.ofChars, List.replicate_succ]

theorem ofChars_apart (apart : standsApart text = true) : Argument.ofChars text.toList = .word := by
  unfold Argument.ofChars
  split
  · next dashes =>
    rw [standsApart, dashes] at apart
    have single : text = "-" := by simpa using apart
    rw [single] at dashes
    cases dashes
  · next dashed =>
    rw [standsApart, dashed] at apart
    have single : text = "-" := by simpa using apart
    rw [single] at dashed
    cases dashed
  · next dashed =>
    rw [standsApart, dashed] at apart
    have single : text = "-" := by simpa using apart
    rw [single] at dashed
    cases dashed
  · rfl

theorem longOption_name (option : ValueOption) : longOption? option.name.toList = some (.value option) := by
  cases option <;> decide

theorem shortOption_letter (short : option.letter? = some letter) :
    shortOption? letter = some (.value option) ∧ letter ≠ '-' := by
  cases option <;> cases short <;> decide

end Arguments

namespace Progress

variable {progress : Progress} {option : ValueOption} {letter : Char} {text : String} {rest : List String}

/-- An option that starts knows only what is settled. -/
theorem startValue_eq (progress : Progress) (option : ValueOption) (attached : Option String) :
    progress.startValue option attached =
      progress.settle >>= fun settings => startValue ⟨settings, .nothing⟩ option attached := by
  unfold startValue
  cases progress.settle <;> rfl

private theorem startFlag_verbose (progress : Progress) :
    progress.startFlag .verbose = progress.settle.map fun settings => ⟨settings.louder 1, .nothing⟩ := by
  unfold startFlag
  cases progress.settle <;> rfl

/-- Letters that ask for more log output are obeyed one by one; at least one of them settles what was pending. -/
theorem readLetters_verbose (progress : Progress) (more : Nat) (rest : List Char) :
    progress.readLetters (List.replicate (more + 1) 'v' ++ rest) =
      progress.settle >>= fun settings => readLetters ⟨settings.louder (more + 1), .nothing⟩ rest := by
  induction more generalizing progress with
  | zero =>
    change (progress.startFlag .verbose >>= fun progress => progress.readLetters rest) = _
    rw [startFlag_verbose]
    cases progress.settle <;> rfl
  | succ more ih =>
    change (progress.startFlag .verbose >>= fun progress =>
      progress.readLetters (List.replicate (more + 1) 'v' ++ rest)) = _
    rw [startFlag_verbose]
    cases progress.settle with
    | error refusal => rfl
    | ok settings => exact ih ⟨settings.louder 1, .nothing⟩

/-- A cluster that ends with an option's letter starts that option, after the requests in front of it. -/
theorem readLetters_cluster (short : shortOption? letter = some (.value option)) (progress : Progress) (verbose : Nat)
    (value : List Char) :
    progress.readLetters (List.replicate verbose 'v' ++ letter :: value) =
      progress.settle >>= fun settings =>
        startValue ⟨settings.louder verbose, .nothing⟩ option (attachedValue value) := by
  have started : ∀ progress : Progress,
      progress.readLetters (letter :: value) = progress.startValue option (attachedValue value) := by
    intro progress
    rw [readLetters, short]
  cases verbose with
  | zero =>
    rw [List.replicate_zero, List.nil_append, started, startValue_eq]
    rfl
  | succ more =>
    rw [readLetters_verbose]
    simp only [started]

private theorem startValue_some (settings : Settings) (option : ValueOption) (text : String) :
    startValue ⟨settings, .nothing⟩ option (some text) =
      (settings.store option text).map fun settings => ⟨settings, .nothing⟩ := by
  change (settings.store option text >>= fun settings => pure (⟨settings, .nothing⟩ : Progress)) = _
  cases settings.store option text <;> rfl

private theorem attachedValue_of_attaches (attaches : Spelled.attaches text = true) :
    attachedValue text.toList = some text := by
  obtain ⟨nonempty, unequal⟩ := Bool.and_eq_true_iff.mp attaches
  unfold attachedValue
  split
  · next nothing => simp [String.toList_eq_nil_iff.mp nothing] at nonempty
  · next marked => simp [marked] at unequal
  · rw [String.ofList_toList]

theorem readAll_long {argument : String} {name : List Char} {attached : Option String}
    (kind : Argument.ofChars argument.toList = .long name attached) :
    progress.readAll (argument :: rest) =
      progress.readLong name attached >>= fun progress => progress.readAll rest := by
  rw [readAll, kind]

theorem readAll_letters {argument : String} {letters : List Char}
    (kind : Argument.ofChars argument.toList = .letters letters) :
    progress.readAll (argument :: rest) =
      progress.readLetters letters >>= fun progress => progress.readAll rest := by
  rw [readAll, kind]

/-- A word behind an option that awaits its value is the value. -/
theorem readAll_value (apart : Spelled.standsApart text = true) (settings : Settings) :
    readAll ⟨settings, .awaiting option⟩ (text :: rest) = readAll ⟨settings, .holding option text⟩ rest := by
  rw [readAll, ofChars_apart apart]
  rfl

/-- A spelled option is heard once what was pending is settled. -/
theorem readAll_arguments {spelled : Spelled} (valid : spelled.isValid = true) (progress : Progress)
    (rest : List String) :
    progress.readAll (spelled.arguments ++ rest) =
      progress.settle >>= fun settings => spelled.hear settings >>= fun next => next.readAll rest := by
  cases spelled with
  | verboseName =>
    have name : longOption? "verbose".toList = some (.flag .verbose) := by decide
    rw [Spelled.arguments, List.singleton_append,
      readAll_long (show Argument.ofChars "--verbose".toList = .long "verbose".toList none by decide),
      readLong, name]
    dsimp only
    rw [Option.isSome_none, if_neg Bool.false_ne_true, startFlag_verbose]
    cases progress.settle <;> rfl
  | verboseLetters more =>
    rw [Spelled.arguments, List.singleton_append, readAll_letters (ofChars_verbose more), readLetters_verbose]
    cases progress.settle <;> rfl
  | longApart option text =>
    rw [Spelled.arguments, List.cons_append, List.singleton_append, readAll_long (ofChars_longApart option), readLong,
      longOption_name]
    dsimp only
    rw [startValue_eq]
    cases progress.settle with
    | error refusal => rfl
    | ok settings => exact readAll_value valid settings
  | longAttached option text =>
    rw [Spelled.arguments, List.singleton_append, readAll_long (ofChars_longAttached option text), readLong,
      longOption_name]
    dsimp only
    rw [startValue_eq]
    cases progress.settle with
    | error refusal => rfl
    | ok settings =>
      change (startValue ⟨settings, .nothing⟩ option (some text) >>= _) = _
      rw [startValue_some]
      rfl
  | letterApart verbose option letter text =>
    obtain ⟨short, apart⟩ := Bool.and_eq_true_iff.mp valid
    obtain ⟨known, undashed⟩ := shortOption_letter (of_decide_eq_true short)
    rw [Spelled.arguments, List.cons_append, List.singleton_append,
      readAll_letters (ofChars_letters verbose [] undashed), readLetters_cluster known]
    cases progress.settle with
    | error refusal => rfl
    | ok settings => exact readAll_value apart _
  | letterAttached verbose option letter text =>
    obtain ⟨short, attaches⟩ := Bool.and_eq_true_iff.mp valid
    obtain ⟨known, undashed⟩ := shortOption_letter (of_decide_eq_true short)
    rw [Spelled.arguments, List.singleton_append, readAll_letters (ofChars_letters verbose _ undashed),
      readLetters_cluster known, attachedValue_of_attaches attaches]
    simp only [startValue_some]
    cases progress.settle <;> rfl
  | letterEqual verbose option letter text =>
    obtain ⟨known, undashed⟩ := shortOption_letter (of_decide_eq_true valid)
    have value : attachedValue ('=' :: text.toList) = some text := by rw [attachedValue, String.ofList_toList]
    rw [Spelled.arguments, List.singleton_append, readAll_letters (ofChars_letters verbose _ undashed),
      readLetters_cluster known, value]
    simp only [startValue_some]
    cases progress.settle <;> rfl

/-- What is pending is settled before these arguments are looked at. -/
def SettlesFirst (arguments : List String) : Prop :=
  ∀ progress : Progress,
    progress.readAll arguments = progress.settle >>= fun settings => readAll ⟨settings, .nothing⟩ arguments

theorem settlesFirst_arguments {spelled : Spelled} (valid : spelled.isValid = true) (rest : List String) :
    SettlesFirst (spelled.arguments ++ rest) := by
  intro progress
  simp only [readAll_arguments valid]
  rfl

/-- Reading spelled options in front of others is obeying them one after the other, and reading on from there. -/
theorem readAll_append {spelled : List Spelled} (valid : ∀ option ∈ spelled, option.isValid = true)
    (settles : SettlesFirst rest) (progress : Progress) :
    progress.readAll (spelled.flatMap Spelled.arguments ++ rest) =
      progress.settle >>= fun settings =>
        spelled.foldlM Settings.obey settings >>= fun settings => readAll ⟨settings, .nothing⟩ rest := by
  induction spelled generalizing progress with
  | nil => exact settles progress
  | cons option others ih =>
    obtain ⟨here, later⟩ := List.forall_mem_cons.mp valid
    rw [List.flatMap_cons, List.append_assoc, readAll_arguments here]
    congr 1
    funext settings
    simp only [ih later, List.foldlM_cons, ← Spelled.settle_hear, bind_assoc]

/-- Neither the end of the arguments nor a terminator there leaves anything pending. -/
theorem readAll_ending (progress : Progress) (closed : Bool) :
    progress.readAll (if closed then ["--"] else []) = progress.settle := by
  cases closed <;> rfl

/-- Reading spelled options is obeying them one after the other, whatever comes of it. -/
theorem readAll_commandLine {spelled : List Spelled} (valid : ∀ option ∈ spelled, option.isValid = true)
    (closed : Bool) (progress : Progress) :
    progress.readAll (commandLine spelled closed) =
      progress.settle >>= fun settings => spelled.foldlM Settings.obey settings := by
  have settles : SettlesFirst (if closed then ["--"] else []) := by
    intro progress
    simp only [readAll_ending]
    exact (bind_pure _).symm
  rw [commandLine, readAll_append valid settles]
  simp only [readAll_ending]
  congr 1
  funext settings
  exact bind_pure _

theorem readAll_spelled {spelled : List Spelled} (valid : ∀ option ∈ spelled, option.isValid = true)
    (progress : Progress) :
    progress.readAll (spelled.flatMap Spelled.arguments) =
      progress.settle >>= fun settings => spelled.foldlM Settings.obey settings := by
  rw [← readAll_commandLine valid false, commandLine, if_neg Bool.false_ne_true, List.append_nil]

end Progress

end HoldoutLine.Command
