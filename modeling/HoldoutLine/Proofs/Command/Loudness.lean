import HoldoutLine.Proofs.Command.Completeness
import HoldoutLine.Proofs.Command.Outcomes
import Mathlib.Logic.Relation

/-! # The log never touches the result

How much is logged is decided by the requests for more log output and by the log setting. Neither shows in the exit
code or in the output of a run: `run_blind_to_log` compares two runs whose arguments differ in such requests only.

Reading arguments never looks at how many requests came before (`Progress.blind_readAll`, one step lemma for each kind
of argument and an induction over the arguments), and where nothing awaits its value a request only settles what is
pending, which the next argument would have done.
-/

namespace HoldoutLine.Command

open Spelled

/-- The second argument list asks for more log output once more than the first: with an argument of its own between
two options, or with a letter in front of the letter of an option that takes a value. -/
inductive Louder : List String → List String → Prop where
  | flag {before : List Spelled} {request : Spelled} {rest : List String}
      (valid : ∀ option ∈ before, option.isValid = true) (asks : request.value? = none) :
      Louder (before.flatMap arguments ++ rest) (before.flatMap arguments ++ (request.arguments ++ rest))
  | letter {before : List Spelled} {verbose : Nat} {option : ValueOption} {letter : Char} {value : List Char}
      {rest : List String} (valid : ∀ option ∈ before, option.isValid = true) (short : option.letter? = some letter) :
      Louder (before.flatMap arguments ++ cluster verbose (letter :: value) :: rest)
        (before.flatMap arguments ++ cluster (verbose + 1) (letter :: value) :: rest)

/-- Argument lists that differ only in their requests for more log output. -/
def SameButLoudness : List String → List String → Prop := Relation.EqvGen Louder

section Blind

variable {ε α β γ δ ζ η : Type} {f : α → δ} {g : β → ζ} {h : γ → η}

/-- A step that is blind to what `f` forgets: where nothing else differs, neither does its outcome, up to what `g`
forgets. -/
def Blind (f : α → δ) (g : β → ζ) (step : α → Except ε β) : Prop :=
  ∀ ⦃x y⦄, f x = f y → (step x).map g = (step y).map g

theorem Blind.bind {first : α → Except ε β} {others : β → Except ε γ} (here : Blind f g first)
    (later : Blind g h others) : Blind f h fun x => first x >>= others := by
  intro x y same
  have alike := here same
  change (first x >>= others).map h = (first y >>= others).map h
  generalize first x = left at alike ⊢
  generalize first y = right at alike ⊢
  match left, right, alike with
  | .error _, .error _, rfl => rfl
  | .ok _, .ok _, alike => exact later (Except.ok.inj alike)

private theorem blind_refuse (refusal : ε) : Blind f g fun _ => .error refusal := fun _ _ _ => rfl

private theorem blind_done {step : α → β} (kept : ∀ ⦃x y⦄, f x = f y → g (step x) = g (step y)) :
    Blind f g fun x => (.ok (step x) : Except ε β) := fun _ _ same => congrArg Except.ok (kept same)

end Blind

section Quiet

/-- Settings without what they say about the log. -/
def Settings.quiet (settings : Settings) : Settings := { settings with verbosity := 0 }

def Invocation.quiet (invocation : Invocation) : Invocation := { invocation with verbosity := 0 }

def Progress.quiet (progress : Progress) : Progress := { progress with settings := progress.settings.quiet }

open Settings (quiet)

private theorem quiet_louder (settings : Settings) (more : Nat) :
    (settings.louder more).quiet = settings.quiet := by
  induction more generalizing settings with
  | zero => rfl
  | succ more ih => exact ih _

private theorem eq_of_quiet {settings other : Settings} (same : settings.quiet = other.quiet) :
    other = { settings with verbosity := other.verbosity } := by
  obtain ⟨input, testFraction, seed, rows, format, style, verbosity⟩ := other
  cases same
  rfl

private theorem blind_store (option : ValueOption) (text : String) :
    Blind quiet quiet (·.store option text) := by
  intro settings other same
  rw [eq_of_quiet same]
  dsimp only
  unfold Settings.store
  have had : Settings.has { settings with verbosity := other.verbosity } option = settings.has option := by
    cases option <;> rfl
  rw [had]
  split_ifs
  · rfl
  cases option with
  | input => rfl
  | testSize => cases read : Numeral.toFloat? text <;> simp [Settings.assign?, read, Except.map, quiet]
  | seed => cases read : readCount? text <;> simp [Settings.assign?, read, Except.map, quiet]
  | rows => cases read : readCount? text <;> simp [Settings.assign?, read, Except.map, quiet]
  | format => cases read : (OutputFormat.ofName text).toOption <;> simp [Settings.assign?, read, Except.map, quiet]
  | style => cases read : (ReportStyle.ofName text).toOption <;> simp [Settings.assign?, read, Except.map, quiet]

private theorem blind_raise (flag : Flag) : Blind quiet quiet (·.raise flag) := by
  cases flag with
  | verbose => exact blind_done fun _ _ same => same
  | help | version => exact blind_refuse _

end Quiet

namespace Progress

variable {progress next : Progress} {settings result : Settings}

private theorem quiet_mk {settings other : Settings} (same : settings.quiet = other.quiet) (pending : Pending) :
    quiet ⟨settings, pending⟩ = quiet ⟨other, pending⟩ :=
  congrArg (Progress.mk · pending) same

private theorem blind_mk (pending : Pending) :
    Blind Settings.quiet quiet fun settings => (.ok ⟨settings, pending⟩ : Except Refusal Progress) :=
  blind_done fun _ _ same => quiet_mk same pending

private theorem blind_settle : Blind quiet Settings.quiet settle := by
  rintro ⟨settings, pending⟩ ⟨other, _⟩ same
  cases congrArg Progress.pending same
  have alike : settings.quiet = other.quiet := congrArg Progress.settings same
  cases pending with
  | nothing => exact congrArg Except.ok alike
  | awaiting option => rfl
  | holding option text => exact blind_store option text alike

private theorem blind_startValue (option : ValueOption) (attached : Option String) :
    Blind quiet quiet (·.startValue option attached) := by
  refine blind_settle.bind ?_
  cases attached with
  | none => exact blind_mk (.awaiting option)
  | some text => exact (blind_store option text).bind (blind_mk .nothing)

private theorem blind_startFlag (flag : Flag) : Blind quiet quiet (·.startFlag flag) :=
  blind_settle.bind ((blind_raise flag).bind (blind_mk .nothing))

private theorem blind_readLetters (letters : List Char) : Blind quiet quiet (·.readLetters letters) := by
  induction letters with
  | nil => exact blind_done fun _ _ same => same
  | cons letter rest ih =>
    simp only [readLetters]
    cases shortOption? letter with
    | none => exact blind_refuse _
    | some known =>
      cases known with
      | value option => exact blind_startValue option _
      | flag flag => exact (blind_startFlag flag).bind ih

private theorem blind_readLong (name : List Char) (attached : Option String) :
    Blind quiet quiet (·.readLong name attached) := by
  unfold readLong
  cases longOption? name with
  | none => exact blind_refuse _
  | some known =>
    cases known with
    | value option => exact blind_startValue option attached
    | flag flag =>
      cases attached with
      | none => exact blind_startFlag flag
      | some text => exact blind_refuse _

private theorem blind_readWord (word : String) : Blind quiet quiet (·.readWord word) := by
  rintro ⟨settings, pending⟩ ⟨other, _⟩ same
  cases congrArg Progress.pending same
  have alike : settings.quiet = other.quiet := congrArg Progress.settings same
  cases pending with
  | awaiting option => exact congrArg Except.ok (quiet_mk alike (.holding option word))
  | nothing | holding => rfl

/-- Reading arguments never looks at how much log output was asked for. -/
theorem blind_readAll (arguments : List String) : Blind quiet Settings.quiet (·.readAll arguments) := by
  induction arguments with
  | nil => exact blind_settle
  | cons argument rest ih =>
    simp only [readAll]
    cases Argument.ofChars argument.toList with
    | terminator =>
      cases rest with
      | nil => exact blind_settle
      | cons => exact blind_refuse _
    | long name attached => exact (blind_readLong name attached).bind ih
    | letters text => exact (blind_readLetters text).bind ih
    | word => exact (blind_readWord argument).bind ih

private theorem startValue_settled (settled : progress.settle = .ok settings) (option : ValueOption)
    (attached : Option String) :
    progress.startValue option attached = startValue ⟨settings, .nothing⟩ option attached := by
  rw [startValue_eq, settled]
  rfl

private theorem startFlag_settled (settled : progress.settle = .ok settings) (flag : Flag) :
    progress.startFlag flag = startFlag ⟨settings, .nothing⟩ flag := by
  rw [startFlag, settled]
  rfl

/-- Where nothing awaits its value, what is pending may as well be settled before the next argument. -/
theorem readAll_settled (ready : progress.IsReady) (settled : progress.settle = .ok settings)
    (arguments : List String) : progress.readAll arguments = readAll ⟨settings, .nothing⟩ arguments := by
  cases arguments with
  | nil => exact settled
  | cons argument rest =>
    unfold readAll
    cases kind : Argument.ofChars argument.toList with
    | terminator =>
      dsimp only
      rw [settled]
      rfl
    | long name attached =>
      have same : progress.readLong name attached = readLong ⟨settings, .nothing⟩ name attached := by
        unfold readLong
        simp only [startValue_settled settled, startFlag_settled settled]
      exact congrArg (· >>= (·.readAll rest)) same
    | letters text =>
      obtain ⟨letter, others, rfl⟩ := List.exists_cons_of_ne_nil (toList_of_letters kind).2
      have same : progress.readLetters (letter :: others) = readLetters ⟨settings, .nothing⟩ (letter :: others) := by
        unfold readLetters
        simp only [startValue_settled settled, startFlag_settled settled]
      exact congrArg (· >>= (·.readAll rest)) same
    | word =>
      have refused : progress.readWord argument = .error .unknownArgument := by
        unfold readWord
        split
        · next option awaiting => exact (ready option awaiting).elim
        · rfl
      exact congrArg (· >>= (·.readAll rest)) refused

/-- Where nothing awaits its value, reading on settles what is pending. -/
theorem settle_of_readAll (ready : progress.IsReady) {arguments : List String}
    (read : progress.readAll arguments = .ok result) : ∃ settings, progress.settle = .ok settings := by
  cases arguments with
  | nil => exact ⟨result, read⟩
  | cons argument rest =>
    rcases spelled_of_readAll_cons ready read with closed | ⟨spelled, others, valid, same⟩
    · rw [closed] at read
      exact ⟨result, read⟩
    · rw [same, readAll_arguments valid] at read
      exact (bind_eq_ok_iff.mp read).imp fun settings => And.left

end Progress

section Requests

variable {before : List Spelled} {request : Spelled} {progress : Progress} {known : Settings}

private theorem hear_request (asks : request.value? = none) (settings : Settings) :
    request.isValid = true ∧ request.hear settings = .ok ⟨settings.louder request.verbosity, .nothing⟩ := by
  cases request <;> cases asks <;> exact ⟨rfl, rfl⟩

/-- The settings that arguments come to, apart from what they say about the log. -/
def Progress.Says (progress : Progress) (arguments : List String) (known : Settings) : Prop :=
  (progress.readAll arguments).map Settings.quiet = .ok known

/-- A request between two options changes nothing but the log. -/
theorem says_request_iff (asks : request.value? = none) (ready : progress.IsReady) (rest : List String) :
    progress.Says rest known ↔ progress.Says (request.arguments ++ rest) known := by
  have heard : progress.readAll (request.arguments ++ rest) = progress.settle >>= fun settings =>
      Progress.readAll ⟨settings.louder request.verbosity, .nothing⟩ rest := by
    rw [Progress.readAll_arguments (hear_request asks {}).1]
    congr 1
    funext settings
    rw [(hear_request asks settings).2]
    rfl
  unfold Progress.Says
  rw [heard]
  cases settled : progress.settle with
  | error refusal =>
    refine iff_of_false (fun said => ?_) nofun
    cases read : progress.readAll rest with
    | error other => rw [read] at said; cases said
    | ok result =>
      obtain ⟨settings, done⟩ := Progress.settle_of_readAll ready read
      rw [settled] at done
      cases done
  | ok settings =>
    have alike := Progress.blind_readAll rest (Progress.quiet_mk (quiet_louder settings request.verbosity) .nothing)
    rw [Progress.readAll_settled ready settled]
    exact iff_of_eq (congrArg (· = Except.ok known) alike.symm)

/-- So does a letter in front of an option's letter. -/
theorem says_letter_iff {option : ValueOption} {letter : Char} (short : option.letter? = some letter)
    (progress : Progress) (verbose more : Nat) (value : List Char) (rest : List String) :
    progress.Says (cluster verbose (letter :: value) :: rest) known ↔
      progress.Says (cluster more (letter :: value) :: rest) known := by
  obtain ⟨short, undashed⟩ := shortOption_letter short
  unfold Progress.Says
  rw [Progress.readAll_letters (ofChars_letters verbose value undashed), Progress.readLetters_cluster short,
    Progress.readAll_letters (ofChars_letters more value undashed), Progress.readLetters_cluster short]
  cases progress.settle with
  | error refusal => rfl
  | ok settings =>
    have same : (settings.louder verbose).quiet = (settings.louder more).quiet := by rw [quiet_louder, quiet_louder]
    have step := (Progress.blind_startValue option (Progress.attachedValue value)).bind (Progress.blind_readAll rest)
    exact iff_of_eq (congrArg (· = Except.ok known) (step (Progress.quiet_mk same .nothing)))

/-- What says the same wherever nothing awaits its value says the same behind the same options. -/
theorem says_behind_iff {rest other : List String} (valid : ∀ option ∈ before, option.isValid = true)
    (alike : ∀ progress : Progress, progress.IsReady → (progress.Says rest known ↔ progress.Says other known))
    (ready : progress.IsReady) :
    progress.Says (before.flatMap arguments ++ rest) known ↔
      progress.Says (before.flatMap arguments ++ other) known := by
  induction before generalizing progress with
  | nil => exact alike progress ready
  | cons option others ih =>
    obtain ⟨here, later⟩ := List.forall_mem_cons.mp valid
    unfold Progress.Says at ih ⊢
    rw [List.flatMap_cons, List.append_assoc, List.append_assoc, Progress.readAll_arguments here,
      Progress.readAll_arguments here]
    cases progress.settle with
    | error refusal => rfl
    | ok settings =>
      cases heard : option.hear settings with
      | error refusal => simp only [bind, Except.bind, heard]
      | ok next =>
        have step := ih later (Progress.isReady_of_hear heard)
        simpa only [bind, Except.bind, heard] using step

private theorem says_of_louder {arguments others : List String} (louder : Louder arguments others) :
    Progress.initial.Says arguments known ↔ Progress.initial.Says others known := by
  cases louder with
  | flag valid asks =>
    exact says_behind_iff valid (fun _ ready => says_request_iff asks ready _) Progress.isReady_initial
  | letter valid short =>
    exact says_behind_iff valid (fun progress _ => says_letter_iff short progress _ _ _ _) Progress.isReady_initial

private theorem says_of_sameButLoudness {arguments others : List String}
    (alike : SameButLoudness arguments others) :
    Progress.initial.Says arguments known ↔ Progress.initial.Says others known := by
  induction alike with
  | rel _ _ louder => exact says_of_louder louder
  | refl => rfl
  | symm _ _ _ ih => exact ih.symm
  | trans _ _ _ _ _ first second => exact first.trans second

end Requests

/-- Arguments that differ only in their requests for more log output ask for invocations that differ in nothing
else. -/
theorem parse_of_sameButLoudness {arguments others : List String} {invocation : Invocation}
    (alike : SameButLoudness arguments others) (parsed : parse arguments = .ok invocation) :
    ∃ other, parse others = .ok other ∧ other.quiet = invocation.quiet := by
  obtain ⟨settings, read, rfl⟩ : ∃ settings, Progress.initial.readAll arguments = .ok settings ∧
      settings.invocation = invocation := by
    cases read : Progress.initial.readAll arguments <;> rw [parse, read] at parsed <;> cases parsed
    exact ⟨_, rfl, rfl⟩
  have said : Progress.initial.Says others settings.quiet :=
    (says_of_sameButLoudness alike).mp (congrArg (Except.map Settings.quiet) read)
  unfold Progress.Says at said
  cases again : Progress.initial.readAll others with
  | error refusal =>
    rw [again] at said
    cases said
  | ok other =>
    rw [again] at said
    refine ⟨other.invocation, congrArg (Except.map Settings.invocation) again, ?_⟩
    exact congrArg Settings.invocation (Except.ok.inj said)

/-- The log never touches the result: where arguments are accepted, others that differ from them only in their requests
for more log output, under any other log setting, lead to the same exit code and the same output. -/
theorem run_blind_to_log {arguments others : List String} {invocation : Invocation}
    (parsed : parse arguments = .ok invocation) (alike : SameButLoudness arguments others) (surroundings : Surroundings)
    (setting : Option String) :
    (run others { surroundings with logSetting := setting }).exitCode = (run arguments surroundings).exitCode ∧
      (run others { surroundings with logSetting := setting }).output = (run arguments surroundings).output := by
  obtain ⟨other, reparsed, same⟩ := parse_of_sameButLoudness alike parsed
  have source : other.quiet.source = invocation.quiet.source := congrArg Invocation.source same
  have plan : other.quiet.plan = invocation.quiet.plan := congrArg Invocation.plan same
  have rendered : other.quiet.render = invocation.quiet.render := congrArg Invocation.render same
  rw [run, run, parsed, reparsed]
  exact @outcome_congr invocation other source plan rendered surroundings setting

/-- Nothing to read anywhere, and no log setting. -/
def barrenSurroundings : Surroundings := ⟨none, .ofBytes [], fun _ => .error "no such file"⟩

def clusteredLine : List String := ["-vvs7", "--rows", "3", "-i-"]

def scatteredLine : List String := ["-vs7", "--verbose", "--rows", "3", "-vvv", "-i-"]

private theorem clusteredLine_sameButLoudness : SameButLoudness clusteredLine scatteredLine := by
  have fewer : Louder ["-vs7", "--rows", "3", "-i-"] clusteredLine :=
    @Louder.letter [] 1 .seed 's' ['7'] ["--rows", "3", "-i-"] nofun rfl
  have named : Louder ["-vs7", "--rows", "3", "-i-"] ["-vs7", "--verbose", "--rows", "3", "-i-"] :=
    @Louder.flag [.letterAttached 1 .seed 's' "7"] .verboseName ["--rows", "3", "-i-"] (by decide +kernel) rfl
  have clustered : Louder ["-vs7", "--verbose", "--rows", "3", "-i-"] scatteredLine :=
    @Louder.flag [.letterAttached 1 .seed 's' "7", .verboseName, .longApart .rows "3"] (.verboseLetters 2) ["-i-"]
      (by decide +kernel) rfl
  exact .trans _ _ _ (.symm _ _ (.rel _ _ fewer)) (.trans _ _ _ (.rel _ _ named) (.rel _ _ clustered))

theorem clusteredLine_blind_to_log :
    parse clusteredLine = .ok ⟨.standardInput, ⟨0.2, 7⟩, .text, .detailed, 3, 2⟩ ∧
      SameButLoudness clusteredLine scatteredLine ∧
      (run scatteredLine { barrenSurroundings with logSetting := some "trace" }).exitCode =
        (run clusteredLine barrenSurroundings).exitCode ∧
      (run scatteredLine { barrenSurroundings with logSetting := some "trace" }).output =
        (run clusteredLine barrenSurroundings).output := by
  have parsed : parse clusteredLine = .ok ⟨.standardInput, ⟨0.2, 7⟩, .text, .detailed, 3, 2⟩ := by rfl
  exact ⟨parsed, clusteredLine_sameButLoudness,
    run_blind_to_log parsed clusteredLine_sameButLoudness barrenSurroundings (some "trace")⟩

end HoldoutLine.Command
