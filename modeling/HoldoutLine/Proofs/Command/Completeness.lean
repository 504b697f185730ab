import HoldoutLine.Proofs.Command.RoundTrip
import HoldoutLine.Proofs.Except

/-! # Every command line that is read was spelled

The converse of reading what was spelled: arguments that are read without fail are spelled options one after the
other, perhaps with a terminator behind them, and the invocation asks for what these say. So no argument is passed
over: each of them is an option, or the value of the option in front of it.

Between an option and a value that stands apart nothing else can be read, so the arguments are taken apart only where
no value is awaited (`Progress.IsReady`). What is left to show is that options which are obeyed without fail are such
as a command line may consist of.
-/

namespace HoldoutLine.Command

open Spelled

/-- Whether an option asks for help or for the version, and not for a run. -/
def AnyOption.isRequest : AnyOption → Bool
  | .flag .help => true
  | .flag .version => true
  | _ => false

/-- Whether an argument asks for help or for the version, by name or by a letter, perhaps behind letters that ask for
more log output. -/
def Argument.isRequest : Argument → Bool
  | .long name _ => (longOption? name).any AnyOption.isRequest
  | .letters text => ((text.dropWhile (· = 'v')).head?.bind shortOption?).any AnyOption.isRequest
  | _ => false

section Kinds

variable {argument : String} {name letters : List Char} {attached : Option String} {option : ValueOption}
  {letter : Char}

private theorem eq_of_terminator (kind : Argument.ofChars argument.toList = .terminator) : argument = "--" := by
  unfold Argument.ofChars at kind
  split at kind
  · next dashes => exact String.toList_inj.mp dashes
  · unfold Argument.ofLong at kind
    split at kind <;> cases kind
  · cases kind
  · cases kind

/-- The name of a long option ends where its value is attached. -/
theorem ofLong_eq_long {text : List Char} (kind : Argument.ofLong text = .long name attached) :
    text = name ++ attached.elim [] fun value => '=' :: value.toList := by
  have parted : text.takeWhile (· ≠ '=') ++ text.dropWhile (· ≠ '=') = text := List.takeWhile_append_dropWhile
  unfold Argument.ofLong at kind
  split at kind
  · cases kind
    exact (List.append_nil _).symm
  · next mark value dropped =>
    cases kind
    have stops := List.head?_dropWhile_not (· ≠ '=') text
    rw [dropped] at stops parted
    have marked : mark = '=' := by simpa using stops
    rw [marked] at parted
    exact parted.symm.trans (by rw [Option.elim_some, String.toList_ofList])

private theorem toList_of_long (kind : Argument.ofChars argument.toList = .long name attached) :
    argument.toList = '-' :: '-' :: (name ++ attached.elim [] fun value => '=' :: value.toList) := by
  unfold Argument.ofChars at kind
  split at kind
  · cases kind
  · next text dashed => rw [dashed, ofLong_eq_long kind]
  · cases kind
  · cases kind

theorem toList_of_letters (kind : Argument.ofChars argument.toList = .letters letters) :
    argument.toList = '-' :: letters ∧ letters ≠ [] := by
  unfold Argument.ofChars at kind
  split at kind
  · cases kind
  · unfold Argument.ofLong at kind
    split at kind <;> cases kind
  · next dashed =>
    cases kind
    exact ⟨dashed, List.cons_ne_nil _ _⟩
  · cases kind

/-- A word starts with no dash, or is a single one. -/
theorem standsApart_of_word (kind : Argument.ofChars argument.toList = .word) : standsApart argument = true := by
  rw [standsApart, Bool.or_eq_true, decide_eq_true_iff, bne_iff_ne, ← String.toList_inj]
  cases chars : argument.toList with
  | nil => exact .inr (by decide)
  | cons first rest =>
    refine Decidable.or_iff_not_imp_right.mpr fun dashed => ?_
    have dash : first = '-' := by simpa using dashed
    subst dash
    rw [chars] at kind
    unfold Argument.ofChars at kind
    split at kind
    · cases kind
    · unfold Argument.ofLong at kind
      split at kind <;> cases kind
    · cases kind
    · next more =>
      cases rest with
      | nil => rfl
      | cons second rest => exact (more second rest rfl).elim

private theorem name_of_longOption (known : longOption? name = some (.value option)) :
    name = option.name.toList := by
  have named : String.ofList name = option.name := by
    unfold longOption? at known
    split at known <;> cases known <;> assumption
  rw [← named, String.toList_ofList]

private theorem verbose_of_longOption (known : longOption? name = some (.flag .verbose)) :
    name = "verbose".toList := by
  have named : String.ofList name = "verbose" := by
    unfold longOption? at known
    split at known <;> cases known
    assumption
  rw [← named, String.toList_ofList]

private theorem letter_of_shortOption (known : shortOption? letter = some (.value option)) :
    option.letter? = some letter := by
  unfold shortOption? at known
  split at known <;> cases known <;> rfl

private theorem verbose_of_shortOption (known : shortOption? letter = some (.flag .verbose)) :
    letter = 'v' := by
  unfold shortOption? at known
  split at known <;> cases known
  rfl

end Kinds

namespace Progress

variable {progress next : Progress} {settings result : Settings} {option : ValueOption} {argument : String}
  {rest : List String}

def IsReady (progress : Progress) : Prop := ∀ option, progress.pending ≠ .awaiting option

theorem isReady_initial : initial.IsReady := nofun

/-- Reading is ready again behind every spelled option. -/
theorem isReady_of_hear {spelled : Spelled} (heard : spelled.hear settings = .ok next) : next.IsReady := by
  have obeyed : (settings.obey spelled).map (fun settings => (⟨settings, .nothing⟩ : Progress)) = .ok next →
      next.IsReady := by
    intro kept
    cases done : settings.obey spelled <;> rw [done] at kept <;> cases kept
    exact nofun
  cases spelled with
  | longApart | letterApart =>
    cases heard
    exact nofun
  | verboseName | verboseLetters | longAttached | letterAttached | letterEqual => exact obeyed heard

private theorem startFlag_eq_ok {flag : Flag} (started : progress.startFlag flag = .ok next) :
    flag = .verbose := by
  obtain ⟨settings, -, raised⟩ := bind_eq_ok_iff.mp started
  cases flag with
  | verbose => rfl
  | help | version => cases raised

/-- A cluster that is read asks for more log output, and it may end with an option that takes a value. -/
theorem letters_of_readLetters {letters : List Char} (read : progress.readLetters letters = .ok next) :
    ∃ verbose, letters = List.replicate verbose 'v' ∨ ∃ (option : ValueOption) (letter : Char) (value : List Char),
      option.letter? = some letter ∧ letters = List.replicate verbose 'v' ++ letter :: value := by
  induction letters generalizing progress with
  | nil => exact ⟨0, .inl rfl⟩
  | cons letter rest ih =>
    rw [readLetters] at read
    cases known : shortOption? letter with
    | none => rw [known] at read; cases read
    | some any =>
      rw [known] at read
      cases any with
      | value option => exact ⟨0, .inr ⟨option, letter, rest, letter_of_shortOption known, rfl⟩⟩
      | flag flag =>
        obtain ⟨between, started, continued⟩ := bind_eq_ok_iff.mp read
        cases startFlag_eq_ok started
        cases verbose_of_shortOption known
        obtain ⟨verbose, rfl | ⟨option, letter, value, short, rfl⟩⟩ := ih continued
        · exact ⟨verbose + 1, .inl rfl⟩
        · exact ⟨verbose + 1, .inr ⟨option, letter, value, short, rfl⟩⟩

/-- An option that starts settles what is pending first, and so does a cluster of letters. -/
theorem settle_of_readLong {name : List Char} {attached : Option String}
    (read : progress.readLong name attached = .ok next) : ∃ settings, progress.settle = .ok settings := by
  unfold readLong at read
  split at read
  · cases read
  · exact (bind_eq_ok_iff.mp read).imp fun settings => And.left
  · split_ifs at read
    exact (bind_eq_ok_iff.mp read).imp fun settings => And.left

private theorem settle_of_readLetters {letters : List Char} (some : letters ≠ [])
    (read : progress.readLetters letters = .ok next) : ∃ settings, progress.settle = .ok settings := by
  obtain ⟨letter, rest, rfl⟩ := List.exists_cons_of_ne_nil some
  unfold readLetters at read
  split at read
  · cases read
  · exact (bind_eq_ok_iff.mp read).imp fun settings => And.left
  · obtain ⟨between, started, -⟩ := bind_eq_ok_iff.mp read
    exact (bind_eq_ok_iff.mp started).imp fun settings => And.left

/-- Where a value is awaited, only a word is read. -/
theorem word_of_awaiting {arguments : List String}
    (read : readAll ⟨settings, .awaiting option⟩ arguments = .ok result) :
    ∃ text rest, arguments = text :: rest ∧ standsApart text = true := by
  have unsettled : ¬∃ known, settle ⟨settings, .awaiting option⟩ = .ok known := by rintro ⟨-, ⟨⟩⟩
  cases arguments with
  | nil => exact (unsettled ⟨result, read⟩).elim
  | cons argument rest =>
    refine ⟨argument, rest, rfl, ?_⟩
    unfold readAll at read
    split at read
    · split_ifs at read
      exact (unsettled ⟨result, read⟩).elim
    · obtain ⟨next, started, -⟩ := bind_eq_ok_iff.mp read
      exact (unsettled (settle_of_readLong started)).elim
    · next text kind =>
      obtain ⟨next, started, -⟩ := bind_eq_ok_iff.mp read
      exact (unsettled (settle_of_readLetters (toList_of_letters kind).2 started)).elim
    · next kind => exact standsApart_of_word kind

/-- A long option that is read is spelled, together with its value if that is the next argument. -/
theorem spelled_of_readLong {name : List Char} {attached : Option String}
    (kind : Argument.ofChars argument.toList = .long name attached)
    (started : progress.readLong name attached = .ok next)
    (read : next.readAll rest = .ok result) :
    ∃ (spelled : Spelled) (others : List String), spelled.isValid = true ∧
      argument :: rest = spelled.arguments ++ others := by
  have written := toList_of_long kind
  unfold readLong at started
  split at started
  · cases started
  · next option known =>
    cases name_of_longOption known
    cases attached with
    | some text =>
      have same : argument = "--" ++ option.name ++ "=" ++ text := by simp [← String.toList_inj, written]
      exact ⟨.longAttached option text, rest, rfl, congrArg (· :: rest) same⟩
    | none =>
      obtain ⟨settings, -, ⟨⟩⟩ := bind_eq_ok_iff.mp started
      obtain ⟨text, others, rfl, apart⟩ := word_of_awaiting read
      have same : argument = "--" ++ option.name := by simp [← String.toList_inj, written]
      exact ⟨.longApart option text, others, apart, congrArg (· :: text :: others) same⟩
  · next flag known =>
    split_ifs at started with given
    cases startFlag_eq_ok started
    cases verbose_of_longOption known
    cases attached with
    | some text => exact (given rfl).elim
    | none =>
      have same : argument = "--verbose" := by simp [← String.toList_inj, written]
      exact ⟨.verboseName, rest, rfl, congrArg (· :: rest) same⟩

/-- So is a cluster of letters. -/
theorem spelled_of_readLetters {letters : List Char} (kind : Argument.ofChars argument.toList = .letters letters)
    (started : progress.readLetters letters = .ok next) (read : next.readAll rest = .ok result) :
    ∃ (spelled : Spelled) (others : List String), spelled.isValid = true ∧
      argument :: rest = spelled.arguments ++ others := by
  obtain ⟨written, some⟩ := toList_of_letters kind
  obtain ⟨verbose, rfl | ⟨option, letter, value, short, rfl⟩⟩ := letters_of_readLetters started
  · obtain ⟨more, rfl⟩ : ∃ more, verbose = more + 1 :=
      Nat.exists_eq_succ_of_ne_zero fun zero => some (by rw [zero]; rfl)
    have same : argument = cluster (more + 1) [] := by simp [← String.toList_inj, written, cluster]
    exact ⟨.verboseLetters more, rest, rfl, congrArg (· :: rest) same⟩
  · have same : argument = cluster verbose (letter :: value) := by simp [← String.toList_inj, written, cluster]
    rw [readLetters_cluster (shortOption_letter short).1] at started
    obtain ⟨settings, -, started⟩ := bind_eq_ok_iff.mp started
    cases value with
    | nil =>
      cases started
      obtain ⟨text, others, rfl, apart⟩ := word_of_awaiting read
      exact ⟨.letterApart verbose option letter text, others, by simp [isValid, short, apart],
        congrArg (· :: text :: others) same⟩
    | cons first text =>
      by_cases equal : first = '='
      · subst equal
        refine ⟨.letterEqual verbose option letter (String.ofList text), rest, by simp [isValid, short], ?_⟩
        rw [same, arguments, String.toList_ofList, List.singleton_append]
      · refine ⟨.letterAttached verbose option letter (String.ofList (first :: text)), rest, ?_, ?_⟩
        · simp [isValid, short, attaches, equal]
        · rw [same, arguments, String.toList_ofList, List.singleton_append]

/-- Where nothing awaits its value, what is read next is a spelled option, unless it is a terminator at the end. -/
theorem spelled_of_readAll_cons (ready : progress.IsReady) (read : progress.readAll (argument :: rest) = .ok result) :
    argument :: rest = ["--"] ∨ ∃ (spelled : Spelled) (others : List String),
      spelled.isValid = true ∧ argument :: rest = spelled.arguments ++ others := by
  unfold readAll at read
  split at read
  · next kind =>
    split_ifs at read with ends
    rw [eq_of_terminator kind, List.isEmpty_iff.mp ends]
    exact .inl rfl
  · next kind =>
    obtain ⟨next, started, read⟩ := bind_eq_ok_iff.mp read
    exact .inr (spelled_of_readLong kind started read)
  · next kind =>
    obtain ⟨next, started, read⟩ := bind_eq_ok_iff.mp read
    exact .inr (spelled_of_readLetters kind started read)
  · unfold readWord at read
    split at read
    · next option awaiting => exact (ready option awaiting).elim
    · cases read

/-- Arguments that are read where nothing awaits its value are spelled options, perhaps closed by a terminator. -/
theorem spelled_of_readAll {arguments : List String} (ready : progress.IsReady)
    (read : progress.readAll arguments = .ok result) :
    ∃ spelled closed, (∀ option ∈ spelled, option.isValid = true) ∧ arguments = commandLine spelled closed := by
  -- One option takes one argument or two, so the induction is on how many are left.
  induction counted : arguments.length using Nat.strongRecOn generalizing progress arguments with
  | ind count ih =>
    cases arguments with
    | nil => exact ⟨[], false, nofun, rfl⟩
    | cons argument rest =>
      rcases spelled_of_readAll_cons ready read with closed | ⟨first, others, valid, same⟩
      · exact ⟨[], true, nofun, closed⟩
      · rw [same, readAll_arguments valid] at read
        obtain ⟨settings, -, read⟩ := bind_eq_ok_iff.mp read
        obtain ⟨next, heard, read⟩ := bind_eq_ok_iff.mp read
        have fewer : others.length < count := by
          have some : 0 < first.arguments.length := by cases first <;> exact Nat.succ_pos _
          rw [same, List.length_append] at counted
          omega
        obtain ⟨spelled, closed, allValid, rfl⟩ := ih _ fewer (isReady_of_hear heard) read rfl
        refine ⟨first :: spelled, closed, List.forall_mem_cons.mpr ⟨valid, allValid⟩, ?_⟩
        rw [same, commandLine, commandLine, List.flatMap_cons, List.append_assoc]

end Progress

section Obeyed

variable {before after : List Spelled} {spelled : Spelled} {result : Settings}

theorem has_louder (settings : Settings) (more : Nat) (option : ValueOption) :
    (settings.louder more).has option = settings.has option := by
  induction more generalizing settings with
  | zero => rfl
  | succ more ih =>
    rw [Settings.louder, ih]
    cases option <;> rfl

/-- The settings know an option exactly if a text was given for it. -/
theorem has_settings (well : WellSpelled before) (option : ValueOption) :
    (settings before).has option = (textOf? before option).isSome := by
  cases here : textOf? before option with
  | none => cases option <;> simp [Settings.has, settings, here]
  | some text =>
    have taken : (Settings.assign? {} option text).isSome = true :=
      (isSome_assign_iff {} option text).mpr (well.proper (option, text) (given_of_textOf here))
    cases option <;> simp_all [Settings.has, settings, Settings.assign?]

/-- An option that is obeyed may stand behind those before it. -/
theorem wellSpelled_of_obey (well : WellSpelled before) (valid : spelled.isValid = true)
    (obeyed : (settings before).obey spelled = .ok result) :
    WellSpelled (before ++ [spelled]) ∧ result = settings (before ++ [spelled]) := by
  have allValid : ∀ option ∈ before ++ [spelled], option.isValid = true :=
    List.forall_mem_append.mpr ⟨well.valid, List.forall_mem_singleton.mpr valid⟩
  cases given : spelled.value? with
  | none =>
    have same : (before ++ [spelled]).filterMap value? = before.filterMap value? := by
      rw [List.filterMap_append, List.filterMap_cons_none given, List.filterMap_nil, List.append_nil]
    rw [obey_flag given] at obeyed
    cases obeyed
    exact ⟨⟨allValid, same ▸ well.once, same ▸ well.proper⟩, rfl⟩
  | some pair =>
    obtain ⟨option, text⟩ := pair
    have stored : ((settings before).louder spelled.verbosity).store option text = .ok result := by
      rw [Settings.obey, given] at obeyed
      exact obeyed
    unfold Settings.store at stored
    rw [has_louder, has_settings well] at stored
    split_ifs at stored with known
    have fresh : textOf? before option = none := by simpa using known
    split at stored
    · next assigned =>
      have takes : option.Takes text :=
        (isSome_assign_iff _ option text).mp (Option.isSome_iff_exists.mpr ⟨_, assigned⟩)
      have same : (before ++ [spelled]).filterMap value? = before.filterMap value? ++ [(option, text)] := by
        rw [List.filterMap_append, List.filterMap_cons_some given, List.filterMap_nil]
      rw [obey_value given fresh takes] at obeyed
      cases obeyed
      refine ⟨⟨allValid, ?_, ?_⟩, rfl⟩
      · rw [textOf?, List.lookup_eq_none_iff] at fresh
        rw [same, List.map_append, List.nodup_append]
        refine ⟨well.once, List.nodup_singleton _, ?_⟩
        rintro _ member _ last rfl
        obtain ⟨pair, listed, rfl⟩ := List.mem_map.mp member
        cases List.mem_singleton.mp last
        exact absurd (fresh pair listed) (by simp)
      · rw [same]
        exact List.forall_mem_append.mpr ⟨well.proper, List.forall_mem_singleton.mpr takes⟩
    · cases stored

/-- Options that are obeyed one after the other are such as a command line may consist of. -/
theorem wellSpelled_of_foldlM (well : WellSpelled before) (valid : ∀ option ∈ after, option.isValid = true)
    (obeyed : after.foldlM Settings.obey (settings before) = .ok result) :
    WellSpelled (before ++ after) ∧ result = settings (before ++ after) := by
  induction after generalizing before with
  | nil =>
    cases obeyed
    rw [List.append_nil]
    exact ⟨well, rfl⟩
  | cons spelled others ih =>
    obtain ⟨here, later⟩ := List.forall_mem_cons.mp valid
    rw [List.foldlM_cons] at obeyed
    obtain ⟨between, first, obeyed⟩ := bind_eq_ok_iff.mp obeyed
    obtain ⟨longer, rfl⟩ := wellSpelled_of_obey well here first
    have shifted : before ++ spelled :: others = (before ++ [spelled]) ++ others := by simp
    rw [shifted]
    exact ih longer later obeyed

end Obeyed

section Answers

variable {spelled : List Spelled} {invocation : Invocation}

/-- A value that is given is what reading its text, or else the default, comes to. -/
theorem Given.eq_getD {α : Type} {states : String → α → Prop} {default value : α} {text? : Option String}
    {read? : String → Option α} (given : Given states default text? value)
    (reads : ∀ text value, states text value → read? text = some value) :
    value = (text?.bind read?).getD default := by
  cases given with
  | absent left => rw [left]; rfl
  | stated here means => rw [here, Option.bind_some, reads _ _ means]; rfl

private theorem FromInput.eq_ofInput {text? : Option String} {source : Source}
    (named : FromInput text? source) : source = .ofInput text? := by
  cases named with
  | unnamed => rfl
  | dash => rfl
  | path other => exact (if_neg other).symm

private theorem Given.eq_rows {text? : Option String} {rows : Nat} (given : Given StatesCount 10 text? rows) :
    rows = ((text?.bind readCount?).getD defaultRows).toNat := by
  cases given with
  | absent left => rw [left]; rfl
  | stated here means =>
    have word : (UInt64.ofNat rows).toNat = rows := UInt64.toNat_ofNat_of_lt' means.fits
    rw [here, Option.bind_some, readCount_eq_some_iff.mpr (word.symm ▸ means)]
    exact word.symm

/-- Only one invocation answers to what is spelled. -/
theorem Answers.eq_invocation (answers : Answers spelled invocation) : invocation = (settings spelled).invocation := by
  obtain ⟨source, ⟨testFraction, seed⟩, format, style, rows, verbosity⟩ := invocation
  rw [Settings.invocation, Invocation.mk.injEq, HoldoutPlan.mk.injEq]
  exact
    ⟨answers.source.eq_ofInput,
      ⟨answers.testFraction.eq_getD fun _ _ => Numeral.toFloat_eq_some_iff.mpr,
        answers.seed.eq_getD fun _ _ => readCount_eq_some_iff.mpr⟩,
      answers.format.eq_getD fun _ _ => OutputFormat.toOption_ofName_iff.mpr,
      answers.style.eq_getD fun _ _ => ReportStyle.toOption_ofName_iff.mpr,
      answers.rows.eq_rows, answers.verbosity⟩

end Answers

/-- Behind the letters that ask for more log output stands the letter of the option. -/
theorem letters_of_cluster {option : ValueOption} {letter : Char} (verbose : Nat) (value : List Char)
    (short : option.letter? = some letter) :
    ∃ text, Argument.ofChars (cluster verbose (letter :: value)).toList = .letters text ∧
      (text.dropWhile (· = 'v')).head?.bind shortOption? = some (.value option) := by
  obtain ⟨known, undashed⟩ := shortOption_letter short
  have other : letter ≠ 'v' := by
    rintro rfl
    cases known
  refine ⟨_, ofChars_letters verbose value undashed, ?_⟩
  rw [List.dropWhile_append_of_pos (by simp), List.dropWhile_cons_of_neg (by simpa using other)]
  exact known

/-- No valid spelling asks for help or for the version. -/
theorem isRequest_of_mem {spelled : Spelled} (valid : spelled.isValid = true) {argument : String}
    (member : argument ∈ spelled.arguments) : (Argument.ofChars argument.toList).isRequest = false := by
  have cluster_kept : ∀ {verbose option letter} (value : List Char), ValueOption.letter? option = some letter →
      (Argument.ofChars (cluster verbose (letter :: value)).toList).isRequest = false := by
    intro verbose option letter value short
    obtain ⟨text, letters, known⟩ := letters_of_cluster verbose value short
    rw [letters, Argument.isRequest, known]
    rfl
  have word_kept : ∀ {text}, standsApart text = true → (Argument.ofChars text.toList).isRequest = false := by
    intro text apart
    rw [ofChars_apart apart]
    rfl
  cases spelled with
  | verboseName =>
    cases List.mem_singleton.mp member
    decide
  | verboseLetters more =>
    cases List.mem_singleton.mp member
    rw [ofChars_verbose, Argument.isRequest, List.dropWhile_append_of_pos (by simp)]
    rfl
  | longApart option text =>
    rcases List.mem_pair.mp member with rfl | rfl
    · rw [ofChars_longApart, Argument.isRequest, longOption_name]
      rfl
    · exact word_kept valid
  | longAttached option text =>
    cases List.mem_singleton.mp member
    rw [ofChars_longAttached, Argument.isRequest, longOption_name]
    rfl
  | letterApart verbose option letter text =>
    obtain ⟨short, apart⟩ := Bool.and_eq_true_iff.mp valid
    rcases List.mem_pair.mp member with rfl | rfl
    · exact cluster_kept [] (of_decide_eq_true short)
    · exact word_kept apart
  | letterAttached verbose option letter text =>
    cases List.mem_singleton.mp member
    exact cluster_kept _ (of_decide_eq_true (Bool.and_eq_true_iff.mp valid).1)
  | letterEqual verbose option letter text =>
    cases List.mem_singleton.mp member
    exact cluster_kept _ (of_decide_eq_true valid)

private theorem isRequest_of_mem_commandLine {spelled : List Spelled}
    (valid : ∀ option ∈ spelled, option.isValid = true)
    {closed : Bool} {argument : String} (member : argument ∈ commandLine spelled closed) :
    (Argument.ofChars argument.toList).isRequest = false := by
  rcases List.mem_append.mp member with given | ending
  · obtain ⟨option, listed, given⟩ := List.mem_flatMap.mp given
    exact isRequest_of_mem (valid option listed) given
  · cases closed with
    | false => cases ending
    | true =>
      cases List.mem_singleton.mp ending
      decide

/-- Arguments that are accounted for to the last: what was spelled makes up all of them, the invocation answers to
that, and none of them asks for anything else. -/
structure AccountedFor (arguments : List String) (invocation : Invocation) (spelled : List Spelled) (closed : Bool) :
    Prop where
  whole : arguments = commandLine spelled closed
  well : WellSpelled spelled
  answers : Answers spelled invocation
  unasked : ∀ argument ∈ arguments, (Argument.ofChars argument.toList).isRequest = false

/-- Arguments are read without fail exactly if they are spelled options, each that takes a value at most once and with
a value of it, perhaps closed by a terminator. The invocation then asks for exactly what was spelled, and neither help
nor the version is asked for. -/
theorem parse_eq_ok_iff (arguments : List String) (invocation : Invocation) :
    parse arguments = .ok invocation ↔ ∃ spelled closed, AccountedFor arguments invocation spelled closed := by
  constructor
  · intro parsed
    obtain ⟨result, read, rfl⟩ : ∃ result, Progress.initial.readAll arguments = .ok result ∧
        result.invocation = invocation := by
      cases read : Progress.initial.readAll arguments <;> rw [parse, read] at parsed <;> cases parsed
      exact ⟨_, rfl, rfl⟩
    obtain ⟨spelled, closed, valid, rfl⟩ := Progress.spelled_of_readAll Progress.isReady_initial read
    rw [Progress.readAll_commandLine valid] at read
    have nothing : WellSpelled [] := ⟨by simp, List.nodup_nil, by simp⟩
    obtain ⟨well, rfl⟩ := wellSpelled_of_foldlM nothing valid read
    exact ⟨spelled, closed, rfl, well, answers_invocation well, fun _ => isRequest_of_mem_commandLine valid⟩
  · rintro ⟨spelled, closed, rfl, well, answers, -⟩
    have obeyed : spelled.foldlM Settings.obey (settings []) = .ok (settings ([] ++ spelled)) := foldlM_obey well
    rw [parse, Progress.readAll_commandLine well.valid, answers.eq_invocation]
    exact congrArg (Except.map Settings.invocation) obeyed

end HoldoutLine.Command
