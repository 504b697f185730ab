import HoldoutLine.Proofs.Command.Spelling
import HoldoutLine.Proofs.Command.Values
import Mathlib.Data.List.Perm.Basic

/-! # A command line says what was spelled

Spelled options of which each that takes a value stands once, with a value of it, are read without fail, and the
invocation has exactly the values that were given and the defaults of the others. So it depends neither on the order
of the options nor on how each of them is spelled.
-/

namespace HoldoutLine.Command

open Spelled

/-- Spelled options that a command line may consist of. -/
structure WellSpelled (spelled : List Spelled) : Prop where
  valid : ∀ option ∈ spelled, option.isValid = true
  once : ((spelled.filterMap value?).map Prod.fst).Nodup
  proper : ∀ given ∈ spelled.filterMap value?, given.1.Takes given.2

def requests (spelled : List Spelled) : Nat := spelled.foldr (fun option count => option.verbosity + count) 0

section Settings

variable {before : List Spelled} {spelled : Spelled} {option : ValueOption} {text : String}

private theorem requests_concat (before : List Spelled) (spelled : Spelled) :
    requests (before ++ [spelled]) = requests before + spelled.verbosity := by
  induction before with
  | nil => exact (Nat.add_zero _).trans (Nat.zero_add _).symm
  | cons first rest ih =>
    change first.verbosity + requests (rest ++ [spelled]) = first.verbosity + requests rest + spelled.verbosity
    rw [ih, Nat.add_assoc]

/-- A flag gives no option a text. -/
theorem textOf_concat_flag (flag : spelled.value? = none) (option : ValueOption) :
    textOf? (before ++ [spelled]) option = textOf? before option := by
  rw [textOf?, List.filterMap_append, List.filterMap_cons_none flag, List.filterMap_nil, List.append_nil, textOf?]

/-- An option's text is the first that was given for it. -/
theorem textOf_concat_value (given : spelled.value? = some (option, text)) (other : ValueOption) :
    textOf? (before ++ [spelled]) other =
      (textOf? before other).or (if other = option then some text else none) := by
  rw [textOf?, List.filterMap_append, List.filterMap_cons_some given, List.filterMap_nil, List.lookup_append, textOf?,
    List.lookup_cons, List.lookup_nil]
  by_cases same : other = option
  · simp [same]
  · have differ : (other == option) = false := beq_eq_false_iff_ne.mpr same
    simp [same, differ]

/-- Asking for more log output counts up to its limit. -/
theorem verbosity_concat (before : List Spelled) (spelled : Spelled) :
    min ((settings before).verbosity + spelled.verbosity) 255 = (settings (before ++ [spelled])).verbosity := by
  change min (min (requests before) 255 + spelled.verbosity) 255 = min (requests (before ++ [spelled])) 255
  rw [requests_concat]
  omega

theorem obey_flag (flag : spelled.value? = none) :
    (settings before).obey spelled = .ok (settings (before ++ [spelled])) := by
  rw [Settings.obey, flag]
  dsimp only
  rw [Settings.louder_eq _ _ (Nat.min_le_right ..), verbosity_concat]
  simp only [settings, textOf_concat_flag flag]

/-- An option that no text was given for takes its value. -/
theorem obey_value (given : spelled.value? = some (option, text)) (fresh : textOf? before option = none)
    (takes : option.Takes text) :
    (settings before).obey spelled = .ok (settings (before ++ [spelled])) := by
  rw [Settings.obey, given]
  dsimp only
  rw [Settings.louder_eq _ _ (Nat.min_le_right ..), verbosity_concat]
  generalize heard : { settings before with verbosity := (settings (before ++ [spelled])).verbosity } = known
  have unhad : known.has option = false := by
    subst heard
    cases option <;> simp [Settings.has, settings, fresh]
  obtain ⟨after, assigned⟩ := Option.isSome_iff_exists.mp ((isSome_assign_iff known option text).mpr takes)
  rw [Settings.store, unhad, if_neg Bool.false_ne_true, assigned]
  subst heard
  have others : ∀ other, textOf? (before ++ [spelled]) other = _ := textOf_concat_value given
  cases option <;> simp only [Settings.assign?, Option.map_eq_some_iff, Option.some.injEq] at assigned
  case input =>
    subst assigned
    simp [settings, others, fresh]
  all_goals
    obtain ⟨value, read, rfl⟩ := assigned
    simp [settings, others, fresh, read]

/-- Obeying what may make up a command line, from any point of it on, fails nowhere. -/
theorem foldlM_obey {before after : List Spelled} (well : WellSpelled (before ++ after)) :
    after.foldlM Settings.obey (settings before) = .ok (settings (before ++ after)) := by
  induction after generalizing before with
  | nil =>
    rw [List.append_nil]
    rfl
  | cons spelled rest ih =>
    have step : (settings before).obey spelled = .ok (settings (before ++ [spelled])) := by
      cases given : spelled.value? with
      | none => exact obey_flag given
      | some pair =>
        obtain ⟨option, text⟩ := pair
        have listed : (before ++ spelled :: rest).filterMap value? =
            before.filterMap value? ++ (option, text) :: rest.filterMap value? := by
          rw [List.filterMap_append, List.filterMap_cons_some given]
        have once := well.once
        have proper := well.proper
        rw [listed] at once proper
        -- What stands once in the whole line has no text from the options before it.
        refine obey_value given ?_ (proper (option, text) (by simp))
        rw [textOf?, List.lookup_eq_none_iff]
        intro pair member
        rw [List.map_append, List.map_cons, List.nodup_append] at once
        have apart := once.2.2 pair.1 (List.mem_map_of_mem member) option List.mem_cons_self
        simpa using apart.symm
    have shift : before ++ spelled :: rest = (before ++ [spelled]) ++ rest := by simp
    rw [shift] at well ⊢
    rw [List.foldlM_cons, step]
    exact ih well

end Settings

section Answers

/-- A value is the one that the text given for it states, or its default. -/
inductive Given {α : Type} (states : String → α → Prop) (default : α) (text? : Option String) : α → Prop where
  | absent (left : text? = none) : Given states default text? default
  | stated {text : String} {value : α} (here : text? = some text) (means : states text value) :
      Given states default text? value

/-- Where the dataset comes from, by the input that was named. -/
inductive FromInput : Option String → Source → Prop where
  | unnamed : FromInput none .bundled
  | dash : FromInput (some "-") .standardInput
  | path {text : String} (other : text ≠ "-") : FromInput (some text) (.file text)

/-- An invocation asks for exactly what was spelled. -/
structure Answers (spelled : List Spelled) (invocation : Invocation) : Prop where
  source : FromInput (textOf? spelled .input) invocation.source
  testFraction : Given (fun text x => Numeral.Writes text.toList x) 0.2 (textOf? spelled .testSize)
    invocation.plan.testFraction
  seed : Given (fun text seed => StatesCount text seed.toNat) 42 (textOf? spelled .seed) invocation.plan.seed
  rows : Given StatesCount 10 (textOf? spelled .rows) invocation.rows
  format : Given (fun text format => text.toLower ∈ format.names) .text (textOf? spelled .format) invocation.format
  style : Given (fun text style => text.toLower ∈ style.names) .detailed (textOf? spelled .style) invocation.style
  verbosity : invocation.verbosity = min (requests spelled) 255

variable {spelled other : List Spelled}

private theorem fromInput_ofInput (text? : Option String) : FromInput text? (.ofInput text?) := by
  cases text? with
  | none => exact .unnamed
  | some text =>
    rw [Source.ofInput]
    split_ifs with dash
    · exact dash ▸ .dash
    · exact .path dash

/-- What is read from a text that is a value is what the text states. -/
theorem given_getD {α : Type} {text? : Option String} {read? : String → Option α} {states : String → α → Prop}
    (default : α) (reads : ∀ text value, read? text = some value → states text value)
    (proper : ∀ text, text? = some text → (read? text).isSome = true) :
    Given states default text? ((text?.bind read?).getD default) := by
  cases here : text? with
  | none => exact .absent rfl
  | some text =>
    obtain ⟨value, read⟩ := Option.isSome_iff_exists.mp (proper text here)
    rw [Option.bind_some, read]
    exact .stated rfl (reads text value read)

theorem Given.map {α β : Type} {states : String → β → Prop} {default value : α} {text? : Option String} (f : α → β)
    (given : Given (fun text value => states text (f value)) default text? value) :
    Given states (f default) text? (f value) := by
  cases given with
  | absent left => exact .absent left
  | stated here means => exact .stated here means

theorem given_of_textOf {option : ValueOption} {text : String} (here : textOf? spelled option = some text) :
    (option, text) ∈ spelled.filterMap value? := by
  obtain ⟨before, after, listed, -⟩ := List.lookup_eq_some_iff.mp here
  rw [listed]
  exact List.mem_append_right before List.mem_cons_self

private theorem textOf_eq_some_iff (once : ((spelled.filterMap value?).map Prod.fst).Nodup)
    {option : ValueOption}
    {text : String} : textOf? spelled option = some text ↔ (option, text) ∈ spelled.filterMap value? := by
  constructor
  · exact given_of_textOf
  · intro given
    have some_text : (textOf? spelled option).isSome = true :=
      List.lookup_isSome_iff.mpr ⟨(option, text), given, beq_self_eq_true option⟩
    obtain ⟨found, here⟩ := Option.isSome_iff_exists.mp some_text
    cases List.inj_on_of_nodup_map once (given_of_textOf here) given rfl
    exact here

/-- The invocation of what is spelled answers to it. -/
theorem answers_invocation (well : WellSpelled spelled) : Answers spelled (settings spelled).invocation := by
  have proper : ∀ option text, textOf? spelled option = some text → option.Takes text :=
    fun option text here => well.proper (option, text) (given_of_textOf here)
  have count : ∀ text, (∃ n, StatesCount text n) → (readCount? text).isSome = true :=
    fun _ => isSome_readCount_iff.mpr
  exact
    { source := fromInput_ofInput _
      testFraction := given_getD 0.2 (fun _ _ => Numeral.toFloat_eq_some_iff.mp) fun text here =>
        (Numeral.isSome_toFloat_iff text).mpr (proper .testSize text here)
      seed := given_getD 42 (fun _ _ => readCount_eq_some_iff.mp) fun text here => count text (proper .seed text here)
      rows := (given_getD defaultRows (fun _ _ => readCount_eq_some_iff.mp) fun text here =>
        count text (proper .rows text here)).map UInt64.toNat
      format := by
        refine given_getD OutputFormat.text (fun _ _ => OutputFormat.toOption_ofName_iff.mp) fun text here => ?_
        simp only [Option.isSome_iff_exists, OutputFormat.toOption_ofName_iff]
        exact proper .format text here
      style := by
        refine given_getD ReportStyle.detailed (fun _ _ => ReportStyle.toOption_ofName_iff.mp) fun text here => ?_
        simp only [Option.isSome_iff_exists, ReportStyle.toOption_ofName_iff]
        exact proper .style text here
      verbosity := rfl }

/-- Options in another order, spelled otherwise, give the same settings. -/
theorem settings_of_perm (once : ((spelled.filterMap value?).map Prod.fst).Nodup)
    (same : (other.filterMap value?).Perm (spelled.filterMap value?))
    (counted : min (requests other) 255 = min (requests spelled) 255) : settings other = settings spelled := by
  have alsoOnce : ((other.filterMap value?).map Prod.fst).Nodup := (same.map Prod.fst).nodup_iff.mpr once
  have texts : ∀ option, textOf? other option = textOf? spelled option := by
    intro option
    ext text
    rw [textOf_eq_some_iff alsoOnce, textOf_eq_some_iff once]
    exact same.mem_iff
  simp only [settings, texts]
  exact congrArg _ counted

end Answers

private theorem parse_eq_invocation {spelled : List Spelled} (well : WellSpelled spelled) :
    parse (spelled.flatMap arguments) = .ok (settings spelled).invocation := by
  have obeyed : spelled.foldlM Settings.obey (settings []) = .ok (settings ([] ++ spelled)) := foldlM_obey well
  rw [parse, Progress.readAll_spelled well.valid]
  change (spelled.foldlM Settings.obey (settings [])).map Settings.invocation = _
  rw [obeyed]
  rfl

/-- Spelled options that a command line may consist of are read without fail, and the invocation asks for exactly
what was spelled; so it does when the same values are given in another order and spelled in other ways, with as many
requests for more log output as far as they count. -/
theorem parse_of_spelled {spelled : List Spelled} (well : WellSpelled spelled) :
    ∃ invocation, parse (spelled.flatMap arguments) = .ok invocation ∧ Answers spelled invocation ∧
      ∀ other : List Spelled, (∀ option ∈ other, option.isValid = true) →
        (other.filterMap value?).Perm (spelled.filterMap value?) →
        min (requests other) 255 = min (requests spelled) 255 →
        parse (other.flatMap arguments) = .ok invocation := by
  refine ⟨_, parse_eq_invocation well, answers_invocation well, fun other valid same counted => ?_⟩
  have alsoWell : WellSpelled other :=
    { valid
      once := (same.map Prod.fst).nodup_iff.mpr well.once
      proper := fun given member => well.proper given (same.mem_iff.mp member) }
  rw [parse_eq_invocation alsoWell, settings_of_perm well.once same counted]

def crowdedLine : List Spelled :=
  [.letterAttached 2 .seed 's' "7", .longAttached .input "", .letterApart 1 .rows 'r' "+04", .verboseName,
    .longApart .format "JSON", .letterEqual 0 .testSize 't' "1e-1", .longApart .style "Full"]

/-- The same, one option after the other. -/
def plainLine : List Spelled :=
  [.longApart .input "", .longApart .testSize "1e-1", .longApart .seed "7", .longApart .rows "+04",
    .longApart .format "JSON", .longApart .style "Full", .verboseLetters 3]

theorem crowdedLine_parsed :
    WellSpelled crowdedLine ∧ ∃ invocation, parse (crowdedLine.flatMap arguments) = .ok invocation ∧
      Answers crowdedLine invocation ∧ parse (plainLine.flatMap arguments) = .ok invocation := by
  have well : WellSpelled crowdedLine :=
    { valid := by decide +kernel
      once := by decide +kernel
      proper := by decide +kernel }
  obtain ⟨invocation, parsed, answers, alike⟩ := parse_of_spelled well
  exact ⟨well, invocation, parsed, answers, alike plainLine (by decide +kernel) (by decide +kernel) (by decide +kernel)⟩

end HoldoutLine.Command
