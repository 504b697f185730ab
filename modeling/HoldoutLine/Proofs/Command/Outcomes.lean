import HoldoutLine.Command.Run
import HoldoutLine.Proofs.Pipeline.Stages
import HoldoutLine.Proofs.Report.Writing

/-! # A run is all or nothing

How a run ends is decided by two answers of the library: whether the source gives a dataset, and whether the dataset
gives a report. Only a report is ever printed, whole and in the form that was asked for; a failure leaves the output
empty and is told in one message behind the log. `run_all_or_nothing` says so. The log itself holds no error: a stage
that fails leaves no entry on it (`Logged.NoError`, kept by every way to chain stages).
-/

namespace HoldoutLine

namespace Logged

variable {ε δ α β : Type}

/-- No entry tells of an error. -/
def NoError (computation : Logged ε α) : Prop := ∀ entry ∈ computation.entries, entry.level ≠ .error

private theorem noError_pure (value : α) : NoError (pure value : Logged ε α) := nofun

private theorem noError_ofExcept (result : Except ε α) : NoError (ofExcept result) := nofun

private theorem noError_note (topic : LogTopic) {level : LogLevel} (mild : level ≠ .error) (message : String) :
    NoError (note topic level message : Logged ε Unit) := by
  intro entry only
  cases List.mem_singleton.mp only
  exact mild

theorem NoError.mapError {computation : Logged ε α} (here : computation.NoError) (wrap : ε → δ) :
    (computation.mapError wrap).NoError := here

theorem NoError.bind {first : Logged ε α} {next : α → Logged ε β} (here : first.NoError)
    (later : ∀ value, (next value).NoError) : (first >>= next).NoError := by
  intro entry member
  change entry ∈ (andThen first next).entries at member
  unfold andThen at member
  split at member
  · next value ended => exact (List.mem_append.mp member).elim (here entry) (later value entry)
  · exact here entry member

end Logged

namespace Command

open Logged

/-- What a source gives, opened first where it has to be. -/
inductive Source.Gives (surroundings : Surroundings) : Source → Except DatasetError Dataset → Prop where
  | bundled : Gives surroundings .bundled Dataset.bundled
  | standardInput : Gives surroundings .standardInput (Dataset.ofFeed surroundings.standardInput)
  | file {path : String} {feed : Table.Feed} (opened : surroundings.openFile path = .ok feed) :
      Gives surroundings (.file path) (Dataset.ofFeed feed)
  | unopened {path reason : String} (refused : surroundings.openFile path = .error reason) :
      Gives surroundings (.file path) (.error (.openFailed reason))

/-- What is printed of a report, in the form that was asked for. A text is what is written into a sink that has room
for it, line by line. -/
inductive Prints (invocation : Invocation) (report : Report) : String → Prop where
  | text (form : invocation.format = .text)
      (written : ∀ sink : Sink, (report.renderText invocation.style invocation.rows).toUTF8.size ≤ sink.room →
        report.writeText invocation.style invocation.rows sink =
          (sink.after (report.renderText invocation.style invocation.rows), none)) :
      Prints invocation report (report.renderText invocation.style invocation.rows)
  | json (form : invocation.format = .json) : Prints invocation report (report.renderJson ++ "\n")

def IsMildLog (text : String) : Prop :=
  ∃ entries : List LogEntry, (∀ entry ∈ entries, entry.level ≠ .error) ∧ text = String.join (entries.map LogEntry.line)

/-- How a run ends on what its source gives: with a report, or with a message and nothing else. -/
inductive Ends (invocation : Invocation) : Except DatasetError Dataset → Outcome → Prop where
  | reported {dataset : Dataset} {report : Report} {output log : String}
      (made : Pipeline.report dataset invocation.plan = .ok report) (prints : Prints invocation report output)
      (mild : IsMildLog log) : Ends invocation (.ok dataset) ⟨0, output, log⟩
  | unloaded {cause : DatasetError} {log : String} (mild : IsMildLog log) :
      Ends invocation (.error cause)
        ⟨1, "", log ++ ("failed to load " ++ invocation.source.label ++ ": " ++ cause.message) ++ "\n"⟩
  | failed {dataset : Dataset} {cause : PipelineError} {log : String}
      (failed : Pipeline.report dataset invocation.plan = .error cause) (mild : IsMildLog log) :
      Ends invocation (.ok dataset) ⟨1, "", log ++ cause.message ++ "\n"⟩

section Stages

private theorem noError_holdOut (dataset : Dataset) (plan : HoldoutPlan) :
    (Pipeline.holdOut dataset plan).NoError :=
  (noError_ofExcept _).bind fun _ => (noError_note _ (by decide) _).bind fun _ => noError_pure _

private theorem noError_fit (rows : List Observation) : (Pipeline.fit rows).NoError :=
  (noError_ofExcept _).bind fun _ => (noError_note _ (by decide) _).bind fun _ =>
    (noError_note _ (by decide) _).bind fun _ => noError_pure _

private theorem noError_assess (line : Line Float) (rows : List Observation) :
    (Pipeline.assess line rows).NoError := by
  refine (noError_ofExcept _).bind fun assessment => ?_
  have ended : ∀ message : String, NoError (do
      Logged.note .pipeline .info message
      return assessment : Logged PipelineError Assessment) :=
    fun _ => (noError_note _ (by decide) _).bind fun _ => noError_pure _
  cases assessment.r2 with
  | undefined => exact (noError_note _ (by decide) _).bind fun _ => ended _
  | value share => exact ended _

private theorem noError_run (dataset : Dataset) (plan : HoldoutPlan) : (Pipeline.run dataset plan).NoError :=
  (noError_note _ (by decide) _).bind fun _ => (noError_holdOut _ _).bind fun _ => (noError_fit _).bind fun _ =>
    (noError_assess _ _).bind fun _ => noError_pure _

private theorem noError_load (source : Source) (surroundings : Surroundings) :
    (source.load surroundings).NoError := by
  have loaded : ∀ opened, (Dataset.load opened).NoError := fun _ =>
    (noError_ofExcept _).bind fun _ => (noError_note _ (by decide) _).bind fun _ => noError_pure _
  refine (noError_note _ (by decide) _).bind fun _ => ?_
  cases source with
  | file path => exact (noError_note _ (by decide) _).bind fun _ => loaded _
  | bundled | standardInput => exact loaded _

variable (invocation : Invocation) (surroundings : Surroundings)

private theorem isMildLog_text (filter : LogFilter) :
    IsMildLog (filter.text (invocation.report surroundings).entries) := by
  have mild : (invocation.report surroundings).NoError :=
    ((noError_load _ _).mapError _).bind fun _ => (noError_run _ _).mapError _
  exact ⟨_, fun entry shown => mild entry (List.mem_of_mem_filter shown), rfl⟩

private theorem result_dataset_load (opened : Except String Table.Feed) :
    (Dataset.load opened).result = Dataset.ofOpened opened := by
  simp only [Dataset.load, result_bind, result_ofExcept, result_note, result_pure]
  cases Dataset.ofOpened opened <;> rfl

private theorem result_load (source : Source) :
    (source.load surroundings).result = Dataset.ofOpened (source.opened surroundings) := by
  unfold Source.load
  rw [result_bind, result_note, ← result_dataset_load]
  generalize source.opened surroundings = opened
  cases source <;> rfl

private theorem ofOpened_ok (feed : Table.Feed) : Dataset.ofOpened (.ok feed) = Dataset.ofFeed feed := rfl

/-- Loading a source comes to what it gives. -/
theorem gives_load (source : Source) : source.Gives surroundings (source.load surroundings).result := by
  rw [result_load]
  cases source with
  | bundled =>
    rw [Source.opened, ofOpened_ok, ← Dataset.ofText, ← Dataset.bundled]
    exact .bundled
  | standardInput =>
    rw [Source.opened, ofOpened_ok]
    exact .standardInput
  | file path =>
    rw [Source.opened]
    cases opened : surroundings.openFile path with
    | error reason => exact .unopened opened
    | ok feed =>
      rw [ofOpened_ok]
      exact .file opened

/-- The report of an invocation is the library's, or the failure of the stage that failed. -/
theorem result_report : (invocation.report surroundings).result =
    (invocation.source.load surroundings).result.mapError (.load invocation.source) >>= fun dataset =>
      (Pipeline.report dataset invocation.plan).mapError .pipeline := by
  rw [Invocation.report, result_bind]
  rfl

end Stages

/-- Some form of a report is always printed. -/
theorem prints_render (invocation : Invocation) (report : Report) :
    Prints invocation report (invocation.render report) := by
  unfold Invocation.render
  cases form : invocation.format with
  | text => exact .text form fun _ => report.writeText_of_room _ _
  | json => exact .json form

private theorem ends_outcome (invocation : Invocation) (surroundings : Surroundings) :
    Ends invocation (invocation.source.load surroundings).result (invocation.outcome surroundings) := by
  have mild := isMildLog_text invocation surroundings (invocation.logFilter surroundings)
  unfold Invocation.outcome
  dsimp only
  rw [result_report]
  cases (invocation.source.load surroundings).result with
  | error cause => exact .unloaded mild
  | ok dataset =>
    cases made : Pipeline.report dataset invocation.plan with
    | error cause =>
      simp only [Except.mapError, bind, Except.bind, made]
      exact .failed made mild
    | ok report =>
      simp only [Except.mapError, bind, Except.bind, made]
      exact .reported made (prints_render invocation report) mild

/-- A report is made of the source and the plan; the log setting does not enter it. -/
theorem report_congr {invocation other : Invocation} (source : other.source = invocation.source)
    (plan : other.plan = invocation.plan) (surroundings : Surroundings) (setting : Option String) :
    other.report { surroundings with logSetting := setting } = invocation.report surroundings := by
  unfold Invocation.report
  rw [source, plan]
  cases invocation.source <;> rfl

/-- Invocations that make the same report of the same source and print it alike end alike but for the log, whatever the
log setting is. -/
theorem outcome_congr {invocation other : Invocation} (source : other.source = invocation.source)
    (plan : other.plan = invocation.plan) (rendered : other.render = invocation.render) (surroundings : Surroundings)
    (setting : Option String) :
    (other.outcome { surroundings with logSetting := setting }).exitCode = (invocation.outcome surroundings).exitCode ∧
      (other.outcome { surroundings with logSetting := setting }).output =
        (invocation.outcome surroundings).output := by
  unfold Invocation.outcome
  dsimp only
  rw [report_congr source plan, rendered]
  cases (invocation.report surroundings).result <;> exact ⟨rfl, rfl⟩

private theorem render_of_json {invocation : Invocation} (form : invocation.format = .json)
    (style : ReportStyle) (rows : Nat) :
    Invocation.render { invocation with style, rows } = invocation.render := by
  funext report
  rw [Invocation.render, Invocation.render, form]

/-- A run whose arguments are accepted is all or nothing. Where its source gives a dataset of which the library makes a
report, it prints that report and nothing else and ends well; where one of the two fails it prints nothing, ends badly
and tells the failure in one message, behind a log that holds no other. A JSON report is printed alike whatever layout
and number of rows are asked for. -/
theorem run_all_or_nothing {arguments : List String} {invocation : Invocation}
    (parsed : parse arguments = .ok invocation) (surroundings : Surroundings) :
    (∃ loaded, invocation.source.Gives surroundings loaded ∧ Ends invocation loaded (run arguments surroundings)) ∧
      (invocation.format = .json → ∀ style rows,
        (Invocation.outcome { invocation with style, rows } surroundings).output =
          (run arguments surroundings).output) := by
  rw [run, parsed]
  refine ⟨⟨_, gives_load surroundings invocation.source, ends_outcome invocation surroundings⟩, ?_⟩
  intro form style rows
  have rendered := render_of_json form style rows
  exact (@outcome_congr invocation { invocation with style, rows } rfl rfl rendered surroundings _).2

def pipedLine : List String := ["-fJSON", "-r", "2", "--style=short", "-i", "-"]

/-- A table of two rows on the standard input, too few to hold one out and fit a line to the other. -/
def pipedTable : Surroundings := ⟨some "debug", .ofText "x,y\n1,2\n3,4\n", fun _ => .error "no such file"⟩

theorem pipedLine_all_or_nothing :
    parse pipedLine = .ok ⟨.standardInput, {}, .json, .brief, 2, 0⟩ ∧
      ∃ loaded, Source.Gives pipedTable .standardInput loaded ∧
        Ends ⟨.standardInput, {}, .json, .brief, 2, 0⟩ loaded (run pipedLine pipedTable) := by
  have parsed : parse pipedLine = .ok ⟨.standardInput, {}, .json, .brief, 2, 0⟩ := by decide +kernel
  exact ⟨parsed, (run_all_or_nothing parsed pipedTable).1⟩

end Command

end HoldoutLine
