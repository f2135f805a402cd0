import Lox.CommandLine.Run

/-!
# How a run of the command line ends

Planning either ends the run early, with help or a usage error, or the arguments are understood
(`plan_cases`): they give options with exactly one of an expression and a file (`Understood`). What
is planned then follows from the options (`plans_plan`).

A run that has an end has one of the documented statuses, and it is known exactly which runs have no
end: those where a flag is there without its text, and those of a file that is not text
(`run_ends_or_breaks_off`). So there are arguments without an end (`exists_run_without_end`).
-/

set_option autoImplicit false

namespace Lox.CommandLine

/-! ## Arguments that are understood -/

/-- The arguments give these options, and with them exactly one of an expression and a file. -/
structure Understood (arguments : List String) (options : Options) : Prop where
  exists_read : ∃ given, Options.read arguments = .ok (.read given) ∧ given.settle = .ok options
  one_source : options.expression.isNone ≠ options.file.isNone

/-- The run ends before anything is read, with help or a usage error. -/
def EndsEarly (outcome : Outcome) : Prop :=
  outcome = showHelp ∨ ∃ error, outcome = refuse error

variable {environment : Option String} {arguments : List String} {options : Options}

/-- What is planned for options. -/
inductive Plans (environment : Option String) (options : Options) : Plan → Prop
  /-- The flag of the limit is there without a text. -/
  | noLimitText : options.maxDepth = some none → Plans environment options (.broken .noLimitText)
  | badSetting {error : SettingsError} :
      options.maxDepth ≠ some none → options.settings environment = .error error →
        Plans environment options (.finished (refuse (.badSetting error.message)))
  /-- The flag of the file is there without a text. -/
  | noExpression {settings : Settings} :
      options.maxDepth ≠ some none → options.settings environment = .ok settings →
        options.source? = none → Plans environment options (.broken .noExpression)
  | read {settings : Settings} {source : Source} :
      options.maxDepth ≠ some none → options.settings environment = .ok settings →
        options.source? = some source →
          Plans environment options (.read source settings options.verbose)

/-- Options have one plan. -/
theorem Plans.unique {first second : Plan} (plans : Plans environment options first)
    (otherwise : Plans environment options second) : first = second := by
  cases plans <;> cases otherwise <;> simp_all

/-- What is planned follows the options, once the arguments are understood. -/
theorem plans_plan (environment : Option String) (understood : Understood arguments options) :
    Plans environment options (plan environment arguments) := by
  obtain ⟨given, read, settled⟩ := understood.exists_read
  have oneSource : ¬ (options.expression.isNone == options.file.isNone) = true := by
    simpa using understood.one_source
  simp only [plan, read, planOptions, settled, if_neg oneSource]
  by_cases noText : options.maxDepth = some none
  · rw [noText]
    exact .noLimitText noText
  · rw [if_neg (by simpa using noText)]
    cases set : options.settings environment with
    | error error => exact .badSetting noText set
    | ok settings =>
      cases source : options.source? with
      | none => exact .noExpression noText set source
      | some source => exact .read noText set ‹_›

/-- Planning ends early, or the arguments are understood. -/
theorem plan_cases (environment : Option String) (arguments : List String) :
    (∃ outcome, plan environment arguments = .finished outcome ∧ EndsEarly outcome) ∨
      ∃ options, Understood arguments options := by
  cases read : Options.read arguments with
  | error error => exact .inl ⟨refuse error, by simp only [plan, read], .inr ⟨error, rfl⟩⟩
  | ok request =>
    cases request with
    | help => exact .inl ⟨showHelp, by simp only [plan, read], .inl rfl⟩
    | read given =>
      cases settled : given.settle with
      | error error =>
        refine .inl ⟨refuse error, ?_, .inr ⟨error, rfl⟩⟩
        simp only [plan, read, planOptions, settled]
      | ok options =>
        by_cases sources : options.expression.isNone = options.file.isNone
        · refine .inl ⟨refuse .sourceCount, ?_, .inr ⟨.sourceCount, rfl⟩⟩
          simp [plan, read, planOptions, settled, sources]
        · exact .inr ⟨options, ⟨given, read, settled⟩, sources⟩

/-! ## Ends -/

/-- The content of a path is no text, and that is why a run breaks off. -/
inductive NoText : Except ReadError ByteArray → Breakdown → Prop
  | nullInPath : NoText (.error .nullInPath) .nullInPath
  | undecodable : NoText (.error .undecodable) .undecodable
  | notUTF8 {bytes : ByteArray} : String.fromUTF8? bytes = none → NoText (.ok bytes) .undecodable

/-- Why a run with the given options breaks off. -/
inductive BreaksOff (environment : Option String)
    (content : String → Except ReadError ByteArray) (options : Options) : Breakdown → Prop
  /-- The flag of the limit is there without a text. -/
  | noLimitText : options.maxDepth = some none → BreaksOff environment content options .noLimitText
  /-- The flag of the file is there without a text, or with an empty one. -/
  | noExpression {settings : Settings} :
      options.maxDepth ≠ some none → options.settings environment = .ok settings →
        options.file = some none ∨ options.file = some (some "") →
          BreaksOff environment content options .noExpression
  /-- The file is no text. -/
  | noText {settings : Settings} {path : String} {reason : Breakdown} :
      options.maxDepth ≠ some none → options.settings environment = .ok settings →
        options.file = some (some path) → path ≠ "" → NoText (content path) reason →
          BreaksOff environment content options reason

variable {content : String → Except ReadError ByteArray} {outcome : Outcome} {reason : Breakdown}

/-- An end with one of the documented statuses: before anything is read, that of help or of a usage
error; behind that, that of a tree, of errors or of a file that cannot be opened. -/
def Documented (outcome : Outcome) : Prop :=
  outcome.early = true ∧ outcome.status ∈ [0, 2] ∨
    outcome.early = false ∧ outcome.status ∈ [0, 65, 74]

theorem EndsEarly.documented (early : EndsEarly outcome) : Documented outcome := by
  rcases early with rfl | ⟨error, rfl⟩ <;> simp [Documented, showHelp, refuse]

/-- Reading a text ends with a tree or with errors. -/
theorem documented_readText (text : String) (file : Option String) (settings : Settings)
    (verbose : Bool) : Documented (readText text file settings verbose) := by
  unfold readText conclude
  cases (Reading.ofText text file settings true).tree <;> cases verbose <;> simp [Documented]

section File

variable {path : String} {bytes : Except ReadError ByteArray} {settings : Settings}
  {verbose : Bool}

/-- Reading a file breaks off exactly if it is no text. -/
theorem readContent_eq_error_iff :
    readContent path bytes settings verbose = .error reason ↔ NoText bytes reason := by
  constructor
  · intro broken
    rcases bytes with (error | _ | _) | bytes
    · contradiction
    · cases broken
      exact .nullInPath
    · cases broken
      exact .undecodable
    · cases decoded : String.fromUTF8? bytes with
      | none =>
        simp only [readContent, Except.bind, decodeText, decoded] at broken
        cases broken
        exact .notUTF8 decoded
      | some => simp [readContent, Except.bind, decodeText, decoded] at broken
  · rintro (_ | _ | notText)
    · rfl
    · rfl
    · simp [readContent, Except.bind, decodeText, notText]

/-- Reading a file ends as reading its text, or without opening it. -/
theorem documented_readContent
    (ends : readContent path bytes settings verbose = .ok outcome) : Documented outcome := by
  unfold readContent at ends
  split at ends
  · cases ends
    exact documented_readText ..
  · cases ends
    simp [Documented]
  · contradiction
  · contradiction

end File

/-- Where options with one of an expression and a file take the expression from. -/
theorem Understood.source?_cases (understood : Understood arguments options) :
    (∃ text, options.expression = some text ∧ options.file = none ∧
        options.source? = some (.text text)) ∨
      ((options.file = some none ∨ options.file = some (some "")) ∧ options.source? = none) ∨
        ∃ path, path ≠ "" ∧ options.file = some (some path) ∧
          options.source? = some (.file path) := by
  have oneSource := understood.one_source
  rcases file : options.file with _ | _ | path
  · obtain ⟨text, expression⟩ : ∃ text, options.expression = some text :=
      Option.ne_none_iff_exists'.1 fun none => by simp [none, file] at oneSource
    exact .inl ⟨text, expression, rfl, by simp [Options.source?, file, expression]⟩
  all_goals
    have expression : options.expression = none := by
      simpa [file, Option.isNone_iff_eq_none] using oneSource
  · exact .inr (.inl ⟨.inl rfl, by simp [Options.source?, file, expression]⟩)
  · by_cases unnamed : path = ""
    · refine .inr (.inl ⟨.inr (by rw [unnamed]), ?_⟩)
      simp [Options.source?, file, expression, unnamed]
    · exact .inr (.inr ⟨path, unnamed, rfl, by simp [Options.source?, file, unnamed]⟩)

/-- Where the settings can be made, it follows from the file why a run breaks off. -/
theorem breaksOff_iff {settings : Settings} (text : options.maxDepth ≠ some none)
    (set : options.settings environment = .ok settings) :
    BreaksOff environment content options reason ↔
      match options.file with
      | none => False
      | some none | some (some "") => reason = .noExpression
      | some (some path) => NoText (content path) reason := by
  constructor
  · intro breaks
    cases breaks with
    | noLimitText noText => exact absurd noText text
    | noExpression _ _ noFile => rcases noFile with file | file <;> simp [file]
    | noText _ _ file named noText => simpa [file, named] using noText
  · split
    · exact False.elim
    · next file =>
      rintro rfl
      exact .noExpression text set (.inl file)
    · next file =>
      rintro rfl
      exact .noExpression text set (.inr file)
    · next named file =>
      exact .noText text set file named

/-- A run with arguments that are understood has a documented end, or it breaks off for the reason
that holds for their options. -/
theorem Understood.run_ends (understood : Understood arguments options) :
    (∀ outcome, run environment content arguments = .ok outcome → Documented outcome) ∧
      ∀ reason, run environment content arguments = .error reason ↔
        BreaksOff environment content options reason := by
  have plans := plans_plan environment understood
  generalize planned : plan environment arguments = chosen at plans
  cases plans with
  | noLimitText noText =>
    rw [run_of_broken planned]
    refine ⟨nofun, fun reason => ⟨?_, fun breaks => ?_⟩⟩
    · rintro ⟨⟩
      exact .noLimitText noText
    · cases breaks with
      | noLimitText => rfl
      | noExpression text | noText text => exact absurd noText text
  | badSetting text set =>
    rw [run_of_finished planned]
    refine ⟨?_, fun reason => ⟨nofun, fun breaks => ?_⟩⟩
    · rintro outcome ⟨⟩
      exact EndsEarly.documented (.inr ⟨_, rfl⟩)
    · cases breaks with
      | noLimitText noText => exact absurd noText text
      | noExpression _ read | noText _ read => simp [set] at read
  | noExpression text set source =>
    rw [run_of_broken planned]
    rcases understood.source?_cases with
      ⟨s, -, -, given⟩ | ⟨noFile, -⟩ | ⟨path, -, -, given⟩
    · simp [given] at source
    · rcases noFile with file | file <;> simp [breaksOff_iff text set, file, eq_comm]
    · simp [given] at source
  | @read settings source text set found =>
    rcases understood.source?_cases with
      ⟨s, -, file, given⟩ | ⟨-, given⟩ | ⟨path, named, file, given⟩
    · obtain rfl : Source.text s = source := by simpa [given] using found
      rw [run_of_text planned]
      simpa [breaksOff_iff text set, file] using documented_readText s none settings options.verbose
    · simp [given] at found
    · obtain rfl : Source.file path = source := by simpa [given] using found
      rw [run_of_file planned]
      refine ⟨fun outcome => documented_readContent, fun reason => ?_⟩
      simp [breaksOff_iff text set, file, readContent_eq_error_iff]

/-- A run with an end has a documented one, and a run has no end exactly if the arguments are
understood and one of the known reasons holds for the options they give. -/
theorem run_ends_or_breaks_off (environment : Option String)
    (content : String → Except ReadError ByteArray) (arguments : List String) :
    (∀ outcome, run environment content arguments = .ok outcome → Documented outcome) ∧
      ∀ reason, run environment content arguments = .error reason ↔
        ∃ options, Understood arguments options ∧
          BreaksOff environment content options reason := by
  rcases plan_cases environment arguments with ⟨outcome, finished, early⟩ | ⟨options, understood⟩
  · have ends : run environment content arguments = .ok outcome := run_of_finished finished
    refine ⟨?_, fun reason => ⟨fun broken => ?_, fun ⟨options, understood, breaks⟩ => ?_⟩⟩
    · rintro other ended
      obtain rfl : outcome = other := by simpa [ends] using ended
      exact early.documented
    · simp [ends] at broken
    · exact (understood.run_ends.2 reason).2 breaks
  · refine ⟨understood.run_ends.1, fun reason => ⟨fun broken => ?_, ?_⟩⟩
    · exact ⟨options, understood, (understood.run_ends.2 reason).1 broken⟩
    · rintro ⟨other, understood, breaks⟩
      exact (understood.run_ends.2 reason).2 breaks

/-- Not every run has an end: the flag of a file counts as a file, also with an empty name, but an
empty name is no file to read. -/
theorem exists_run_without_end :
    ¬ ∀ (environment : Option String) (content : String → Except ReadError ByteArray)
        (arguments : List String),
        ∃ outcome, run environment content arguments = .ok outcome ∧ Documented outcome := by
  intro ends
  obtain ⟨outcome, ended, -⟩ := ends none (fun _ => .error (.file .notFound)) ["-f", ""]
  have broken : run none (fun _ => .error (.file .notFound)) ["-f", ""] =
      .error .noExpression := rfl
  simp [broken] at ended

end Lox.CommandLine
