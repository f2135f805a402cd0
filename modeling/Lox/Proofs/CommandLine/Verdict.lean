import Lox.Proofs.CommandLine.Ending
import Lox.Proofs.Reading

/-!
# The verdict on an expression

The option and the environment may each give a limit on nesting as a text. Of the limits that are
read the one of the option goes first, then that of the environment, then the standard one
(`Options.SetsLimit`). Settings are made exactly if a positive limit or none is set in this way
(`Options.settings_eq_ok_iff`).

Under that limit a run on the text of an expression shows the tree if the text is accepted as one,
and otherwise the errors: those of scanning, or else one of parsing (`run_text_verdict`).
-/

set_option autoImplicit false

namespace Lox

/-! ## The limit that is set -/

/-- The limit that is read from a text, where there is a text. -/
inductive DepthLimit.Gives : Option String → Option (Option Nat) → Prop
  | none : Gives none none
  | some {text : String} {limit : Option Nat} :
      DepthLimit.read text = .ok limit → Gives (some text) (some limit)

/-- Where there is a text, a limit is read from it or an error is. -/
theorem DepthLimit.gives_cases (text : Option String) :
    (∃ limit, Gives text limit) ∨ ∃ raw error, text = some raw ∧ read raw = .error error := by
  cases text with
  | none => exact .inl ⟨_, .none⟩
  | some raw =>
    cases limit : read raw with
    | ok => exact .inl ⟨_, .some limit⟩
    | error error => exact .inr ⟨raw, error, rfl, limit⟩

namespace Settings

variable {environment : Option String} {given fallback : Option (Option Nat)}
  {limit : Option Nat} {settings : Settings} {file : String}

/-- A natural number is taken as the limit exactly if it is positive. -/
theorem ofLimit_eq_ok_iff :
    ofLimit (limit.map Int.ofNat) file = .ok settings ↔
      settings.limit = limit ∧ settings.file = file := by
  obtain ⟨chosen, name, positive⟩ := settings
  cases limit with
  | none => simp [ofLimit, eq_comm]
  | some bound =>
    by_cases above : 0 < bound
    · simp [ofLimit, above, eq_comm]
    · simp only [Option.map_some, ofLimit, Int.ofNat_eq_natCast, Int.natCast_pos, above,
        dite_false, reduceCtorEq, false_iff]
      rintro ⟨rfl, -⟩
      exact above (positive bound rfl)

/-- The override goes before the environment, and that before the standard limit. -/
theorem ofEnvironment_of_gives (gives : DepthLimit.Gives environment fallback) :
    ofEnvironment environment { limit := given.map (Option.map Int.ofNat) } =
      ofLimit (((given.or fallback).getD (some DepthLimit.standard)).map Int.ofNat) unnamed := by
  cases gives with
  | none => cases given <;> rfl
  | some read => cases given <;> simp [ofEnvironment, read, ofOverrides]

end Settings

namespace CommandLine

variable {environment text : Option String} {given fallback : Option (Option Nat)}
  {options : Options} {settings : Settings}

/-- The option and the environment set a limit. Both are read, where they are given. -/
inductive Options.SetsLimit (options : Options) (environment : Option String) :
    Option Nat → Prop
  | of {text : Option String} {given fallback : Option (Option Nat)} :
      options.maxDepth = text.map some → DepthLimit.Gives text given →
        DepthLimit.Gives environment fallback →
          SetsLimit options environment ((given.or fallback).getD (some DepthLimit.standard))

/-- The limit of the option overrides that of the environment. -/
theorem Options.settings_of_gives (flag : options.maxDepth = text.map some)
    (gives : DepthLimit.Gives text given) :
    options.settings environment =
      Settings.ofEnvironment environment { limit := given.map (Option.map Int.ofNat) } := by
  cases gives with
  | none => simp [Options.settings, flag]
  | some read => simp [Options.settings, flag, read]

/-- **Settings are made exactly if their limit is the one that is set.** -/
theorem Options.settings_eq_ok_iff :
    options.maxDepth ≠ some none ∧ options.settings environment = .ok settings ↔
      options.SetsLimit environment settings.limit ∧ settings.file = Settings.unnamed := by
  constructor
  · rintro ⟨flag, made⟩
    obtain ⟨text, flag⟩ : ∃ text : Option String, options.maxDepth = text.map some := by
      rcases given : options.maxDepth with _ | _ | text
      · exact ⟨none, rfl⟩
      · exact absurd given flag
      · exact ⟨some text, rfl⟩
    rcases DepthLimit.gives_cases text with ⟨given, gives⟩ | ⟨raw, error, rfl, unread⟩
    · rw [settings_of_gives flag gives] at made
      rcases DepthLimit.gives_cases environment with ⟨fallback, falls⟩ | ⟨raw, error, rfl, unread⟩
      · rw [Settings.ofEnvironment_of_gives falls, Settings.ofLimit_eq_ok_iff] at made
        exact ⟨made.1 ▸ .of flag gives falls, made.2⟩
      · simp [Settings.ofEnvironment, unread] at made
    · simp [Options.settings, flag, unread] at made
  · rintro ⟨sets, file⟩
    generalize same : settings.limit = limit at sets
    obtain ⟨flag, gives, falls⟩ := sets
    rw [settings_of_gives flag gives, Settings.ofEnvironment_of_gives falls,
      Settings.ofLimit_eq_ok_iff]
    exact ⟨by simp [flag], same, file⟩

/-! ## What is shown -/

section Shown

variable {s : String} (settings : Settings) (file : Option String)

/-- An accepted text shows its tree. -/
theorem conclude_of_accepts {tree : Expr}
    (accepts : (Scan.ofText (file.getD settings.file) s.toList).Accepts settings.limit tree) :
    conclude (Reading.ofText s file settings true) = ⟨0, false, tree.print ++ "\n", ""⟩ := by
  rw [conclude, Reading.tree_ofText_eq_some_iff.mpr accepts]

/-- A text with lexical errors shows a line for each, and nothing else. -/
theorem conclude_of_lexicalErrors
    (faulty : (Scan.ofText (file.getD settings.file) s.toList).errors ≠ []) :
    conclude (Reading.ofText s file settings true) = ⟨65, false, "", printLines
      ((Scan.ofText (file.getD settings.file) s.toList).errors.map LexicalError.summary)⟩ := by
  simp [Reading.ofText_of_lexicalErrors faulty, conclude]

/-- A text that is rejected without lexical errors shows the one syntax error. -/
theorem conclude_of_rejected
    (scanned : (Scan.ofText (file.getD settings.file) s.toList).errors = [])
    (rejected : ∀ tree,
      ¬ (Scan.ofText (file.getD settings.file) s.toList).Accepts settings.limit tree) :
    ∃ error, ((Parser.start (Scan.ofText (file.getD settings.file) s.toList).tokens
        settings.limit).parseWhole true).2.errors = [error] ∧
      conclude (Reading.ofText s file settings true) =
        ⟨65, false, "", error.print ++ "\n"⟩ := by
  have failed : ((Parser.start (Scan.ofText (file.getD settings.file) s.toList).tokens
      settings.limit).parseWhole true).1 = none :=
    Option.eq_none_iff_forall_ne_some.mpr fun tree returned =>
      rejected tree (Scan.accepts_iff.mpr ⟨scanned, returned⟩)
  obtain ⟨error, recorded⟩ := Parser.errors_parseWhole_of_none failed
  refine ⟨error, recorded, ?_⟩
  simp [Reading.ofText_of_scanned scanned, conclude, failed, recorded, printLines]

end Shown

/-! ## Runs on the text of an expression -/

variable {content : String → Except ReadError ByteArray} {arguments : List String} {s : String}
  {limit : Option Nat}

/-- A run on the text of an expression reads it under the settings. -/
theorem Understood.run_eq_readText (understood : Understood arguments options)
    (expression : options.expression = some s) (flag : options.maxDepth ≠ some none)
    (made : options.settings environment = .ok settings) :
    run environment content arguments = .ok (readText s none settings options.verbose) := by
  have source : options.source? = some (.text s) := by
    have noFile : options.file = none := by
      simpa [expression] using understood.one_source
    simp [Options.source?, noFile, expression]
  exact run_of_text ((plans_plan environment understood).unique (.read flag made source))

/-- **The verdict on an expression.** The arguments give one expression, without the log, and a
limit on nesting that is positive or none. Then the run shows the tree if the text is accepted as
one. Otherwise it shows a line for each lexical error, in the order of the text, or if there is
none, the text of the one syntax error. -/
theorem run_text_verdict (understood : Understood arguments options)
    (expression : options.expression = some s) (quiet : options.verbose = false)
    (sets : options.SetsLimit environment limit) (positive : ∀ bound ∈ limit, 0 < bound) :
    let scan := Scan.ofText Settings.unnamed s.toList
    (∀ tree, scan.Accepts limit tree →
      run environment content arguments = .ok ⟨0, false, tree.print ++ "\n", ""⟩) ∧
    ((∀ tree, ¬ scan.Accepts limit tree) →
      ∃ errors, run environment content arguments = .ok ⟨65, false, "", errors⟩ ∧ errors ≠ "" ∧
        (scan.errors ≠ [] → errors = printLines (scan.errors.map fun error =>
            "[line " ++ Text.decimal error.location.line ++ "] Error: " ++ error.fault.message) ∧
          scan.errors.Pairwise fun first second =>
            first.location.offset < second.location.offset) ∧
        (scan.errors = [] → ∃ error,
          ((Parser.start scan.tokens limit).parseWhole true).2.errors = [error] ∧
            errors = error.print ++ "\n")) := by
  intro scan
  let settings : Settings := ⟨limit, Settings.unnamed, positive⟩
  obtain ⟨flag, made⟩ : options.maxDepth ≠ some none ∧
      options.settings environment = .ok settings :=
    Options.settings_eq_ok_iff.mpr ⟨sets, rfl⟩
  have ends : run environment content arguments =
      .ok (conclude (Reading.ofText s none settings true)) := by
    rw [understood.run_eq_readText expression flag made, quiet]
    rfl
  rw [ends]
  refine ⟨fun tree accepts => ?_, fun rejected => ?_⟩
  · exact congrArg _ (conclude_of_accepts settings none accepts)
  by_cases scanned : scan.errors = []
  · obtain ⟨error, recorded, shown⟩ := conclude_of_rejected settings none scanned rejected
    exact ⟨_, congrArg _ shown, by simp, fun faulty => absurd scanned faulty,
      fun _ => ⟨error, recorded, rfl⟩⟩
  · refine ⟨_, congrArg _ (conclude_of_lexicalErrors settings none scanned), ?_,
      fun _ => ⟨rfl, Scan.pairwise_errors _ _⟩, fun none => absurd none scanned⟩
    obtain ⟨error, errors, some⟩ := List.exists_cons_of_ne_nil scanned
    simp [some, scan, settings, printLines]

/-- A negated expression is taken for an unknown flag first, and a limit of one admits it. -/
theorem run_text_verdict_negated :
    run (some "1") (fun _ => .error (.file .notFound)) ["-nil"] =
      .ok ⟨0, false, "(- nil)\n", ""⟩ := by
  let operator : Token := ⟨.minus, "-", .nil, ⟨Settings.unnamed, 1, 1, 0⟩⟩
  let word : Token := ⟨.nilWord, "nil", .nil, ⟨Settings.unnamed, 1, 2, 1⟩⟩
  have first : (Cursor.start "-nil".toList).skipTrivia.next? Settings.unnamed =
      some (.token operator, ⟨⟨1, 2, 1⟩, ['n', 'i', 'l']⟩) := rfl
  have second : (Cursor.skipTrivia ⟨⟨1, 2, 1⟩, ['n', 'i', 'l']⟩).next? Settings.unnamed =
      some (.token word, ⟨⟨1, 5, 4⟩, []⟩) := rfl
  have scanned : Scan.ofText Settings.unnamed "-nil".toList =
      ⟨⟨[operator, word], Token.endAt ⟨Settings.unnamed, 1, 5, 4⟩, rfl⟩, []⟩ := by
    rw [Scan.ofText, Cursor.scan_of_some first, Cursor.resume, Cursor.scan_of_some second,
      Cursor.resume, Cursor.scan_of_none rfl]
    rfl
  have accepts : (Scan.ofText Settings.unnamed "-nil".toList).Accepts (some 1)
      (.unary operator (.literal .nil)) :=
    Scan.accepts_iff.mpr ⟨by rw [scanned], by rw [scanned]; rfl⟩
  have understood : Understood ["-nil"] { expression := some "-nil" } :=
    ⟨⟨{ leftover := ["-nil"] }, rfl, rfl⟩, by decide⟩
  have sets : Options.SetsLimit { expression := some "-nil" } (some "1") (some 1) :=
    @Options.SetsLimit.of _ _ none none (some (some 1)) rfl .none (.some rfl)
  exact (run_text_verdict understood rfl rfl sets (by decide)).1 _ accepts

end CommandLine
end Lox
