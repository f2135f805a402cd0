import Lox.Proofs.CommandLine.Verdict
import Lox.Proofs.Parse.Relocation

/-!
# Expressions in files

The name of a file is seen in the locations of tokens and errors (`Reading.ofText_relocate`). What a
run shows without the log names lines only, so it does not depend on the file
(`CommandLine.readText_eq_readText`).

Decoding gives back the text of which a file holds the bytes, with uniform line ends. So a run on a
file ends as a run on the text that is in it (`CommandLine.run_file_eq_run_text`).
-/

set_option autoImplicit false

namespace Lox

/-! ## Readings at another place -/

/-- The reading with all locations moved. -/
def Reading.relocate (move : Location → Location) (reading : Reading) : Reading where
  tree := reading.tree.map (Expr.relocate move)
  lexicalErrors := reading.lexicalErrors.map (LexicalError.relocate move)
  syntaxErrors := reading.syntaxErrors.map (SyntaxError.relocate move)

namespace Reading

/-- Reading what a scan found commutes with moving the locations. -/
theorem ofScan_relocate (move : Location → Location) (scan : Scan) (settings : Settings)
    (requireEnd : Bool) :
    ofScan (scan.relocate move) settings requireEnd =
      (ofScan scan settings requireEnd).relocate move := by
  rcases scan with ⟨tokens, _ | ⟨error, errors⟩⟩
  · have parsed := (Parser.start tokens settings.limit).parseWhole_relocate move requireEnd
    have here : (Parser.start tokens settings.limit).relocate move =
      Parser.start (tokens.relocate move) settings.limit := rfl
    rw [here] at parsed
    simp only [ofScan, Scan.relocate, List.map_nil, parsed]
    rfl
  · rfl

/-- A text is read alike under every name. -/
theorem ofText_relocate (text name : String) (file : Option String) (settings : Settings)
    (requireEnd : Bool) :
    ofText text (some name) settings requireEnd =
      (ofText text file settings requireEnd).relocate (Location.rename name) := by
  rw [ofText, Option.getD_some, Scan.ofText_relocate (file.getD settings.file)]
  exact ofScan_relocate ..

end Reading

/-! ## What is shown of a place -/

section Shown

variable {move : Location → Location}

/-- A tree is shown without its locations. -/
theorem Expr.print_relocate (tree : Expr) : (tree.relocate move).print = tree.print := by
  induction tree with
  | literal => rfl
  | grouping inner ih => simp only [relocate, print, ih]
  | unary operator operand ih => simp only [relocate, print, ih, Token.relocate]
  | binary left operator right first second =>
    simp only [relocate, print, first, second, Token.relocate]

variable (keeps : ∀ location, (move location).line = location.line)
include keeps

theorem LexicalError.summary_relocate (error : LexicalError) :
    (error.relocate move).summary = error.summary := by
  simp only [summary, relocate, keeps]

theorem SyntaxError.print_relocate (error : SyntaxError) :
    (error.relocate move).print = error.print := by
  have line : (error.relocate move).report.token.location.line =
    error.report.token.location.line := keeps _
  unfold print Report.print
  rw [line]
  rfl

/-- Where lines are kept, a run ends alike. -/
theorem CommandLine.conclude_relocate (reading : Reading) :
    conclude (reading.relocate move) = conclude reading := by
  have lexical : LexicalError.summary ∘ LexicalError.relocate move = LexicalError.summary :=
    funext (LexicalError.summary_relocate keeps)
  have syntactic : SyntaxError.print ∘ SyntaxError.relocate move = SyntaxError.print :=
    funext (SyntaxError.print_relocate keeps)
  unfold conclude Reading.relocate
  cases reading.tree with
  | none => simp only [Option.map_none, List.map_map, lexical, syntactic]
  | some tree => simp only [Option.map_some, Expr.print_relocate]

end Shown

/-! ## Line ends -/

/-- A text with its line ends made uniform: each carriage return with the line feed behind it, and
each carriage return alone, is a line feed. -/
inductive Text.Uniform : List Char → List Char → Prop
  | nil : Uniform [] []
  | both {rest uniform : List Char} :
      Uniform rest uniform → Uniform ('\r' :: '\n' :: rest) ('\n' :: uniform)
  | alone {rest uniform : List Char} :
      rest.head? ≠ some '\n' → Uniform rest uniform → Uniform ('\r' :: rest) ('\n' :: uniform)
  | other {c : Char} {rest uniform : List Char} :
      c ≠ '\r' → Uniform rest uniform → Uniform (c :: rest) (c :: uniform)

namespace Text

/-- Outside a pair of a carriage return and a line feed, each character is taken by itself. -/
theorem uniformNewlines_cons {c : Char} {rest : List Char}
    (single : c = '\r' → rest.head? ≠ some '\n') :
    uniformNewlines (c :: rest) = (if c = '\r' then '\n' else c) :: uniformNewlines rest := by
  rw [uniformNewlines]
  rintro further rfl rfl
  exact single rfl rfl

theorem uniform_uniformNewlines (text : List Char) : Uniform text (uniformNewlines text) := by
  fun_induction uniformNewlines text with
  | case1 => exact .nil
  | case2 rest ih => exact .both ih
  | case3 c rest single ih =>
    split
    · next returns =>
      subst returns
      refine .alone (fun feed => ?_) ih
      obtain ⟨further, whole⟩ := List.head?_eq_some_iff.mp feed
      exact single further rfl whole
    · next ordinary => exact .other ordinary ih

/-- A text has one form with uniform line ends. -/
theorem uniform_iff {text uniform : List Char} :
    Uniform text uniform ↔ uniform = uniformNewlines text := by
  constructor
  · intro lines
    induction lines with
    | nil => rfl
    | both _ ih => rw [uniformNewlines, ih]
    | alone single _ ih => rw [uniformNewlines_cons fun _ => single, if_pos rfl, ih]
    | other ordinary _ ih =>
      rw [uniformNewlines_cons fun returns => absurd returns ordinary, if_neg ordinary, ih]
  · rintro rfl
    exact uniform_uniformNewlines text

end Text

/-- Decoding the bytes of a text gives the text, with uniform line ends. -/
theorem decodeText_toUTF8 {text uniform : String}
    (lines : Text.Uniform text.toList uniform.toList) :
    decodeText text.toUTF8 = .ok uniform := by
  have decoded : String.fromUTF8? text.toUTF8 = some text := dif_pos text.isValidUTF8
  simp only [decodeText, decoded, ← Text.uniform_iff.mp lines, String.ofList_toList]

namespace CommandLine

/-! ## Runs on a file -/

/-- Without the log, a text is read alike from every file. -/
theorem readText_eq_readText (text name : String) (file : Option String) (settings : Settings) :
    readText text (some name) settings false = readText text file settings false := by
  have keeps : ∀ location, (Location.rename name location).line = location.line := fun _ => rfl
  have same := conclude_relocate keeps (Reading.ofText text file settings true)
  rw [← Reading.ofText_relocate] at same
  exact same

/-- An argument that does not start with a dash is positional. -/
theorem classify_of_plain {argument : String} (plain : argument.toList.head? ≠ some '-') :
    classify argument = .ok (.positional argument) := by
  unfold classify
  split
  · next whole => simp [whole] at plain
  · next whole => simp [whole] at plain
  · rfl

/-- The flag of a file takes a name that does not start with a dash. -/
theorem understood_file {path : String} (plain : path.toList.head? ≠ some '-') :
    Understood ["-f", path] { file := some (some path) } := by
  have other : path ≠ "--" := by
    rintro rfl
    exact plain rfl
  have value : Options.valueText path = some path := if_neg other
  have flag : classify "-f" = .ok (.flag .file true none) := rfl
  have read : Options.read ["-f", path] = .ok (.read { file := some (some path) }) := by
    have split : Options.splitAtSeparator ["-f", path] = (["-f", path], none) := by
      simp [Options.splitAtSeparator, other]
    have classified : ["-f", path].mapM classify =
        .ok [.flag .file true none, .positional path] := by
      simp only [List.mapM_cons, List.mapM_nil, flag, classify_of_plain plain]
      rfl
    simp only [Options.read, split, classified]
    rw [← value]
    rfl
  exact ⟨⟨_, read, rfl⟩, nofun⟩

/-- What stands behind the separator is the expression. -/
theorem understood_separated (text : String) :
    Understood ["--", text] { expression := some text } :=
  ⟨⟨{ expression := some text }, rfl, rfl⟩, nofun⟩

variable {environment : Option String} {content : String → Except ReadError ByteArray}

/-- **A run on a file ends as a run on the text that is in it.** The file has a name that is not
empty and does not start with a dash, and it holds the bytes of a text. Then both runs have the same
end, for each text that the environment may have for the limit on nesting. Where that gives
settings, it is the end of reading the text under them. -/
theorem run_file_eq_run_text {path text uniform : String} (named : path ≠ "")
    (plain : path.toList.head? ≠ some '-') (stored : content path = .ok text.toUTF8)
    (lines : Text.Uniform text.toList uniform.toList) :
    ∃ outcome, run environment content ["-f", path] = .ok outcome ∧
      run environment content ["--", uniform] = .ok outcome ∧
        ∀ settings, Options.settings {} environment = .ok settings →
          outcome = conclude (Reading.ofText uniform none settings true) := by
  have fromFile := plans_plan environment (understood_file plain)
  have fromText := plans_plan environment (understood_separated uniform)
  have source : Options.source? { file := some (some path) } = some (.file path) := if_neg named
  -- Neither run gives a limit itself, so both make the same settings from the environment.
  cases made : Options.settings {} environment with
  | error error =>
    have refusedFile := fromFile.unique (.badSetting nofun made)
    have refusedText := fromText.unique (.badSetting nofun made)
    refine ⟨refuse (.badSetting error.message), ?_, ?_, nofun⟩
    · exact run_of_finished refusedFile
    · exact run_of_finished refusedText
  | ok settings =>
    have planned := fromFile.unique (.read nofun made source)
    have decoded : (content path).bind decodeText = .ok uniform := by
      rw [stored]
      exact decodeText_toUTF8 lines
    refine ⟨readText uniform none settings false, ?_,
      (understood_separated uniform).run_eq_readText rfl nofun made, ?_⟩
    · rw [run_of_file planned]
      simp only [readContent, decoded]
      exact congrArg _ (readText_eq_readText uniform path none settings)
    · rintro _ ⟨⟩
      rfl

/-- A carriage return and the line feed behind it are one end of a line, in a file as in a text. -/
theorem run_file_eq_run_text_pair :
    let content : String → Except ReadError ByteArray := fun _ => .ok "\r\n".toUTF8
    run none content ["--", "\n"] =
        .ok ⟨65, false, "", "[line 2] Error at end: Expect expression.\n"⟩ ∧
      run none content ["-f", "empty.lox"] = run none content ["--", "\n"] := by
  intro content
  have named : "empty.lox" ≠ "" := by decide
  have plain : "empty.lox".toList.head? ≠ some '-' := by decide
  have stored : content "empty.lox" = .ok "\r\n".toUTF8 := rfl
  have lines : Text.Uniform "\r\n".toList "\n".toList := .both .nil
  obtain ⟨outcome, file, text, _⟩ :=
    @run_file_eq_run_text none content _ _ _ named plain stored lines
  refine ⟨?_, file.trans text.symm⟩
  have scanned : Scan.ofText Settings.unnamed "\n".toList =
      ⟨⟨[], Token.endAt ⟨Settings.unnamed, 2, 1, 1⟩, rfl⟩, []⟩ := by
    rw [Scan.ofText, Cursor.scan_of_none rfl]
    rfl
  have made : Options.settings { expression := some "\n" } none = .ok Settings.standard := rfl
  rw [(understood_separated "\n").run_eq_readText rfl (by decide) made]
  simp only [readText, Reading.ofText, Option.getD_none, Settings.standard, scanned]
  rfl

end CommandLine
end Lox
