import Lox.Proofs.CommandLine.Files

/-!
# Expressions with a leading minus

A dash begins flags, but it is also the minus of Lox. An argument that begins with a dash and is
no flag is positional if it is a negative number or has a space in it, and an unknown flag otherwise
(`CommandLine.classify_of_minus`). Either way it becomes the expression: a positional argument is
the expression as it is read, and a single unknown flag that is left over is made the expression
when the options are settled (`CommandLine.understood_minus`).

So such an argument is read alike with and without the separator in front of it
(`CommandLine.run_minus_eq_run_separated`).
-/

set_option autoImplicit false

namespace Lox.CommandLine

variable {argument : String} {letter : Char} {text : List Char}

/-- The letters of flags are those of the file, of help and of the log. -/
theorem Flag.ofLetter?_eq_none (plain : letter ∉ ['f', 'h', 'v']) : ofLetter? letter = none := by
  refine List.find?_eq_none.mpr fun flag _ same => plain ?_
  have given : flag.letter? = some letter := beq_iff_eq.mp same
  cases flag <;> cases given <;> decide

/-- An argument that begins with one dash and the letter of no flag is no flag. -/
theorem classify_of_minus (begins : argument.toList = '-' :: letter :: text)
    (noSecond : letter ≠ '-') (noFlag : Flag.ofLetter? letter = none) :
    classify argument = .ok (unflagged argument) := by
  unfold classify
  rw [begins]
  split
  · next same => simp_all
  · next same =>
    obtain ⟨rfl, rfl⟩ : letter = _ ∧ text = _ := by simpa using same
    simp only [classifyShort, noFlag]
  · next other => exact absurd rfl (other letter text)

/-- What is no flag is taken as it is or left over. -/
theorem unflagged_cases (argument : String) :
    unflagged argument = .positional argument ∨ unflagged argument = .unknown argument := by
  unfold unflagged
  split
  · exact .inl rfl
  · exact .inr rfl

/-- An argument that is no flag is the expression, whether it is positional or left over. -/
theorem understood_minus (begins : argument.toList = '-' :: letter :: text)
    (noSecond : letter ≠ '-') (noFlag : Flag.ofLetter? letter = none) :
    Understood [argument] { expression := some argument } := by
  have single : ¬ ['-', '-'] <+: argument.toList := by
    rw [begins, List.cons_prefix_cons, List.cons_prefix_cons]
    exact fun twice => noSecond twice.2.1.symm
  have noSeparator : argument ≠ "--" := by
    rintro rfl
    exact single (List.prefix_refl _)
  have split : Options.splitAtSeparator [argument] = ([argument], none) := by
    simp [Options.splitAtSeparator, noSeparator]
  have classified : [argument].mapM classify = .ok [unflagged argument] := by
    simp only [List.mapM_cons, List.mapM_nil, classify_of_minus begins noSecond noFlag]
    rfl
  rcases unflagged_cases argument with positional | unknown
  · refine ⟨⟨{ expression := some argument }, ?_, rfl⟩, Bool.false_ne_true⟩
    simp only [Options.read, split, classified, positional]
    rfl
  · refine ⟨⟨{ leftover := [argument] }, ?_, ?_⟩, Bool.false_ne_true⟩
    · simp only [Options.read, split, classified, unknown]
      rfl
    · simp [Options.settle, single]

variable {environment : Option String} {content : String → Except ReadError ByteArray}

/-- **An argument with a leading minus is the expression.** The argument has a second character,
and that is neither a dash nor the letter of a flag. Then the run on the argument alone ends as the
run on it behind the separator, for each text that the environment may have for the limit on
nesting. Where that text cannot be used it is a usage error, and otherwise the end is that of
reading the argument as an expression. -/
theorem run_minus_eq_run_separated (begins : argument.toList = '-' :: letter :: text)
    (plain : letter ∉ ['-', 'f', 'h', 'v']) :
    ∃ outcome, run environment content [argument] = .ok outcome ∧
      run environment content ["--", argument] = .ok outcome ∧
        (∀ error, Options.settings {} environment = .error error →
          outcome = refuse (.badSetting error.message)) ∧
        ∀ settings, Options.settings {} environment = .ok settings →
          outcome = conclude (Reading.ofText argument none settings true) := by
  have noFlag := Flag.ofLetter?_eq_none (List.not_mem_of_not_mem_cons plain)
  have alone := understood_minus begins (List.ne_of_not_mem_cons plain) noFlag
  have behind := understood_separated argument
  have unlimited : Options.maxDepth { expression := some argument } ≠ some none := by simp
  -- Both runs give the same options, so the settings alone decide between the two ends.
  cases made : Options.settings {} environment with
  | error error =>
    have refusedAlone := (plans_plan environment alone).unique (.badSetting unlimited made)
    have refusedBehind := (plans_plan environment behind).unique (.badSetting unlimited made)
    refine ⟨refuse (.badSetting error.message), ?_, ?_, ?_, ?_⟩
    · exact run_of_finished refusedAlone
    · exact run_of_finished refusedBehind
    · rintro _ ⟨⟩
      rfl
    · rintro _ ⟨⟩
  | ok settings =>
    refine ⟨readText argument none settings false, alone.run_eq_readText rfl unlimited made,
      behind.run_eq_readText rfl unlimited made, ?_, ?_⟩
    · rintro _ ⟨⟩
    · rintro _ ⟨⟩
      rfl

/-- An equals sign behind the dash makes no flag with a value of the argument, and neither does it
matter that no limit on nesting can be read from the environment. -/
theorem run_minus_eq_run_separated_equals :
    let content : String → Except ReadError ByteArray := fun _ => .error (.file .notFound)
    run (some "1") content ["-="] =
        .ok ⟨65, false, "", "[line 1] Error at '=': Expect expression.\n"⟩ ∧
      run (some "deep") content ["-="] = run (some "deep") content ["--", "-="] := by
  intro content
  have begins : "-=".toList = '-' :: '=' :: [] := rfl
  have plain : '=' ∉ ['-', 'f', 'h', 'v'] := by decide
  constructor
  · obtain ⟨outcome, alone, _, _, reads⟩ :=
      @run_minus_eq_run_separated _ _ _ (some "1") content begins plain
    have made : Options.settings {} (some "1") = .ok ⟨some 1, Settings.unnamed, by simp⟩ := rfl
    let minus : Token := ⟨.minus, "-", .nil, ⟨Settings.unnamed, 1, 1, 0⟩⟩
    let equal : Token := ⟨.equal, "=", .nil, ⟨Settings.unnamed, 1, 2, 1⟩⟩
    have first : (Cursor.start "-=".toList).skipTrivia.next? Settings.unnamed =
        some (.token minus, ⟨⟨1, 2, 1⟩, ['=']⟩) := rfl
    have second : (Cursor.skipTrivia ⟨⟨1, 2, 1⟩, ['=']⟩).next? Settings.unnamed =
        some (.token equal, ⟨⟨1, 3, 2⟩, []⟩) := rfl
    have scanned : Scan.ofText Settings.unnamed "-=".toList =
        ⟨⟨[minus, equal], Token.endAt ⟨Settings.unnamed, 1, 3, 2⟩, rfl⟩, []⟩ := by
      rw [Scan.ofText, Cursor.scan_of_some first, Cursor.resume, Cursor.scan_of_some second,
        Cursor.resume, Cursor.scan_of_none rfl]
      rfl
    rw [alone, reads _ made]
    simp only [Reading.ofText, Option.getD_none, scanned]
    exact congrArg _ (by decide)
  · obtain ⟨outcome, alone, behind, _⟩ :=
      @run_minus_eq_run_separated _ _ _ (some "deep") content begins plain
    exact alone.trans behind.symm

end Lox.CommandLine
