import Lox.Proofs.Parse.Accounting
import Lox.Proofs.Parse.Viable
import Lox.Proofs.Scan.Layout

/-!
# What reading a text gives

Reading a text goes one of three ways. The scan has errors, and they are what is given. Or a tree is
given, and no error. Or one syntax error is given (`Reading.ofText_has_one_outcome`).

Where the end of the text is required, a tree is given if the tokens are an expression and its tree
is within the limit on nesting (`Scan.Accepts`, `Reading.tree_ofText_eq_some_iff`). Where it is not,
the same tree is given, and others, behind which tokens are left.
-/

set_option autoImplicit false

namespace Lox

/-! ## Whole parses -/

namespace Parser

variable {parser : Parser} {tree : Expr}

/-- A parse that does not fail records no error, and one that fails records one. -/
theorem errors_parse_cases (parser : Parser) :
    (∃ tree, parser.parse.1 = some tree ∧ parser.parse.2.errors = []) ∨
      ∃ error, parser.parse.1 = none ∧ parser.parse.2.errors = [error] := by
  obtain ⟨added, adds, fails⟩ := parser.adds_parse
  have recorded : parser.parse.2.errors = added.toList := adds.recorded
  cases returned : parser.parse.1 with
  | some tree =>
    obtain rfl : added = none := fails.mpr (by rw [returned]; rfl)
    exact .inl ⟨tree, rfl, recorded⟩
  | none =>
    cases added with
    | none => simp [returned] at fails
    | some error => exact .inr ⟨error, rfl, recorded⟩

/-- A whole parse returns the tree that a parse returns when the cursor is left at the end. -/
theorem parseWhole_fst_eq_some_iff :
    (parser.parseWhole true).1 = some tree ↔
      parser.parse.1 = some tree ∧ parser.parse.2.atEnd = true := by
  unfold parseWhole
  rcases parser.parse with ⟨_ | read, behind⟩
  · simp
  · cases atEnd : behind.atEnd <;> simp [expectEnd, atEnd]

/-- Where the end is not required, a whole parse is a parse. -/
theorem parseWhole_false (parser : Parser) : parser.parseWhole false = parser.parse := by
  unfold parseWhole
  rcases parser.parse with ⟨_ | tree, behind⟩
  · rfl
  · rfl

/-- Where a parse fails, the end does not matter. -/
theorem parseWhole_of_none (failed : parser.parse.1 = none) (requireEnd : Bool) :
    parser.parseWhole requireEnd = parser.parse := by
  unfold parseWhole
  generalize parser.parse = parsed at failed
  obtain ⟨read, behind⟩ := parsed
  obtain rfl : read = none := failed
  rfl

/-- Behind a tree, the token that is not the end is an error. -/
theorem parseWhole_of_left (returned : parser.parse.1 = some tree)
    (further : parser.parse.2.atEnd = false) :
    (parser.parseWhole true).1 = none ∧ (parser.parseWhole true).2.errors =
      [.atToken parser.parse.2.current SyntaxError.endExpected] := by
  have clean := parser.errors_parse_cases
  unfold parseWhole
  generalize parser.parse = parsed at clean returned further
  obtain ⟨read, behind⟩ := parsed
  obtain rfl : read = some tree := returned
  have clean : behind.errors = [] := by simpa using clean
  simp only at further
  simp [expectEnd, further, record, reportHere, report, clean]

/-- **A whole parse returns a tree exactly if the tree is canonical and within the limit, and the
tokens before the first mark of the end are its tokens.** -/
theorem parseWhole_eq_some_iff (tokens : TokenSequence) (limit : Option Nat) (tree : Expr) :
    ((start tokens limit).parseWhole true).1 = some tree ↔
      (tree.Canonical ∧ ∀ bound ∈ limit, tree.nesting ≤ bound) ∧
        tree.Flattens tokens.beforeEnd := by
  have same : (start tokens limit).parse.2.tokens = tokens := tokens_of_parse rfl
  rw [parseWhole_fst_eq_some_iff, atEnd, current, same]
  constructor
  · rintro ⟨returned, ended⟩
    obtain ⟨sound, flattens, _⟩ := (parse_eq_some_iff tokens limit tree _).mp ⟨returned, rfl⟩
    rw [beforeEnd_eq_take sound.1 flattens ended]
    exact ⟨sound, flattens⟩
  · rintro ⟨sound, flattens⟩
    obtain ⟨stop, second, whole, isEnd⟩ := tokens.exists_toList_eq_beforeEnd
    have kind : stop.kind = .endOfInput := Token.isEnd_iff.mp isEnd
    obtain ⟨returned, cursor⟩ := (parse_eq_some_iff tokens limit tree tokens.firstEnd).mpr
      ⟨sound, by rwa [TokenSequence.firstEnd, whole, List.take_left],
        by simp [TokenSequence.firstEnd, TokenSequence.get_of_toList_eq whole, kind,
          binaryOperators]⟩
    exact ⟨returned, cursor ▸ tokens.isEnd_get_firstEnd⟩

/-- A whole parse that fails to return a tree records one error, and else none. -/
theorem errors_parseWhole_cases (parser : Parser) (requireEnd : Bool) :
    (∃ tree, (parser.parseWhole requireEnd).1 = some tree ∧
        (parser.parseWhole requireEnd).2.errors = []) ∨
      ∃ error, (parser.parseWhole requireEnd).1 = none ∧
        (parser.parseWhole requireEnd).2.errors = [error] := by
  have cases := parser.errors_parse_cases
  unfold parseWhole
  generalize parser.parse = parsed at cases
  obtain ⟨_ | tree, behind⟩ := parsed
  · simpa using cases
  · have clean : behind.errors = [] := by simpa using cases
    cases requireEnd with
    | false => exact .inl ⟨tree, rfl, clean⟩
    | true =>
      cases ended : behind.atEnd with
      | true => simp [expectEnd, ended, clean]
      | false => simp [expectEnd, ended, record, reportHere, report, clean]

/-- A whole parse without a tree records one error. -/
theorem errors_parseWhole_of_none {parser : Parser} {requireEnd : Bool}
    (failed : (parser.parseWhole requireEnd).1 = none) :
    ∃ error, (parser.parseWhole requireEnd).2.errors = [error] := by
  rcases parser.errors_parseWhole_cases requireEnd with ⟨tree, returned, _⟩ | ⟨error, _, recorded⟩
  · simp [returned] at failed
  · exact ⟨error, recorded⟩

end Parser

/-! ## Scans that are accepted -/

namespace Scan

/-- The scan is read as the tree: it has no error, its tokens are an expression, and the tree is
the one that they write, nested within the limit. -/
structure Accepts (scan : Scan) (limit : Option Nat) (tree : Expr) : Prop where
  errors_eq_nil : scan.errors = []
  derives : Derives .expression (scan.tokens.body.map Token.kind)
  canonical : tree.Canonical
  flattens : tree.Flattens scan.tokens.body
  nesting_le : ∀ bound ∈ limit, tree.nesting ≤ bound

/-- No token of a scan is a mark of the end. -/
theorem beforeEnd_ofText (file : String) (text : List Char) :
    (ofText file text).tokens.beforeEnd = (ofText file text).tokens.body := by
  obtain ⟨events, body, _, layout⟩ := exists_layout file text
  have whole : (ofText file text).tokens.toList =
      (ofText file text).tokens.body ++ (ofText file text).tokens.stop :: [] := rfl
  refine TokenSequence.beforeEnd_eq whole (ofText file text).tokens.stop_isEnd ?_
  intro token member
  rw [body] at member
  simpa [Token.isEnd] using layout.kind_ne_endOfInput member

/-- Behind an expression at the start of a text, the cursor is at the end exactly if every token is
read. -/
theorem atEnd_parse_iff (file : String) (text : List Char) (limit : Option Nat) :
    let tokens := (ofText file text).tokens
    let behind := (Parser.start tokens limit).parse.2
    behind.current = tokens.get behind.cursor ∧ behind.cursor ≤ tokens.body.length ∧
      (behind.atEnd = true ↔ behind.cursor = tokens.body.length) := by
  intro tokens behind
  have same : behind.tokens = tokens := Parser.tokens_of_parse rfl
  have last : tokens.firstEnd = tokens.body.length :=
    congrArg List.length (beforeEnd_ofText file text)
  have inside : behind.cursor ≤ tokens.firstEnd :=
    ((Parser.start tokens limit).leaves_perform .parse).cursor_le (Nat.zero_le _)
  refine ⟨by rw [Parser.current, same], last ▸ inside, ?_⟩
  rw [Parser.atEnd, Parser.current, same, ← last]
  constructor
  · intro ended
    refine Nat.le_antisymm inside (Nat.le_of_not_lt fun before => ?_)
    rw [TokenSequence.isEnd_get_of_lt_firstEnd before] at ended
    contradiction
  · intro here
    rw [here]
    exact tokens.isEnd_get_firstEnd

/-- The errors of a scan stand in the order of the text. -/
theorem pairwise_errors (file : String) (text : List Char) :
    (ofText file text).errors.Pairwise fun first second =>
      first.location.offset < second.location.offset := by
  obtain ⟨events, _, errors, layout⟩ := exists_layout file text
  rw [errors, List.pairwise_filterMap]
  refine (layout.pairwise_stop_le (Nat.zero_add _)).imp_of_mem ?_
  intro first second member _ apart one found other later
  have moved := Int.lt_of_lt_of_le (layout.exists_piece member).1 apart
  cases first with
  | token => contradiction
  | error =>
    cases second with
    | token => contradiction
    | error =>
      cases found
      cases later
      exact moved

variable {file : String} {text : List Char} {limit : Option Nat} {tree : Expr}

/-- A scan is accepted as a tree exactly if it has no error and parsing it returns the tree. -/
theorem accepts_iff :
    (ofText file text).Accepts limit tree ↔ (ofText file text).errors = [] ∧
      ((Parser.start (ofText file text).tokens limit).parseWhole true).1 = some tree := by
  rw [Parser.parseWhole_eq_some_iff, beforeEnd_ofText]
  constructor
  · intro accepts
    exact ⟨accepts.errors_eq_nil, ⟨accepts.canonical, accepts.nesting_le⟩, accepts.flattens⟩
  · rintro ⟨errors, ⟨canonical, within⟩, flattens⟩
    exact ⟨errors, (derives_expression_iff _).mpr ⟨tree, canonical, flattens⟩, canonical, flattens,
      within⟩

/-- A scan is accepted as one tree. -/
theorem Accepts.unique {other : Expr} (accepts : (ofText file text).Accepts limit tree)
    (otherwise : (ofText file text).Accepts limit other) : tree = other := by
  have returned := (accepts_iff.mp accepts).2
  rw [(accepts_iff.mp otherwise).2] at returned
  exact (Option.some.inj returned).symm

end Scan

/-! ## Readings -/

namespace Reading

variable {text : String} {file : Option String} {settings : Settings} {requireEnd : Bool}

/-- A text with lexical errors is not parsed. -/
theorem ofText_of_lexicalErrors
    (faulty : (Scan.ofText (file.getD settings.file) text.toList).errors ≠ []) :
    ofText text file settings requireEnd =
      ⟨none, (Scan.ofText (file.getD settings.file) text.toList).errors, []⟩ := by
  unfold ofText ofScan
  split
  · next none => exact absurd none faulty
  · rfl

/-- A text without lexical errors is parsed. -/
theorem ofText_of_scanned
    (scanned : (Scan.ofText (file.getD settings.file) text.toList).errors = []) :
    ofText text file settings requireEnd =
      let parsed := (Parser.start (Scan.ofText (file.getD settings.file) text.toList).tokens
        settings.limit).parseWhole requireEnd
      ⟨parsed.1, [], parsed.2.errors⟩ := by
  unfold ofText ofScan
  split
  · rfl
  · next some => exact absurd scanned some

/-- **Reading a text gives the tree as which its scan is accepted.** -/
theorem tree_ofText_eq_some_iff {tree : Expr} :
    (ofText text file settings true).tree = some tree ↔
      (Scan.ofText (file.getD settings.file) text.toList).Accepts settings.limit tree := by
  rw [Scan.accepts_iff]
  by_cases scanned : (Scan.ofText (file.getD settings.file) text.toList).errors = []
  · simp [ofText_of_scanned scanned, scanned]
  · simp [ofText_of_lexicalErrors scanned, scanned]

/-! ## Outcomes -/

/-- Reading gave a tree, and no error. -/
structure GivesTree (reading : Reading) : Prop where
  ok : reading.ok = true
  exists_tree : ∃ tree, reading.tree = some tree
  lexicalErrors : reading.lexicalErrors = []
  syntaxErrors : reading.syntaxErrors = []

/-- Reading gave the errors of a scan, of which there is at least one, in the order of the text. -/
structure GivesLexicalErrors (reading : Reading) (scan : Scan) : Prop where
  ok : reading.ok = false
  lexicalErrors : reading.lexicalErrors = scan.errors
  ne_nil : reading.lexicalErrors ≠ []
  ordered : reading.lexicalErrors.Pairwise fun first second =>
    first.location.offset < second.location.offset
  syntaxErrors : reading.syntaxErrors = []

/-- Reading gave one syntax error, and no lexical one. -/
structure GivesSyntaxError (reading : Reading) : Prop where
  ok : reading.ok = false
  lexicalErrors : reading.lexicalErrors = []
  exists_error : ∃ error, reading.syntaxErrors = [error]

/-- Reading what a scan found has exactly one of the three outcomes. -/
def HasOneOutcome (reading : Reading) (scan : Scan) : Prop :=
  (reading.GivesTree ∧ ¬ reading.GivesLexicalErrors scan ∧ ¬ reading.GivesSyntaxError) ∨
    (¬ reading.GivesTree ∧ reading.GivesLexicalErrors scan ∧ ¬ reading.GivesSyntaxError) ∨
      (¬ reading.GivesTree ∧ ¬ reading.GivesLexicalErrors scan ∧ reading.GivesSyntaxError)

section Outcomes

variable {reading : Reading} {scan : Scan}

theorem GivesTree.hasOneOutcome (gives : reading.GivesTree) : reading.HasOneOutcome scan := by
  refine .inl ⟨gives, fun other => ?_, fun other => ?_⟩
  · exact absurd gives.ok (by simp [other.ok])
  · exact absurd gives.ok (by simp [other.ok])

theorem GivesLexicalErrors.hasOneOutcome (gives : reading.GivesLexicalErrors scan) :
    reading.HasOneOutcome scan := by
  refine .inr (.inl ⟨fun other => ?_, gives, fun other => ?_⟩)
  · exact gives.ne_nil other.lexicalErrors
  · exact gives.ne_nil other.lexicalErrors

theorem GivesSyntaxError.hasOneOutcome (gives : reading.GivesSyntaxError) :
    reading.HasOneOutcome scan := by
  refine .inr (.inr ⟨fun other => ?_, fun other => ?_, gives⟩)
  · exact absurd other.ok (by simp [gives.ok])
  · exact other.ne_nil gives.lexicalErrors

end Outcomes

theorem hasOneOutcome_ofText (text : String) (file : Option String) (settings : Settings)
    (requireEnd : Bool) :
    (ofText text file settings requireEnd).HasOneOutcome
      (Scan.ofText (file.getD settings.file) text.toList) := by
  by_cases scanned : (Scan.ofText (file.getD settings.file) text.toList).errors = []
  · rw [ofText_of_scanned scanned]
    rcases (Parser.start (Scan.ofText (file.getD settings.file) text.toList).tokens
      settings.limit).errors_parseWhole_cases requireEnd with
      ⟨tree, returned, clean⟩ | ⟨error, failed, recorded⟩
    · exact GivesTree.hasOneOutcome ⟨by simp [ok, returned], ⟨tree, returned⟩, rfl, clean⟩
    · exact GivesSyntaxError.hasOneOutcome ⟨by simp [ok, failed], rfl, error, recorded⟩
  · rw [ofText_of_lexicalErrors scanned]
    exact GivesLexicalErrors.hasOneOutcome ⟨rfl, rfl, scanned, Scan.pairwise_errors _ _, rfl⟩

/-- **Reading a text has exactly one of three outcomes.** It gives a tree and no error, or the
errors of the scan in the order of the text, or one syntax error. Where the end is required a tree
is given exactly if it is given where the end is not required and every token is read for it. If
only the first of these fails, its one error is at the first token that is left; and if the second
fails, both give the same. -/
theorem ofText_has_one_outcome (text : String) (file : Option String) (settings : Settings) :
    let scan := Scan.ofText (file.getD settings.file) text.toList
    let behind := (Parser.start scan.tokens settings.limit).parse.2
    (∀ requireEnd, (ofText text file settings requireEnd).HasOneOutcome scan) ∧
    (∀ tree, (ofText text file settings true).tree = some tree ↔
      (ofText text file settings false).tree = some tree ∧
        behind.cursor = scan.tokens.body.length) ∧
    (∀ tree, (ofText text file settings false).tree = some tree →
      (ofText text file settings true).tree = none →
        behind.cursor < scan.tokens.body.length ∧
          ∃ error, ofText text file settings true = ⟨none, [], [error]⟩ ∧
            error.code = some "P004" ∧
              error.report.token = scan.tokens.get behind.cursor) ∧
    ((ofText text file settings false).tree = none →
      ofText text file settings true = ofText text file settings false) := by
  intro scan behind
  refine ⟨hasOneOutcome_ofText text file settings, ?_⟩
  by_cases scanned : scan.errors = []
  · obtain ⟨here, inside, atEnd⟩ :=
      Scan.atEnd_parse_iff (file.getD settings.file) text.toList settings.limit
    rw [ofText_of_scanned scanned, ofText_of_scanned scanned, Parser.parseWhole_false]
    refine ⟨fun tree => ?_, fun tree returned failed => ?_, fun failed => ?_⟩
    · rw [← atEnd]
      exact Parser.parseWhole_fst_eq_some_iff
    · have further : behind.atEnd = false := by
        refine Bool.eq_false_iff.mpr fun ended => ?_
        have whole := Parser.parseWhole_fst_eq_some_iff.mpr ⟨returned, ended⟩
        simp only [whole] at failed
        contradiction
      obtain ⟨none, recorded⟩ := Parser.parseWhole_of_left returned further
      refine ⟨Nat.lt_of_le_of_ne inside fun last => ?_,
        .atToken behind.current SyntaxError.endExpected, ?_, rfl, here⟩
      · rw [atEnd.mpr last] at further
        contradiction
      · simp only [none, recorded, behind, scan]
    · simp only [Parser.parseWhole_of_none failed]
  · rw [ofText_of_lexicalErrors scanned, ofText_of_lexicalErrors scanned]
    exact ⟨by simp, by simp, fun _ => rfl⟩

/-- The text `nil;` is read if its end is not required, and else the semicolon is an error. -/
theorem ofText_has_one_outcome_left :
    (ofText "nil;" none .standard false).tree = some (.literal .nil) ∧
      ∃ error, ofText "nil;" none .standard true = ⟨none, [], [error]⟩ ∧
        error.code = some "P004" ∧
          error.report.token = ⟨.semicolon, ";", .nil, ⟨Settings.unnamed, 1, 4, 3⟩⟩ := by
  let word : Token := ⟨.nilWord, "nil", .nil, ⟨Settings.unnamed, 1, 1, 0⟩⟩
  let mark : Token := ⟨.semicolon, ";", .nil, ⟨Settings.unnamed, 1, 4, 3⟩⟩
  have first : (Cursor.start "nil;".toList).skipTrivia.next? Settings.unnamed =
      some (.token word, ⟨⟨1, 4, 3⟩, [';']⟩) := rfl
  have second : (Cursor.skipTrivia ⟨⟨1, 4, 3⟩, [';']⟩).next? Settings.unnamed =
      some (.token mark, ⟨⟨1, 5, 4⟩, []⟩) := rfl
  have scanned : Scan.ofText Settings.unnamed "nil;".toList =
      ⟨⟨[word, mark], Token.endAt ⟨Settings.unnamed, 1, 5, 4⟩, rfl⟩, []⟩ := by
    rw [Scan.ofText, Cursor.scan_of_some first, Cursor.resume, Cursor.scan_of_some second,
      Cursor.resume, Cursor.scan_of_none rfl]
    rfl
  have read : (ofText "nil;" none .standard false).tree = some (.literal .nil) ∧
      (ofText "nil;" none .standard true).tree = none := by
    simp only [ofText, Option.getD_none, Settings.standard, scanned]
    exact ⟨rfl, rfl⟩
  obtain ⟨_, error, whole, code, token⟩ :=
    (ofText_has_one_outcome "nil;" none .standard).2.2.1 _ read.1 read.2
  refine ⟨read.1, error, whole, code, token.trans ?_⟩
  simp only [Option.getD_none, Settings.standard, scanned]
  rfl

end Reading
end Lox
