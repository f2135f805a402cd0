import Lox.Scan.Grammar
import Lox.Scan.Trivia

/-!
# What a cursor passes

A cursor that moves on leaves a text behind it (`Cursor.Passes`). What it passes when it skips
trivia is trivia, in which every comment is ended, unless the cursor is then at the end of the text
(`Cursor.exists_passes_skipTrivia`).
-/

set_option autoImplicit false

namespace Lox

/-! ## Offsets -/

@[simp]
theorem Position.offset_next (position : Position) (c : Char) :
    (position.next c).offset = position.offset + 1 := by
  unfold Position.next
  split <;> rfl

/-- A text moves the offset by its length. -/
@[simp]
theorem Position.offset_after (position : Position) (text : List Char) :
    (position.after text).offset = position.offset + text.length := by
  induction text generalizing position with
  | nil => rfl
  | cons c text ih =>
    rw [Position.after_cons, ih, Position.offset_next, List.length_cons]
    omega

/-! ## Passing a text -/

/-- A cursor moves on over a text that stands at its front. -/
structure Cursor.Passes (cursor : Cursor) (text : List Char) (next : Cursor) : Prop where
  rest_eq : cursor.rest = text ++ next.rest
  position_eq : next.position = cursor.position.after text

namespace Cursor.Passes

variable {cursor middle next : Cursor} {text first second : List Char}

theorem refl (cursor : Cursor) : cursor.Passes [] cursor := ⟨rfl, rfl⟩

theorem trans (before : cursor.Passes first middle) (behind : middle.Passes second next) :
    cursor.Passes (first ++ second) next where
  rest_eq := by rw [before.rest_eq, behind.rest_eq, List.append_assoc]
  position_eq := by rw [behind.position_eq, before.position_eq, Position.after_append]

theorem past {rest : List Char} (whole : cursor.rest = text ++ rest) :
    cursor.Passes text (cursor.past text rest) :=
  ⟨whole, rfl⟩

end Cursor.Passes

/-! ## Trivia -/

/-- Trivia in front of a text: only at the end may the last comment go without a line feed. -/
def IsTriviaBefore (rest gap : List Char) : Prop :=
  if rest = [] then IsFinalTrivia gap else IsTrivia gap

theorem IsTrivia.before {gap : List Char} (trivia : IsTrivia gap) (rest : List Char) :
    IsTriviaBefore rest gap := by
  unfold IsTriviaBefore
  split
  · exact .ended trivia
  · exact trivia

theorem IsTriviaBefore.final {gap : List Char} (trivia : IsTriviaBefore [] gap) :
    IsFinalTrivia gap := by
  rwa [IsTriviaBefore, if_pos rfl] at trivia

theorem IsTriviaBefore.ended {rest gap : List Char} (trivia : IsTriviaBefore rest gap)
    (further : rest ≠ []) : IsTrivia gap := by
  rwa [IsTriviaBefore, if_neg further] at trivia

/-- Trivia in front of trivia is trivia. -/
theorem IsTriviaBefore.prepend {rest first second : List Char} (trivia : IsTrivia first)
    (behind : IsTriviaBefore rest second) : IsTriviaBefore rest (first ++ second) := by
  unfold IsTriviaBefore at behind ⊢
  split
  · next atEnd =>
    rw [if_pos atEnd] at behind
    cases behind with
    | ended ended => exact .ended (trivia.append ended)
    | unended before open_ =>
      rw [← List.append_assoc]
      exact .unended (trivia.append before) open_
  · next further =>
    rw [if_neg further] at behind
    exact trivia.append behind

/-- Two slashes begin a comment. -/
theorem skipTriviaFrom_slashes (position : Position) (text : List Char) :
    skipTriviaFrom false position ('/' :: '/' :: text) =
      skipTriviaFrom true (position.after ['/', '/']) text := by
  have blank : Text.isBlank '/' = false := by decide
  simp [skipTriviaFrom, blank]

/-- A comment without a line feed runs to the end of the text. -/
theorem skipTriviaFrom_unended (position : Position) {comment : List Char}
    (unended : '\n' ∉ comment) :
    skipTriviaFrom true position comment = ⟨position.after comment, []⟩ := by
  induction comment generalizing position with
  | nil => rfl
  | cons c comment ih =>
    obtain ⟨other, inside⟩ := List.ne_and_not_mem_of_not_mem_cons unended
    rw [skipTriviaFrom, if_pos rfl, bne_iff_ne.mpr other.symm, ih _ inside, Position.after_cons]

/-- A comment runs to the line feed behind it, which is skipped too. -/
theorem skipTriviaFrom_line (position : Position) {comment : List Char}
    (inside : '\n' ∉ comment) (rest : List Char) :
    skipTriviaFrom true position (comment ++ '\n' :: rest) =
      skipTriviaFrom false (position.after (comment ++ ['\n'])) rest := by
  induction comment generalizing position with
  | nil => rfl
  | cons c comment ih =>
    obtain ⟨other, inside⟩ := List.ne_and_not_mem_of_not_mem_cons inside
    rw [List.cons_append, skipTriviaFrom, if_pos rfl, bne_iff_ne.mpr other.symm, ih _ inside]
    rfl

/-- A comment runs to the end of its line, or to the end of the text. -/
theorem skipTriviaFrom_comment (position : Position) (text : List Char) :
    ('\n' ∉ text ∧ skipTriviaFrom true position text = ⟨position.after text, []⟩) ∨
      ∃ comment rest, text = comment ++ '\n' :: rest ∧ '\n' ∉ comment ∧
        skipTriviaFrom true position text =
          skipTriviaFrom false (position.after (comment ++ ['\n'])) rest := by
  by_cases ends : '\n' ∈ text
  · obtain ⟨comment, rest, rfl, inside⟩ := List.eq_append_cons_of_mem ends
    exact .inr ⟨comment, rest, rfl, inside, skipTriviaFrom_line position inside rest⟩
  · exact .inl ⟨ends, skipTriviaFrom_unended position ends⟩

/-- What is skipped in front of a text is trivia. -/
theorem exists_passes_skipTriviaFrom (position : Position) (text : List Char) :
    ∃ gap, Cursor.Passes ⟨position, text⟩ gap (skipTriviaFrom false position text) ∧
      IsTriviaBefore (skipTriviaFrom false position text).rest gap := by
  -- A comment is skipped as a whole, so the recursion is on the length of the text.
  match text with
  | [] => exact ⟨[], .refl _, IsTrivia.nil.before _⟩
  | c :: rest =>
    by_cases blank : Text.isBlank c = true
    · have skips : skipTriviaFrom false position (c :: rest) =
          skipTriviaFrom false (position.next c) rest := by
        simp [skipTriviaFrom, blank]
      obtain ⟨gap, passes, trivia⟩ := exists_passes_skipTriviaFrom (position.next c) rest
      rw [skips]
      refine ⟨[c] ++ gap, .trans (.past rfl) passes, ?_⟩
      exact .prepend (.blank blank .nil) trivia
    · by_cases slashes : c = '/' ∧ rest.head? = some '/'
      · obtain ⟨rfl, second⟩ := slashes
        obtain ⟨body, rfl⟩ := List.head?_eq_some_iff.mp second
        rw [skipTriviaFrom_slashes]
        rcases skipTriviaFrom_comment (position.after ['/', '/']) body with
          ⟨unended, stops⟩ | ⟨comment, further, rfl, unended, goesOn⟩
        · rw [stops]
          refine ⟨'/' :: '/' :: body, ⟨by simp, rfl⟩, ?_⟩
          exact IsFinalTrivia.unended .nil unended
        · rw [goesOn]
          obtain ⟨gap, passes, trivia⟩ := exists_passes_skipTriviaFrom
            ((position.after ['/', '/']).after (comment ++ ['\n'])) further
          have closed : IsTrivia ('/' :: '/' :: comment ++ ['\n']) := .comment unended .nil
          refine ⟨'/' :: '/' :: comment ++ ['\n'] ++ gap, .trans ⟨by simp, ?_⟩ passes,
            .prepend closed trivia⟩
          rw [← Position.after_append]
          rfl
      · have stays : skipTriviaFrom false position (c :: rest) = ⟨position, c :: rest⟩ := by
          simp [skipTriviaFrom, blank, slashes]
        rw [stays]
        exact ⟨[], .refl _, IsTrivia.nil.before _⟩
termination_by text.length

/-- **What a cursor skips is trivia.** -/
theorem Cursor.exists_passes_skipTrivia (cursor : Cursor) :
    ∃ gap, cursor.Passes gap cursor.skipTrivia ∧ IsTriviaBefore cursor.skipTrivia.rest gap :=
  exists_passes_skipTriviaFrom cursor.position cursor.rest

end Lox
