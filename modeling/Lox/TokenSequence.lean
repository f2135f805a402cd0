import Lox.Token

/-!
# Token sequences

A parser reads a sequence of tokens that ends with the mark of the end. The mark may also
stand earlier; reading never goes past the first one. The last token is kept apart from the
others, so a sequence always has it.
-/

set_option autoImplicit false

namespace Lox

/-- A sequence of tokens whose last one marks the end. -/
structure TokenSequence where
  body : List Token
  stop : Token
  stop_isEnd : stop.isEnd = true

/-- Why a list of tokens is not a token sequence. -/
inductive TokenSequence.Defect
  | empty
  | unfinished
  deriving DecidableEq

/-- The defect in words. -/
def TokenSequence.Defect.message : TokenSequence.Defect → String
  | .empty => "token sequence must not be empty"
  | .unfinished => "token sequence must end with an EOF token"

namespace TokenSequence

/-- The tokens as a list. -/
def toList (tokens : TokenSequence) : List Token := tokens.body ++ [tokens.stop]

/-- The list as a token sequence, if its last token marks the end. -/
def ofList (tokens : List Token) : Except Defect TokenSequence :=
  match tokens.getLast? with
  | none => .error .empty
  | some stop =>
    if stop_isEnd : stop.isEnd = true then .ok ⟨tokens.dropLast, stop, stop_isEnd⟩
    else .error .unfinished

/-- The token at an index; behind the sequence the last token repeats. -/
def get (tokens : TokenSequence) (index : Nat) : Token := tokens.body[index]?.getD tokens.stop

/-- The tokens before the last, from an index on. -/
def bodyFrom (tokens : TokenSequence) (index : Nat) : List Token := tokens.body.drop index

theorem length_toList (tokens : TokenSequence) :
    tokens.toList.length = tokens.body.length + 1 := by
  simp [toList]

theorem getElem?_toList (tokens : TokenSequence) {index : Nat}
    (inside : index ≤ tokens.body.length) : tokens.toList[index]? = some (tokens.get index) := by
  rcases Nat.lt_or_eq_of_le inside with before | rfl
  · rw [toList, List.getElem?_append_left before]
    simp [get, before]
  · simp [toList, get]

/-- What stands in front of a token, from an index on, ends before the last token or at it. -/
theorem add_length_le_of_drop_eq {tokens : TokenSequence} {start : Nat} {token : Token}
    {first second : List Token} (whole : tokens.toList.drop start = first ++ token :: second) :
    start + first.length ≤ tokens.body.length := by
  have size := congrArg List.length whole
  rw [List.length_drop, length_toList, List.length_append, List.length_cons] at size
  omega

theorem length_le_of_toList_eq {tokens : TokenSequence} {token : Token}
    {first second : List Token} (whole : tokens.toList = first ++ token :: second) :
    first.length ≤ tokens.body.length := by
  have whole : tokens.toList.drop 0 = first ++ token :: second := whole
  simpa using add_length_le_of_drop_eq whole

/-- The token at the end of a part of the sequence is the first one of the rest. -/
theorem get_of_toList_eq {tokens : TokenSequence} {token : Token} {first second : List Token}
    (whole : tokens.toList = first ++ token :: second) : tokens.get first.length = token := by
  have found := tokens.getElem?_toList (length_le_of_toList_eq whole)
  rw [whole, List.getElem?_append_right (Nat.le_refl _), Nat.sub_self] at found
  exact (Option.some.inj found).symm

/-- The sequence splits at every index before its end. -/
theorem exists_toList_eq (tokens : TokenSequence) {index : Nat}
    (inside : index ≤ tokens.body.length) :
    ∃ second, tokens.toList = tokens.toList.take index ++ tokens.get index :: second := by
  have bound : index < tokens.toList.length := by
    rw [length_toList]
    omega
  have here := tokens.getElem?_toList inside
  rw [List.getElem?_eq_getElem bound, Option.some.injEq] at here
  refine ⟨tokens.toList.drop (index + 1), ?_⟩
  rw [← here, ← List.drop_eq_getElem_cons bound, List.take_append_drop]

/-- What is left behind an index ends with the last token. -/
theorem bodyFrom_append_stop (tokens : TokenSequence) {index : Nat}
    (inside : index ≤ tokens.body.length) :
    tokens.bodyFrom index ++ [tokens.stop] = tokens.toList.drop index := by
  rw [bodyFrom, toList, List.drop_append_of_le_length inside]

/-- The tokens at the indices of a part of the sequence are those of the part. -/
theorem get_mem_of_drop_eq {tokens : TokenSequence} {start index : Nat}
    {first second : List Token} (whole : tokens.toList.drop start = first ++ second)
    (lower : start ≤ index) (upper : index < start + first.length) :
    tokens.get index ∈ first := by
  obtain ⟨offset, rfl⟩ := Nat.exists_eq_add_of_le lower
  have inFirst : offset < first.length := by omega
  have size := congrArg List.length whole
  rw [List.length_drop, List.length_append, length_toList] at size
  have found := tokens.getElem?_toList (by omega : start + offset ≤ tokens.body.length)
  rw [← List.getElem?_drop, whole, List.getElem?_append_left inFirst] at found
  exact List.mem_of_getElem? found

end TokenSequence
end Lox
