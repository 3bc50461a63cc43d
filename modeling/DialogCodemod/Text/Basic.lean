/-!
# Texts

A source text is a list of characters. This module fixes that view, the blanks that may separate
the tokens of one line, and the two questions that need no more than it: does a text start with a
given word, and does the word occur in it at all.
-/

namespace DialogCodemod

/-- A source text, character by character. -/
abbrev Text := List Char

/-- Blanks separate tokens without leaving the line: the space and the tab. -/
def isBlank (char : Char) : Bool :=
  char == ' ' || char == '\t'

@[simp] theorem isBlank_newline : isBlank '\n' = false := rfl

theorem isBlank_eq_true_iff {char : Char} : isBlank char = true ↔ char = ' ' ∨ char = '\t' := by
  simp [isBlank]

namespace Text

/-- What follows `word` at the start of a text, if the text starts with `word`. -/
def after? : (word text : Text) → Option Text
  | [], text => some text
  | _ :: _, [] => none
  | expected :: word, char :: text => if expected = char then after? word text else none

/-- `after?` cuts the word off and nothing else. -/
@[simp] theorem after?_eq_some_iff {word text rest : Text} :
    after? word text = some rest ↔ text = word ++ rest := by
  fun_induction after? word text with
  | case1 text => simp [eq_comm]
  | case2 => simp
  | case3 expected word text ih => simpa using ih
  | case4 expected word char text different =>
      simp only [reduceCtorEq, List.cons_append, List.cons.injEq, false_iff, not_and]
      intro same
      exact absurd same.symm different

@[simp] theorem after?_append (word rest : Text) : after? word (word ++ rest) = some rest := by
  simp

/-- Whether a word occurs in a text. The empty word occurs everywhere. -/
def mentions : (text word : Text) → Bool
  | [], word => word.isEmpty
  | char :: text, word => (after? word (char :: text)).isSome || mentions text word

/-- A text mentions exactly the words that are stretches of it. -/
theorem mentions_eq_true_iff {text word : Text} :
    text.mentions word = true ↔ ∃ before after, text = before ++ word ++ after := by
  induction text with
  | nil => simp [mentions]
  | cons char text ih =>
      simp only [mentions, Bool.or_eq_true, Option.isSome_iff_exists, after?_eq_some_iff, ih]
      constructor
      · rintro (⟨after, here⟩ | ⟨before, after, later⟩)
        · exact ⟨[], after, by simpa using here⟩
        · exact ⟨char :: before, after, by simp [later]⟩
      · rintro ⟨before, after, split⟩
        cases before with
        | nil => exact .inl ⟨after, by simpa using split⟩
        | cons first before =>
            simp only [List.cons_append, List.cons.injEq] at split
            exact .inr ⟨before, after, split.2⟩

end Text

end DialogCodemod
