import DialogCodemod.Text.Reader

/-!
# String literals

A literal in single or double quotes that begins and ends on one line. Reading accepts exactly the
well-formed literals and leaves the rest of the text untouched.
-/

namespace DialogCodemod

/-- The quotes of a string literal. -/
inductive Quote where
  | single
  | double
  deriving DecidableEq, Repr

namespace Quote

/-- The character that opens and closes a literal. -/
def char : Quote → Char
  | .single => '\x27'
  | .double => '\x22'

/-- The quote a character is, if it is one. -/
def ofChar? (char : Char) : Option Quote :=
  if char = '\x27' then some .single
  else if char = '\x22' then some .double
  else none

@[simp] theorem ofChar?_eq_some_iff {char : Char} {quote : Quote} :
    ofChar? char = some quote ↔ char = quote.char := by
  cases quote <;> grind [ofChar?, Quote.char]

/-- Read either quote. -/
def read : Reader Quote
  | [] => none
  | first :: rest => (ofChar? first).map fun quote => (quote, rest)

@[simp] theorem run_read_eq_some_iff {input rest : Text} {quote : Quote} :
    read.run input = some (quote, rest) ↔ input = quote.char :: rest := by
  cases input with
  | nil => simp [read, StateT.run]
  | cons first later =>
      simp only [read, StateT.run, Option.map_eq_some_iff, ofChar?_eq_some_iff, Prod.mk.injEq,
        List.cons.injEq]
      constructor
      · rintro ⟨found, rfl, rfl, rfl⟩
        exact ⟨rfl, rfl⟩
      · rintro ⟨rfl, rfl⟩
        exact ⟨quote, rfl, rfl, rfl⟩

end Quote

/-- A string literal on one line. A backslash has no meaning of its own in it. -/
structure Literal where
  quote : Quote
  body : Text
  deriving DecidableEq, Repr

namespace Literal

/-- Whether a character may stand inside a literal with the given quotes. -/
def allows (quote : Quote) (char : Char) : Bool :=
  char != quote.char && char != '\n'

/-- The literal as written. -/
def source (literal : Literal) : Text :=
  literal.quote.char :: (literal.body ++ [literal.quote.char])

/-- The body has neither the literal's own quote nor a newline. -/
def WellFormed (literal : Literal) : Prop :=
  ∀ char ∈ literal.body, allows literal.quote char = true

/-- Read a literal. -/
def read : Reader Literal := do
  let quote ← Quote.read
  let body ← Reader.stretch (allows quote)
  Reader.word [quote.char]
  pure { quote, body }

/-- Reading accepts exactly the well-formed literals. -/
@[simp] theorem run_read_eq_some_iff {input rest : Text} {literal : Literal} :
    read.run input = some (literal, rest) ↔
      input = literal.source ++ rest ∧ literal.WellFormed := by
  simp only [read, Reader.run_bind_eq_some_iff, Reader.run_pure_eq_some_iff,
    Quote.run_read_eq_some_iff, Reader.run_stretch_eq_some_iff, Reader.run_word_eq_some_iff]
  constructor
  · rintro ⟨quote, _, rfl, body, _, ⟨rfl, allowed, _⟩, _, _, rfl, rfl, rfl⟩
    exact ⟨by simp [source], allowed⟩
  · rintro ⟨rfl, wellFormed⟩
    exact ⟨literal.quote, literal.body ++ (literal.quote.char :: rest), by simp [source],
      literal.body, literal.quote.char :: rest, ⟨rfl, wellFormed, by simp [allows]⟩,
      (), rest, rfl, rfl, rfl⟩

end Literal

end DialogCodemod
