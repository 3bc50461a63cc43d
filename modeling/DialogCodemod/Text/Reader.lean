import DialogCodemod.Text.Basic

/-!
# Readers

A reader takes a piece of syntax off the start of a text. It yields what it read together with the
rest of the text, or fails. The lemmas of this module say for each elementary reader exactly when
it succeeds: the input is what was read, in its written form, followed by the rest.
-/

namespace DialogCodemod

/-- A reader of pieces of syntax at the start of a text. -/
abbrev Reader := StateT Text Option

/-- No character of the class starts the text: a longest stretch of the class ends here. -/
def Stops (accepts : Char → Bool) (rest : Text) : Prop :=
  ∀ char ∈ rest.head?, accepts char = false

@[simp] theorem stops_nil (accepts : Char → Bool) : Stops accepts [] := by
  simp [Stops]

@[simp] theorem stops_cons {accepts : Char → Bool} {char : Char} {rest : Text} :
    Stops accepts (char :: rest) ↔ accepts char = false := by
  simp [Stops]

namespace Reader

/-- Read exactly the given word. -/
def word (expected : Text) : Reader Unit :=
  fun input => (Text.after? expected input).map fun rest => ((), rest)

/-- Read one character of a class. -/
def char (accepts : Char → Bool) : Reader Char
  | [] => none
  | first :: rest => if accepts first then some (first, rest) else none

/-- Read the longest stretch of characters of a class, which may be empty. -/
def stretch (accepts : Char → Bool) : Reader Text :=
  fun input => some (input.takeWhile accepts, input.dropWhile accepts)

/-- Read the blanks up to the next token, if any. -/
def blanks : Reader Text :=
  stretch isBlank

/-- Read at least one blank. -/
def someBlanks : Reader Text := do
  let first ← char isBlank
  let more ← blanks
  pure (first :: more)

/-- Read a piece if it is there, and nothing if it is not. -/
def option {α : Type} (reader : Reader α) : Reader (Option α) :=
  fun input =>
    match reader.run input with
    | some (value, rest) => some (some value, rest)
    | none => some (none, input)

/-- Reading two pieces in a row: the second starts where the first has ended. -/
theorem run_bind_eq_some_iff {α β : Type} {first : Reader α} {second : α → Reader β}
    {input rest : Text} {value : β} :
    (first >>= second).run input = some (value, rest) ↔
      ∃ piece middle, first.run input = some (piece, middle) ∧
        (second piece).run middle = some (value, rest) := by
  simp only [StateT.run_bind, Option.bind_eq_bind, Option.bind_eq_some_iff, Prod.exists]

theorem run_pure_eq_some_iff {α : Type} {given value : α} {input rest : Text} :
    (pure given : Reader α).run input = some (value, rest) ↔ given = value ∧ input = rest := by
  simp only [StateT.run_pure, Option.pure_def, Option.some.injEq, Prod.mk.injEq]

@[simp] theorem run_word_eq_some_iff {expected input rest : Text} {value : Unit} :
    (word expected).run input = some (value, rest) ↔ input = expected ++ rest := by
  simp [word, StateT.run]

@[simp] theorem run_char_eq_some_iff {accepts : Char → Bool} {input rest : Text} {read : Char} :
    (char accepts).run input = some (read, rest) ↔
      input = read :: rest ∧ accepts read = true := by
  cases input with
  | nil => simp [char, StateT.run]
  | cons first later =>
      by_cases accepted : accepts first = true
      · simp only [char, StateT.run, accepted, if_true, Option.some.injEq, Prod.mk.injEq,
          List.cons.injEq]
        constructor
        · rintro ⟨rfl, rfl⟩
          exact ⟨⟨rfl, rfl⟩, accepted⟩
        · rintro ⟨⟨rfl, rfl⟩, _⟩
          exact ⟨rfl, rfl⟩
      · simp only [char, StateT.run, accepted, if_false, reduceCtorEq, List.cons.injEq, false_iff]
        rintro ⟨⟨rfl, rfl⟩, holds⟩
        exact accepted holds

@[simp] theorem run_option_eq_some_some_iff {α : Type} {reader : Reader α} {input rest : Text}
    {value : α} :
    (option reader).run input = some (some value, rest) ↔
      reader.run input = some (value, rest) := by
  simp only [option, StateT.run]
  split <;> simp_all

@[simp] theorem run_option_eq_some_none_iff {α : Type} {reader : Reader α} {input rest : Text} :
    (option reader).run input = some (none, rest) ↔
      reader.run input = none ∧ input = rest := by
  simp only [option, StateT.run]
  split <;> simp_all

/-- A stretch ends where the class ends. -/
@[simp] theorem run_stretch_eq_some_iff {accepts : Char → Bool} {input taken rest : Text} :
    (stretch accepts).run input = some (taken, rest) ↔
      input = taken ++ rest ∧ (∀ char ∈ taken, accepts char = true) ∧ Stops accepts rest := by
  simp only [stretch, StateT.run, Option.some.injEq, Prod.mk.injEq]
  induction input generalizing taken with
  | nil =>
      constructor
      · rintro ⟨rfl, rfl⟩
        simp
      · rintro ⟨split, _⟩
        have empty := List.append_eq_nil_iff.1 split.symm
        simp [empty]
  | cons first later ih =>
      by_cases accepted : accepts first = true
      · simp only [List.takeWhile_cons, List.dropWhile_cons, accepted, if_true]
        constructor
        · rintro ⟨rfl, dropped⟩
          have longest := ih.1 ⟨rfl, dropped⟩
          refine ⟨by simpa using longest.1, ?_, longest.2.2⟩
          simpa [accepted] using longest.2.1
        · rintro ⟨split, all, stops⟩
          cases taken with
          | nil =>
              simp only [List.nil_append] at split
              subst split
              simp [accepted] at stops
          | cons head taken =>
              simp only [List.cons_append, List.cons.injEq] at split
              have tail := ih.2 ⟨split.2, fun char member => all char (by simp [member]), stops⟩
              exact ⟨by rw [split.1, tail.1], tail.2⟩
      · simp only [List.takeWhile_cons, List.dropWhile_cons, accepted]
        constructor
        · rintro ⟨rfl, rfl⟩
          simpa using accepted
        · rintro ⟨split, all, _⟩
          cases taken with
          | nil => exact ⟨rfl, split⟩
          | cons head taken =>
              simp only [List.cons_append, List.cons.injEq] at split
              exact absurd (split.1 ▸ all head (by simp)) accepted

@[simp] theorem run_blanks_eq_some_iff {input taken rest : Text} :
    blanks.run input = some (taken, rest) ↔
      input = taken ++ rest ∧ (∀ char ∈ taken, isBlank char = true) ∧ Stops isBlank rest :=
  run_stretch_eq_some_iff

@[simp] theorem run_someBlanks_eq_some_iff {input taken rest : Text} :
    someBlanks.run input = some (taken, rest) ↔
      input = taken ++ rest ∧ taken ≠ [] ∧ (∀ char ∈ taken, isBlank char = true) ∧
        Stops isBlank rest := by
  simp only [someBlanks, run_bind_eq_some_iff, run_pure_eq_some_iff,
    run_char_eq_some_iff, run_blanks_eq_some_iff]
  constructor
  · rintro ⟨first, _, ⟨rfl, blank⟩, more, _, ⟨rfl, all, stops⟩, rfl, rfl⟩
    exact ⟨rfl, by simp, by simpa [blank] using all, stops⟩
  · rintro ⟨rfl, nonempty, all, stops⟩
    cases taken with
    | nil => exact absurd rfl nonempty
    | cons first more =>
        simp only [List.mem_cons, forall_eq_or_imp] at all
        exact ⟨first, more ++ rest, ⟨rfl, all.1⟩, more, rest, ⟨rfl, all.2, stops⟩, rfl, rfl⟩

end Reader

end DialogCodemod
