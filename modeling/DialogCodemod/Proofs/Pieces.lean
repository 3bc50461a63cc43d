import DialogCodemod.Proofs.Scan

/-!
# Pieces of a text

A text is cut after each of its boundary characters. Dialog calls open with whole pieces: `alert(`
is one, and so is `window.alert(`, while the end of `customAlert(` is none. What a rule does to a
text can therefore be followed piece by piece, and counting pieces of a kind turns into adding up
over the parts of the text.
-/

namespace DialogCodemod

namespace Text

/-- Cut a text after each of its boundary characters. -/
def pieces : Text → List Text
  | [] => []
  | char :: rest =>
      if isBoundary char then [char] :: pieces rest
      else
        match pieces rest with
        | [] => [[char]]
        | piece :: later => (char :: piece) :: later

/-- Nothing is lost by cutting. -/
@[simp] theorem flatten_pieces (text : Text) : text.pieces.flatten = text := by
  induction text with
  | nil => rfl
  | cons char rest ih =>
      rw [pieces]
      split
      · simp [ih]
      · split
        next empty =>
          rw [empty] at ih
          simp [← ih]
        next piece later found =>
          rw [found] at ih
          simp [← ih]

@[simp] theorem pieces_eq_nil_iff {text : Text} : text.pieces = [] ↔ text = [] := by
  constructor
  · intro empty
    rw [← flatten_pieces text, empty]
    rfl
  · intro empty
    rw [empty]
    rfl

/-- The pieces of a text that ends at a boundary are not touched by what follows. -/
theorem pieces_append {text : Text} (ends : EndsAtBoundary text) (later : Text) :
    (text ++ later).pieces = text.pieces ++ later.pieces := by
  induction text with
  | nil => rfl
  | cons char rest ih =>
      cases rest with
      | nil =>
          have boundary : isBoundary char = true := ends char rfl
          simp [pieces, boundary]
      | cons next rest =>
          have appended := ih ends
          rw [List.cons_append, pieces, appended]
          conv => rhs; rw [pieces]
          cases found : pieces (next :: rest) with
          | nil => simp at found
          | cons piece others => split <;> simp

/-- A word without boundary characters, checked letter by letter. -/
theorem isBoundary_eq_false_of_all {word : Text}
    (checked : (word.all fun char => !isBoundary char) = true) :
    ∀ char ∈ word, isBoundary char = false := by
  intro char member
  simpa using List.all_eq_true.1 checked char member

/-- A word and the boundary after it are one piece. -/
theorem pieces_word_append {word : Text} (letters : ∀ char ∈ word, isBoundary char = false)
    {char : Char} (boundary : isBoundary char = true) (later : Text) :
    (word ++ char :: later).pieces = (word ++ [char]) :: later.pieces := by
  induction word with
  | nil => simp [pieces, boundary]
  | cons first word ih =>
      have rest := ih fun char member => letters char (List.mem_cons_of_mem _ member)
      simp [pieces, rest, letters first]

end Text

namespace Dialog

/-- Whether a piece opens a call of the dialog. -/
def isOpening (dialog : Dialog) (piece : Text) : Bool :=
  piece == dialog.opening || piece == windowAccess ++ dialog.opening

theorem isOpening_eq_true_iff {dialog : Dialog} {piece : Text} :
    dialog.isOpening piece = true ↔
      piece = dialog.opening ∨ piece = windowAccess ++ dialog.opening := by
  simp [isOpening]

/-- Either way to open a call is one piece of the text. -/
theorem pieces_opening_append (dialog : Dialog) (viaWindow : Bool) (later : Text) :
    (accessSource viaWindow ++ dialog.opening ++ later).pieces =
      (accessSource viaWindow ++ dialog.opening) :: later.pieces := by
  have letters (word : Text) (checked : (word.all fun char => !isBoundary char) = true) :
      (word ++ '(' :: later).pieces = (word ++ ['(']) :: later.pieces :=
    Text.pieces_word_append (Text.isBoundary_eq_false_of_all checked) rfl later
  cases dialog with
  | alert =>
      cases viaWindow
      · exact letters "alert".toList (by decide)
      · exact letters "window.alert".toList (by decide)
  | confirm =>
      cases viaWindow
      · exact letters "confirm".toList (by decide)
      · exact letters "window.confirm".toList (by decide)

/-- A call opens at the start of a text exactly when its first piece is an opening. -/
theorem opensAt_eq_any_head? (dialog : Dialog) (text : Text) :
    dialog.opensAt text = text.pieces.head?.any dialog.isOpening := by
  rw [Bool.eq_iff_iff, opensAt, Bool.or_eq_true, Option.isSome_iff_exists,
    Option.isSome_iff_exists]
  simp only [Text.after?_eq_some_iff, Option.any_eq_true, isOpening_eq_true_iff]
  constructor
  · rintro (⟨rest, rfl⟩ | ⟨rest, rfl⟩)
    · exact ⟨dialog.opening, congrArg List.head? (dialog.pieces_opening_append false rest), .inl rfl⟩
    · exact ⟨_, congrArg List.head? (dialog.pieces_opening_append true rest), .inr rfl⟩
  · rintro ⟨piece, first, opening⟩
    obtain ⟨later, split⟩ := List.head?_eq_some_iff.1 first
    have parts : text = piece ++ later.flatten := by
      rw [← Text.flatten_pieces text, split]
      rfl
    rcases opening with rfl | rfl
    · exact .inl ⟨later.flatten, parts⟩
    · exact .inr ⟨later.flatten, parts⟩

/-- The number of calls of the dialog that open after a boundary character of the text. -/
def callsAfterBoundary (dialog : Dialog) : Text → Nat
  | [] => 0
  | char :: rest =>
      dialog.callsAfterBoundary rest + (isBoundary char && dialog.opensAt rest).toNat

/-- The number of calls of the dialog in a text: those that the text opens at its start or after a
boundary. -/
def callCount (dialog : Dialog) (text : Text) : Nat :=
  dialog.callsAfterBoundary text + (dialog.opensAt text).toNat

/-- A dialog occurs in a text that has a call of it. -/
theorem occursIn_eq_true_iff {dialog : Dialog} {text : Text} :
    dialog.occursIn text = true ↔ 0 < dialog.callCount text := by
  have later : dialog.opensAfterBoundary text = true ↔ 0 < dialog.callsAfterBoundary text := by
    induction text with
    | nil => simp [opensAfterBoundary, callsAfterBoundary]
    | cons char rest ih =>
        rw [opensAfterBoundary, callsAfterBoundary, Bool.or_eq_true, ih]
        cases isBoundary char && dialog.opensAt rest <;> simp
  rw [occursIn, callCount, Bool.or_eq_true, later]
  cases dialog.opensAt text <;> simp

/-- The calls of a text are the pieces that open a call. -/
theorem callCount_eq_countP (dialog : Dialog) (text : Text) :
    dialog.callCount text = text.pieces.countP dialog.isOpening := by
  have tail : dialog.callsAfterBoundary text = text.pieces.tail.countP dialog.isOpening := by
    induction text with
    | nil => rfl
    | cons char rest ih =>
        rw [callsAfterBoundary, ih, opensAt_eq_any_head?, Text.pieces]
        cases Text.pieces rest with
        | nil => cases isBoundary char <;> rfl
        | cons piece later =>
            cases isBoundary char
            · simp
            · cases opens : dialog.isOpening piece <;> simp [opens]
  rw [callCount, tail, opensAt_eq_any_head?]
  cases text.pieces with
  | nil => rfl
  | cons piece later =>
      cases opens : dialog.isOpening piece <;> simp [opens]

end Dialog

end DialogCodemod
