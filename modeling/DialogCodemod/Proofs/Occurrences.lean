import DialogCodemod.Proofs.PieceCount

/-!
# Occurrences of a word

How often a word stands in a text, at whatever place. A character that the word does not have
separates the occurrences before it from those after it. Each dialog call is an occurrence of the
dialog's opening, while an opening at the end of a longer name is no call.
-/

namespace DialogCodemod

namespace Text

/-- The number of places at which a word stands in a text. -/
def occurrences : (text word : Text) → Nat
  | [], _ => 0
  | char :: text, word => occurrences text word + (after? word (char :: text)).isSome.toNat

/-- A word is mentioned when it occurs. -/
theorem mentions_eq_true_iff_occurrences {word : Text} (nonempty : word ≠ []) {text : Text} :
    text.mentions word = true ↔ 0 < text.occurrences word := by
  induction text with
  | nil => simp [mentions, occurrences, nonempty]
  | cons char rest ih =>
      rw [mentions, occurrences, Bool.or_eq_true, ih]
      cases (after? word (char :: rest)).isSome <;> simp

theorem isSome_after?_append {word text : Text} (starts : (after? word text).isSome = true)
    (later : Text) : (after? word (text ++ later)).isSome = true := by
  obtain ⟨rest, found⟩ := Option.isSome_iff_exists.1 starts
  rw [after?_eq_some_iff.1 found, List.append_assoc, after?_append]
  rfl

/-- A word without the separator stands before it or not at all. -/
theorem isSome_after?_append_cons {word : Text} {separator : Char} (absent : separator ∉ word)
    (text later : Text) :
    (after? word (text ++ separator :: later)).isSome = (after? word text).isSome := by
  rw [Bool.eq_iff_iff]
  constructor
  · intro starts
    obtain ⟨rest, found⟩ := Option.isSome_iff_exists.1 starts
    obtain ⟨remaining, split, _⟩ := exists_append_of_notMem absent (after?_eq_some_iff.1 found)
    rw [split, after?_append]
    rfl
  · intro starts
    exact isSome_after?_append starts (separator :: later)

theorem occurrences_append_cons {word : Text} (nonempty : word ≠ []) {separator : Char}
    (absent : separator ∉ word) (text later : Text) :
    (text ++ separator :: later).occurrences word =
      text.occurrences word + later.occurrences word := by
  induction text with
  | nil =>
      have missing : (after? word (separator :: later)).isSome = (after? word []).isSome :=
        isSome_after?_append_cons absent [] later
      cases word with
      | nil => exact absurd rfl nonempty
      | cons first word => simpa [after?, occurrences] using missing
  | cons char text ih =>
      have here := isSome_after?_append_cons absent (char :: text) later
      rw [List.cons_append] at here ⊢
      rw [occurrences, ih, here, occurrences]
      omega

theorem occurrences_append_of_completeLines {word : Text} (nonempty : word ≠ [])
    (newline : '\n' ∉ word) {lines : Text} (complete : CompleteLines lines) (later : Text) :
    (lines ++ later).occurrences word = lines.occurrences word + later.occurrences word := by
  rcases complete.eq_nil_or_concat with rfl | ⟨front, rfl⟩
  · simp [occurrences]
  · rw [List.append_assoc, List.cons_append, occurrences_append_cons nonempty newline,
      occurrences_append_cons nonempty newline]
    simp [occurrences]

/-- Putting texts together loses no occurrence. -/
theorem occurrences_add_le_occurrences_append (word text later : Text) :
    text.occurrences word + later.occurrences word ≤ (text ++ later).occurrences word := by
  induction text with
  | nil => simp [occurrences]
  | cons char text ih =>
      rw [List.cons_append, occurrences, occurrences]
      cases starts : (after? word (char :: text)).isSome with
      | false =>
          rw [Bool.toNat_false]
          omega
      | true =>
          have still := isSome_after?_append starts later
          rw [List.cons_append] at still
          rw [still]
          omega

/-- The occurrences on the two sides of a line break. -/
theorem occurrences_append_ending {word : Text} (nonempty : word ≠ []) (newline : '\n' ∉ word)
    (carriageReturn : '\r' ∉ word) (ending : LineEnding) (text later : Text) :
    (text ++ (ending.text ++ later)).occurrences word =
      text.occurrences word + later.occurrences word := by
  cases ending with
  | newline => exact occurrences_append_cons nonempty newline text later
  | carriageReturnNewline =>
      have afterReturn := occurrences_append_cons nonempty newline [] later
      have atReturn := occurrences_append_cons nonempty carriageReturn text ('\n' :: later)
      rw [List.nil_append, occurrences, Nat.zero_add] at afterReturn
      rw [afterReturn] at atReturn
      exact atReturn

end Text

namespace Dialog

theorem occurrences_pos_of_isOpening {dialog : Dialog} {piece : Text}
    (opening : dialog.isOpening piece = true) : 0 < piece.occurrences dialog.opening := by
  rcases isOpening_eq_true_iff.1 opening with rfl | rfl <;> cases dialog <;> decide

/-- A text opens no more calls of a dialog than it has occurrences of the opening. -/
theorem callCount_le_occurrences (dialog : Dialog) (text : Text) :
    dialog.callCount text ≤ text.occurrences dialog.opening := by
  have overPieces (pieces : List Text) : pieces.countP dialog.isOpening ≤
      Text.occurrences pieces.flatten dialog.opening := by
    induction pieces with
    | nil => simp
    | cons piece pieces ih =>
        have together := Text.occurrences_add_le_occurrences_append dialog.opening piece
          pieces.flatten
        rw [List.flatten_cons]
        cases opening : dialog.isOpening piece with
        | false =>
            rw [List.countP_cons_of_neg (by simp [opening])]
            omega
        | true =>
            have own := occurrences_pos_of_isOpening opening
            rw [List.countP_cons_of_pos opening]
            omega
  rw [callCount_eq_countP]
  simpa using overPieces text.pieces

/-- A boundary that no opening holds separates calls. -/
theorem callCount_append_cons (dialog : Dialog) {separator : Char}
    (boundary : isBoundary separator = true) (absent : separator ∉ windowAccess ++ dialog.opening)
    (text later : Text) :
    dialog.callCount (text ++ separator :: later) =
      dialog.callCount text + dialog.callCount later := by
  have bare : separator ∉ dialog.opening := fun member => absent (by simp [member])
  have opensAt (start : Text) :
      dialog.opensAt (start ++ separator :: later) = dialog.opensAt start := by
    rw [Dialog.opensAt, Text.isSome_after?_append_cons bare, Text.isSome_after?_append_cons absent,
      Dialog.opensAt]
  have behind : dialog.callsAfterBoundary (text ++ separator :: later) =
      dialog.callsAfterBoundary text + dialog.callCount later := by
    induction text with
    | nil => simp [callsAfterBoundary, callCount, boundary]
    | cons char text ih =>
        rw [List.cons_append, callsAfterBoundary, callsAfterBoundary, ih, opensAt]
        omega
  have front : dialog.callCount text =
      dialog.callsAfterBoundary text + (dialog.opensAt text).toNat := rfl
  rw [callCount, behind, opensAt, front]
  omega

/-- The calls of a dialog on the two sides of a line break. -/
theorem callCount_append_ending (dialog : Dialog) (ending : LineEnding) (text later : Text) :
    dialog.callCount (text ++ (ending.text ++ later)) =
      dialog.callCount text + dialog.callCount later := by
  have newline : '\n' ∉ windowAccess ++ dialog.opening := by
    cases dialog <;> decide
  have carriageReturn : '\r' ∉ windowAccess ++ dialog.opening := by
    cases dialog <;> decide
  cases ending with
  | newline => exact dialog.callCount_append_cons rfl newline text later
  | carriageReturnNewline =>
      have afterReturn := dialog.callCount_append_cons rfl newline [] later
      have atReturn := dialog.callCount_append_cons rfl carriageReturn text ('\n' :: later)
      have empty : dialog.callCount [] = 0 := dialog.callCount_eq_countP []
      rw [List.nil_append, empty, Nat.zero_add] at afterReturn
      rw [afterReturn] at atReturn
      exact atReturn

/-- What a replacement keeps of a statement calls the dialogs that the message calls. -/
theorem keptCount_openingTest (dialog : Dialog) (statement : Statement) :
    dialog.openingTest.keptCount statement = dialog.callCount statement.message.body := by
  have boundary : isBoundary statement.message.quote.char = true := by
    cases statement.message.quote <;> rfl
  have absent : statement.message.quote.char ∉ windowAccess ++ dialog.opening := by
    cases statement.message.quote <;> cases dialog <;> decide
  have message := dialog.callCount_append_cons boundary absent statement.message.body []
  rw [dialog.callCount_eq_count [], PieceTest.count_nil, Nat.add_zero] at message
  unfold PieceTest.keptCount
  rw [← callCount_eq_count, message]
  cases statement with
  | alert _ | guard _ => rfl
  | binding written =>
      have noOpening : dialog.isOpening (written.name ++ [' ']) = false := by
        apply eq_false_of_ne_true
        intro opening
        cases (eq_of_isOpening_concat opening).1
      exact congrArg (dialog.callCount _ + Bool.toNat ·) noOpening

end Dialog

/-- A replacement calls the dialogs that the message of the statement calls. -/
theorem Rule.Admits.callCount_replacement {rule : Rule} {statement : Statement}
    (admitted : rule.Admits statement) {layout : Layout} (blank : Blank layout.indent) :
    callCount (statement.replacement {} layout) = callCount statement.message.body := by
  have counted (dialog : Dialog) : dialog.callCount (statement.replacement {} layout) =
      dialog.callCount statement.message.body := by
    have kept := dialog.openingTest.count_replacement_append admitted blank []
    rw [List.append_nil, PieceTest.count_nil, Nat.add_zero, dialog.keptCount_openingTest] at kept
    rw [← kept, Dialog.callCount_eq_count]
  rw [callCount, counted, counted, callCount]

/-- A text has no more dialog calls than occurrences of the two openings. -/
theorem callCount_le_occurrences (text : Text) :
    callCount text ≤
      text.occurrences Dialog.alert.opening + text.occurrences Dialog.confirm.opening :=
  Nat.add_le_add (Dialog.alert.callCount_le_occurrences text)
    (Dialog.confirm.callCount_le_occurrences text)

/-- The calls on the two sides of a line break. -/
theorem callCount_append_ending (ending : LineEnding) (text later : Text) :
    callCount (text ++ (ending.text ++ later)) = callCount text + callCount later := by
  simp only [callCount, Dialog.callCount_append_ending]
  omega

/-- A line without dialog calls stays as it is, whatever follows it. -/
theorem Rule.rewrite_append_ending {line : Text} (quiet : callCount line = 0) (rule : Rule)
    (notifier : Notifier) (ending own : LineEnding) (later : Text) :
    rule.rewrite notifier ending (line ++ (own.text ++ later)) =
      line ++ (own.text ++ rule.rewrite notifier ending later) := by
  cases own with
  | newline =>
      rw [LineEnding.text, List.singleton_append, rewrite_append_newline,
        rewrite_of_callCount_eq_zero quiet]
      rfl
  | carriageReturnNewline =>
      have longer : callCount (line ++ ['\r']) = 0 := by
        have split := callCount_append_ending .newline (line ++ ['\r']) []
        have whole := callCount_append_ending .carriageReturnNewline line []
        simp only [LineEnding.text, List.append_assoc, List.cons_append, List.nil_append]
          at split whole
        omega
      have assoc (after : Text) :
          line ++ (LineEnding.carriageReturnNewline.text ++ after) =
            (line ++ ['\r']) ++ '\n' :: after := by
        simp [LineEnding.text]
      rw [assoc, assoc, rewrite_append_newline, rewrite_of_callCount_eq_zero longer]

end DialogCodemod
