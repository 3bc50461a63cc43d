import DialogCodemod.Rule.Basic

/-!
# The grammar of the rules

Each rule reads the statements of a small grammar: keywords, gaps of blanks, one string literal.
This module says when a statement, taken with its layout, belongs to the grammar of a rule, and
shows that reading accepts exactly these statements. What stands behind a statement never matters,
so a text has at most one statement at its start.
-/

namespace DialogCodemod

/-- A gap between two tokens holds blanks only. -/
def Blank (gap : Text) : Prop :=
  ∀ char ∈ gap, isBlank char = true

@[simp] theorem blank_nil : Blank [] := by
  simp [Blank]

@[simp] theorem blank_cons {char : Char} {gap : Text} :
    Blank (char :: gap) ↔ isBlank char = true ∧ Blank gap := by
  simp [Blank]

/-- A character that is part of a line ending. -/
def EndsLine (char : Char) : Prop :=
  char = '\n' ∨ char = '\r'

/-- A gap does not leave the line. -/
theorem Blank.notMem {gap : Text} (blank : Blank gap) {char : Char} (ends : EndsLine char) :
    char ∉ gap := by
  intro member
  rcases ends with rfl | rfl <;> cases blank _ member

theorem Literal.notMem_source {literal : Literal} {char : Char} (ends : EndsLine char)
    (body : char ∉ literal.body) : char ∉ literal.source := by
  have quote : char ≠ literal.quote.char := by
    rcases ends with rfl | rfl <;> cases literal.quote <;> decide
  simp [source, body, quote]

namespace Reader

/-- Once the first piece is known, reading goes on behind it. -/
theorem run_bind_of_run {α β : Type} {first : Reader α} {second : α → Reader β}
    {input middle : Text} {piece : α} (success : first.run input = some (piece, middle)) :
    (first >>= second).run input = (second piece).run middle := by
  rw [StateT.run_bind, success]
  rfl

theorem run_map_of_run {α β : Type} {reader : Reader α} {input rest : Text} {piece : α}
    {image : α → β} (success : reader.run input = some (piece, rest)) :
    (image <$> reader).run input = some (image piece, rest) := by
  rw [StateT.run_map, success]
  rfl

theorem run_word_append (expected rest : Text) :
    (word expected).run (expected ++ rest) = some ((), rest) :=
  run_word_eq_some_iff.2 rfl

/-- A gap is read to its end when a token follows. -/
theorem run_blanks_append {gap rest : Text} (blank : Blank gap) (stops : Stops isBlank rest) :
    blanks.run (gap ++ rest) = some (gap, rest) :=
  run_blanks_eq_some_iff.2 ⟨rfl, blank, stops⟩

theorem run_someBlanks_append {gap rest : Text} (nonempty : gap ≠ []) (blank : Blank gap)
    (stops : Stops isBlank rest) : someBlanks.run (gap ++ rest) = some (gap, rest) :=
  run_someBlanks_eq_some_iff.2 ⟨rfl, nonempty, blank, stops⟩

/-- A piece that is not there is skipped. -/
theorem run_option_of_run_eq_none {α : Type} {reader : Reader α} {input : Text}
    (failure : reader.run input = none) : (option reader).run input = some (none, input) :=
  run_option_eq_some_none_iff.2 ⟨failure, rfl⟩

/-- A reader that starts with a word fails where the word does not stand. -/
theorem run_word_bind_eq_none {α : Type} {expected input : Text} {next : Unit → Reader α}
    (missing : Text.after? expected input = none) : (word expected >>= next).run input = none := by
  simp [word, StateT.run, bind, StateT.bind, missing]

end Reader

namespace Access

/-- Whether a way to reach a dialog is admitted. -/
def Admits : Access → Bool → Prop
  | .byName, reached => reached = false
  | .viaWindow, reached => reached = true
  | .either, _ => True

theorem admits_of_run_read {access : Access} {input rest : Text} {viaWindow : Bool}
    (success : access.read.run input = some (viaWindow, rest)) : access.Admits viaWindow := by
  cases access with
  | byName => exact (Reader.run_pure_eq_some_iff.1 success).1.symm
  | viaWindow =>
      obtain ⟨_, _, _, finished⟩ := Reader.run_bind_eq_some_iff.1 success
      exact (Reader.run_pure_eq_some_iff.1 finished).1.symm
  | either => trivial

/-- The name of a dialog is not mistaken for the global object. -/
theorem run_read_append {access : Access} {viaWindow : Bool} (admitted : access.Admits viaWindow)
    (dialog : Dialog) (rest : Text) :
    access.read.run (accessSource viaWindow ++ (dialog.opening ++ rest)) =
      some (viaWindow, dialog.opening ++ rest) := by
  have notWindow : Text.after? windowAccess (dialog.opening ++ rest) = none := by
    cases dialog <;> rfl
  have windowRead := Reader.run_word_append windowAccess (dialog.opening ++ rest)
  cases access with
  | byName =>
      cases admitted
      rfl
  | viaWindow =>
      cases admitted
      exact Reader.run_bind_eq_some_iff.2
        ⟨(), _, windowRead, Reader.run_pure_eq_some_iff.2 ⟨rfl, rfl⟩⟩
  | either =>
      cases viaWindow with
      | false =>
          have skipped : (Reader.option (Reader.word windowAccess)).run (dialog.opening ++ rest) =
              some (none, dialog.opening ++ rest) :=
            Reader.run_option_of_run_eq_none (by simp [Reader.word, StateT.run, notWindow])
          exact Reader.run_bind_eq_some_iff.2
            ⟨none, _, skipped, Reader.run_pure_eq_some_iff.2 ⟨rfl, rfl⟩⟩
      | true =>
          exact Reader.run_bind_eq_some_iff.2
            ⟨some (), _, Reader.run_option_eq_some_some_iff.2 windowRead,
              Reader.run_pure_eq_some_iff.2 ⟨rfl, rfl⟩⟩

end Access

namespace Call

/-- A call with blanks around a literal that begins and ends on one line. -/
structure WellFormed (call : Call) : Prop where
  lead : Blank call.lead
  message : call.message.WellFormed
  trail : Blank call.trail

theorem wellFormed_of_run_read {dialog : Dialog} {access : Access} {input rest : Text}
    {call : Call} (success : (read dialog access).run input = some (call, rest)) :
    call.WellFormed ∧ access.Admits call.viaWindow := by
  obtain ⟨viaWindow, _, reached, success⟩ := Reader.run_bind_eq_some_iff.1 success
  obtain ⟨_, _, _, success⟩ := Reader.run_bind_eq_some_iff.1 success
  obtain ⟨lead, _, leadBlanks, success⟩ := Reader.run_bind_eq_some_iff.1 success
  obtain ⟨message, _, literal, success⟩ := Reader.run_bind_eq_some_iff.1 success
  obtain ⟨trail, _, trailBlanks, success⟩ := Reader.run_bind_eq_some_iff.1 success
  obtain ⟨_, _, _, success⟩ := Reader.run_bind_eq_some_iff.1 success
  obtain ⟨rfl, rfl⟩ := Reader.run_pure_eq_some_iff.1 success
  exact ⟨⟨(Reader.run_blanks_eq_some_iff.1 leadBlanks).2.1,
    (Literal.run_read_eq_some_iff.1 literal).2,
    (Reader.run_blanks_eq_some_iff.1 trailBlanks).2.1⟩, Access.admits_of_run_read reached⟩

/-- A call starts with a letter, so that a gap before it ends there. -/
theorem stops_source (dialog : Dialog) (call : Call) (rest : Text) :
    Stops isBlank (call.source dialog ++ rest) := by
  obtain ⟨viaWindow, lead, message, trail⟩ := call
  intro char member
  cases viaWindow <;> cases dialog <;> cases member <;> rfl

theorem WellFormed.notMem_source {call : Call} (wellFormed : call.WellFormed) (dialog : Dialog)
    {char : Char} (ends : EndsLine char) (body : char ∉ call.message.body) :
    char ∉ call.source dialog := by
  have access : char ∉ accessSource call.viaWindow := by
    rcases ends with rfl | rfl <;> cases call.viaWindow <;> decide
  have opening : char ∉ dialog.opening := by
    rcases ends with rfl | rfl <;> cases dialog <;> decide
  have closing : char ≠ ')' := by
    rcases ends with rfl | rfl <;> decide
  simp [source, access, opening, closing, wellFormed.lead.notMem ends,
    Literal.notMem_source ends body, wellFormed.trail.notMem ends]

theorem run_read_source_append {call : Call} (dialog : Dialog) (access : Access)
    (wellFormed : call.WellFormed) (admitted : access.Admits call.viaWindow) (rest : Text) :
    (read dialog access).run (call.source dialog ++ rest) = some (call, rest) := by
  have closes : Stops isBlank ([')'] ++ rest) := by simp [isBlank]
  have quotes : Stops isBlank (call.message.source ++ (call.trail ++ ([')'] ++ rest))) := by
    cases quote : call.message.quote <;> simp [Literal.source, Quote.char, quote, isBlank]
  rw [read, source]
  simp only [List.append_assoc]
  rw [Reader.run_bind_of_run (Access.run_read_append admitted dialog _),
    Reader.run_bind_of_run (Reader.run_word_append _ _),
    Reader.run_bind_of_run (Reader.run_blanks_append wellFormed.lead quotes),
    Reader.run_bind_of_run (Literal.run_read_eq_some_iff.2 ⟨rfl, wellFormed.message⟩),
    Reader.run_bind_of_run (Reader.run_blanks_append wellFormed.trail closes),
    Reader.run_bind_of_run (Reader.run_word_append _ _)]
  rfl

end Call

namespace Guard

/-- A guard with blanks in its gaps. `else` and `if` are at least one blank apart. -/
structure WellFormed (guard : Guard) : Prop where
  elseGap : ∀ gap ∈ guard.elseGap, gap ≠ [] ∧ Blank gap
  ifGap : Blank guard.ifGap
  openGap : Blank guard.openGap
  notGap : Blank guard.notGap
  call : guard.call.WellFormed
  callGap : Blank guard.callGap
  closeGap : Blank guard.closeGap
  returnGap : Blank guard.returnGap

theorem WellFormed.notMem_source {guard : Guard} (wellFormed : guard.WellFormed) {char : Char}
    (ends : EndsLine char) (body : char ∉ guard.call.message.body) : char ∉ guard.source := by
  have beforeIf : char ∉ elseSource guard.elseGap := by
    cases gap : guard.elseGap with
    | none => simp [elseSource]
    | some blanks =>
        have absent := (wellFormed.elseGap blanks gap).2.notMem ends
        rcases ends with rfl | rfl <;> simp [elseSource, absent]
  have gaps := And.intro (wellFormed.ifGap.notMem ends) (And.intro (wellFormed.openGap.notMem ends)
    (And.intro (wellFormed.notGap.notMem ends) (And.intro (wellFormed.callGap.notMem ends)
      (And.intro (wellFormed.closeGap.notMem ends) (wellFormed.returnGap.notMem ends)))))
  have call := wellFormed.call.notMem_source .confirm ends body
  rcases ends with rfl | rfl <;> simp [source, beforeIf, gaps, call]

theorem wellFormed_of_run_option_readElse {input rest : Text} {elseGap : Option Text}
    (success : (Reader.option readElse).run input = some (elseGap, rest)) :
    ∀ gap ∈ elseGap, gap ≠ [] ∧ Blank gap := by
  intro gap member
  cases member
  have found := Reader.run_option_eq_some_some_iff.1 success
  obtain ⟨_, _, _, blanks⟩ := Reader.run_bind_eq_some_iff.1 found
  have exact := Reader.run_someBlanks_eq_some_iff.1 blanks
  exact ⟨exact.2.1, exact.2.2.1⟩

theorem wellFormed_of_run_read {input rest : Text} {guard : Guard}
    (success : read.run input = some (guard, rest)) : guard.WellFormed := by
  obtain ⟨elseGap, _, opening, success⟩ := Reader.run_bind_eq_some_iff.1 success
  obtain ⟨_, _, _, success⟩ := Reader.run_bind_eq_some_iff.1 success
  obtain ⟨ifGap, _, ifBlanks, success⟩ := Reader.run_bind_eq_some_iff.1 success
  obtain ⟨_, _, _, success⟩ := Reader.run_bind_eq_some_iff.1 success
  obtain ⟨openGap, _, openBlanks, success⟩ := Reader.run_bind_eq_some_iff.1 success
  obtain ⟨_, _, _, success⟩ := Reader.run_bind_eq_some_iff.1 success
  obtain ⟨notGap, _, notBlanks, success⟩ := Reader.run_bind_eq_some_iff.1 success
  obtain ⟨call, _, confirmed, success⟩ := Reader.run_bind_eq_some_iff.1 success
  obtain ⟨callGap, _, callBlanks, success⟩ := Reader.run_bind_eq_some_iff.1 success
  obtain ⟨_, _, _, success⟩ := Reader.run_bind_eq_some_iff.1 success
  obtain ⟨closeGap, _, closeBlanks, success⟩ := Reader.run_bind_eq_some_iff.1 success
  obtain ⟨_, _, _, success⟩ := Reader.run_bind_eq_some_iff.1 success
  obtain ⟨returnGap, _, returnBlanks, success⟩ := Reader.run_bind_eq_some_iff.1 success
  obtain ⟨_, _, _, success⟩ := Reader.run_bind_eq_some_iff.1 success
  obtain ⟨rfl, rfl⟩ := Reader.run_pure_eq_some_iff.1 success
  exact {
    elseGap := wellFormed_of_run_option_readElse opening
    ifGap := (Reader.run_blanks_eq_some_iff.1 ifBlanks).2.1
    openGap := (Reader.run_blanks_eq_some_iff.1 openBlanks).2.1
    notGap := (Reader.run_blanks_eq_some_iff.1 notBlanks).2.1
    call := (Call.wellFormed_of_run_read confirmed).1
    callGap := (Reader.run_blanks_eq_some_iff.1 callBlanks).2.1
    closeGap := (Reader.run_blanks_eq_some_iff.1 closeBlanks).2.1
    returnGap := (Reader.run_blanks_eq_some_iff.1 returnBlanks).2.1 }

/-- The `else` before a guard is read when it is there, and `if` is not mistaken for it. -/
theorem run_option_readElse_append {elseGap : Option Text}
    (wellFormed : ∀ gap ∈ elseGap, gap ≠ [] ∧ Blank gap) (rest : Text) :
    (Reader.option readElse).run (elseSource elseGap ++ ("if".toList ++ rest)) =
      some (elseGap, "if".toList ++ rest) := by
  cases elseGap with
  | none => exact Reader.run_option_of_run_eq_none (Reader.run_word_bind_eq_none rfl)
  | some gap =>
      have stops : Stops isBlank ("if".toList ++ rest) := by simp [isBlank]
      have present := wellFormed gap rfl
      simp only [elseSource, List.append_assoc]
      exact Reader.run_option_eq_some_some_iff.2 (Reader.run_bind_eq_some_iff.2
        ⟨(), _, Reader.run_word_append _ _,
          Reader.run_someBlanks_append present.1 present.2 stops⟩)

theorem run_read_source_append {guard : Guard} (wellFormed : guard.WellFormed) (rest : Text) :
    read.run (guard.source ++ rest) = some (guard, rest) := by
  have callRead := Call.run_read_source_append .confirm .either wellFormed.call trivial
  rw [read, source]
  simp only [List.append_assoc]
  rw [Reader.run_bind_of_run (run_option_readElse_append wellFormed.elseGap _),
    Reader.run_bind_of_run (Reader.run_word_append _ _),
    Reader.run_bind_of_run (Reader.run_blanks_append wellFormed.ifGap (by simp [isBlank])),
    Reader.run_bind_of_run (Reader.run_word_append _ _),
    Reader.run_bind_of_run (Reader.run_blanks_append wellFormed.openGap (by simp [isBlank])),
    Reader.run_bind_of_run (Reader.run_word_append _ _),
    Reader.run_bind_of_run (Reader.run_blanks_append wellFormed.notGap (Call.stops_source _ _ _)),
    Reader.run_bind_of_run (callRead _),
    Reader.run_bind_of_run (Reader.run_blanks_append wellFormed.callGap (by simp [isBlank])),
    Reader.run_bind_of_run (Reader.run_word_append _ _),
    Reader.run_bind_of_run (Reader.run_blanks_append wellFormed.closeGap (by simp [isBlank])),
    Reader.run_bind_of_run (Reader.run_word_append _ _),
    Reader.run_bind_of_run (Reader.run_blanks_append wellFormed.returnGap (by simp [isBlank])),
    Reader.run_bind_of_run (Reader.run_word_append _ _)]
  rfl

end Guard

theorem BindingKeyword.run_read_append (keyword : BindingKeyword) (rest : Text) :
    BindingKeyword.read.run (keyword.source ++ rest) = some (keyword, rest) := by
  cases keyword <;> rfl

/-- A name starts with a character that is no blank. -/
theorem isBlank_eq_false_of_startsName {char : Char} (starts : startsName char = true) :
    isBlank char = false := by
  apply eq_false_of_ne_true
  intro blank
  rcases isBlank_eq_true_iff.1 blank with rfl | rfl <;> cases starts

/-- A name ends at a blank. -/
theorem continuesName_eq_false_of_isBlank {char : Char} (blank : isBlank char = true) :
    continuesName char = false := by
  rcases isBlank_eq_true_iff.1 blank with rfl | rfl <;> rfl

namespace Binding

/-- A binding of a name, with blanks in its gaps. Keyword and name are at least one blank apart. -/
structure WellFormed (binding : Binding) : Prop where
  keywordGap_ne_nil : binding.keywordGap ≠ []
  keywordGap : Blank binding.keywordGap
  nameStart : startsName binding.nameStart = true
  nameRest : ∀ char ∈ binding.nameRest, continuesName char = true
  nameGap : Blank binding.nameGap
  equalsGap : Blank binding.equalsGap
  call : binding.call.WellFormed

theorem wellFormed_of_run_read {input rest : Text} {binding : Binding}
    (success : read.run input = some (binding, rest)) : binding.WellFormed := by
  obtain ⟨keyword, _, _, success⟩ := Reader.run_bind_eq_some_iff.1 success
  obtain ⟨keywordGap, _, keywordBlanks, success⟩ := Reader.run_bind_eq_some_iff.1 success
  obtain ⟨nameStart, _, nameFirst, success⟩ := Reader.run_bind_eq_some_iff.1 success
  obtain ⟨nameRest, _, nameMore, success⟩ := Reader.run_bind_eq_some_iff.1 success
  obtain ⟨nameGap, _, nameBlanks, success⟩ := Reader.run_bind_eq_some_iff.1 success
  obtain ⟨_, _, _, success⟩ := Reader.run_bind_eq_some_iff.1 success
  obtain ⟨equalsGap, _, equalsBlanks, success⟩ := Reader.run_bind_eq_some_iff.1 success
  obtain ⟨call, _, confirmed, success⟩ := Reader.run_bind_eq_some_iff.1 success
  obtain ⟨rfl, rfl⟩ := Reader.run_pure_eq_some_iff.1 success
  exact {
    keywordGap_ne_nil := (Reader.run_someBlanks_eq_some_iff.1 keywordBlanks).2.1
    keywordGap := (Reader.run_someBlanks_eq_some_iff.1 keywordBlanks).2.2.1
    nameStart := (Reader.run_char_eq_some_iff.1 nameFirst).2
    nameRest := (Reader.run_stretch_eq_some_iff.1 nameMore).2.1
    nameGap := (Reader.run_blanks_eq_some_iff.1 nameBlanks).2.1
    equalsGap := (Reader.run_blanks_eq_some_iff.1 equalsBlanks).2.1
    call := (Call.wellFormed_of_run_read confirmed).1 }

theorem WellFormed.notMem_name {binding : Binding} (wellFormed : binding.WellFormed) {char : Char}
    (ends : EndsLine char) : char ∉ binding.name := by
  intro member
  rcases List.mem_cons.1 member with start | more
  · have starts := wellFormed.nameStart
    rw [← start] at starts
    rcases ends with rfl | rfl <;> cases starts
  · have continues := wellFormed.nameRest char more
    rcases ends with rfl | rfl <;> cases continues

theorem WellFormed.notMem_source {binding : Binding} (wellFormed : binding.WellFormed) {char : Char}
    (ends : EndsLine char) (body : char ∉ binding.call.message.body) : char ∉ binding.source := by
  have keyword : char ∉ binding.keyword.source := by
    rcases ends with rfl | rfl <;> cases binding.keyword <;> decide
  have equals : char ≠ '=' := by
    rcases ends with rfl | rfl <;> decide
  simp [source, keyword, equals, wellFormed.notMem_name ends, wellFormed.keywordGap.notMem ends,
    wellFormed.nameGap.notMem ends, wellFormed.equalsGap.notMem ends,
    wellFormed.call.notMem_source .confirm ends body]

/-- The name of a binding ends before the gap or the equals sign that follows it. -/
theorem stops_nameGap {binding : Binding} (wellFormed : binding.WellFormed) (rest : Text) :
    Stops continuesName (binding.nameGap ++ (['='] ++ rest)) := by
  cases gap : binding.nameGap with
  | nil => exact stops_cons.2 rfl
  | cons first more =>
      have blank := wellFormed.nameGap first (by simp [gap])
      exact stops_cons.2 (continuesName_eq_false_of_isBlank blank)

theorem run_read_source_append {binding : Binding} (wellFormed : binding.WellFormed)
    (rest : Text) : read.run (binding.source ++ rest) = some (binding, rest) := by
  have callRead := Call.run_read_source_append .confirm .either wellFormed.call trivial
  have nameFollows (later : Text) : Stops isBlank ([binding.nameStart] ++ later) :=
    stops_cons.2 (isBlank_eq_false_of_startsName wellFormed.nameStart)
  have startRead (later : Text) : (Reader.char startsName).run ([binding.nameStart] ++ later) =
      some (binding.nameStart, later) :=
    Reader.run_char_eq_some_iff.2 ⟨rfl, wellFormed.nameStart⟩
  have restRead (later : Text) : (Reader.stretch continuesName).run
      (binding.nameRest ++ (binding.nameGap ++ (['='] ++ later))) =
        some (binding.nameRest, binding.nameGap ++ (['='] ++ later)) :=
    Reader.run_stretch_eq_some_iff.2 ⟨rfl, wellFormed.nameRest, stops_nameGap wellFormed later⟩
  have nameParts : binding.name = [binding.nameStart] ++ binding.nameRest := rfl
  rw [read, source, nameParts]
  simp only [List.append_assoc]
  rw [Reader.run_bind_of_run (BindingKeyword.run_read_append _ _),
    Reader.run_bind_of_run (Reader.run_someBlanks_append wellFormed.keywordGap_ne_nil
      wellFormed.keywordGap (nameFollows _)),
    Reader.run_bind_of_run (startRead _), Reader.run_bind_of_run (restRead _),
    Reader.run_bind_of_run (Reader.run_blanks_append wellFormed.nameGap (by simp [isBlank])),
    Reader.run_bind_of_run (Reader.run_word_append _ _),
    Reader.run_bind_of_run
      (Reader.run_blanks_append wellFormed.equalsGap (Call.stops_source _ _ _)),
    Reader.run_bind_of_run (callRead _)]
  rfl

end Binding

/-- The message of the call in a statement. -/
def Statement.message : Statement → Literal
  | .alert written => written.message
  | .guard written => written.call.message
  | .binding written => written.call.message

namespace Statement

/-- A statement that is written as a rule reads it. -/
def WellFormed : Statement → Prop
  | .alert written => written.WellFormed
  | .guard written => written.WellFormed
  | .binding written => written.WellFormed

theorem WellFormed.message {statement : Statement} (wellFormed : statement.WellFormed) :
    statement.message.WellFormed := by
  cases statement with
  | alert written => exact Call.WellFormed.message wellFormed
  | guard written => exact (Guard.WellFormed.call wellFormed).message
  | binding written => exact (Binding.WellFormed.call wellFormed).message

/-- A statement stands on one line if its message does. -/
theorem WellFormed.notMem_source {statement : Statement} (wellFormed : statement.WellFormed)
    {char : Char} (ends : EndsLine char) (body : char ∉ statement.message.body) :
    char ∉ statement.source := by
  cases statement with
  | alert written => exact Call.WellFormed.notMem_source wellFormed .alert ends body
  | guard written => exact Guard.WellFormed.notMem_source wellFormed ends body
  | binding written => exact Binding.WellFormed.notMem_source wellFormed ends body

end Statement

namespace Rule

/-- The statements in the grammar of a rule. -/
def Admits : Rule → Statement → Prop
  | .bareAlert, .alert written => written.WellFormed ∧ written.viaWindow = false
  | .windowAlert, .alert written => written.WellFormed ∧ written.viaWindow = true
  | .confirmGuard, .guard written => written.WellFormed
  | .confirmAssignment, .binding written => written.WellFormed
  | _, _ => False

theorem Admits.wellFormed {rule : Rule} {statement : Statement} (admitted : rule.Admits statement) :
    statement.WellFormed := by
  cases statement with
  | alert written =>
      cases rule with
      | bareAlert | windowAlert => exact admitted.1
      | confirmGuard | confirmAssignment => exact admitted.elim
  | guard written =>
      cases rule with
      | confirmGuard => exact admitted
      | bareAlert | windowAlert | confirmAssignment => exact admitted.elim
  | binding written =>
      cases rule with
      | confirmAssignment => exact admitted
      | bareAlert | windowAlert | confirmGuard => exact admitted.elim

theorem admits_of_run_read {rule : Rule} {input rest : Text} {statement : Statement}
    (success : rule.read.run input = some (statement, rest)) : rule.Admits statement := by
  cases rule <;>
    simp only [read, StateT.run_map, Option.map_eq_map, Option.map_eq_some_iff, Prod.mk.injEq,
      Prod.exists] at success <;>
    obtain ⟨written, _, found, rfl, rfl⟩ := success
  · exact Call.wellFormed_of_run_read found
  · exact Call.wellFormed_of_run_read found
  · exact Guard.wellFormed_of_run_read found
  · exact Binding.wellFormed_of_run_read found

theorem run_read_source_append {rule : Rule} {statement : Statement}
    (admitted : rule.Admits statement) (rest : Text) :
    rule.read.run (statement.source ++ rest) = some (statement, rest) := by
  cases statement with
  | alert written =>
      cases rule with
      | bareAlert =>
          exact Reader.run_map_of_run
            (Call.run_read_source_append .alert .byName admitted.1 admitted.2 rest)
      | windowAlert =>
          exact Reader.run_map_of_run
            (Call.run_read_source_append .alert .viaWindow admitted.1 admitted.2 rest)
      | confirmGuard | confirmAssignment => exact admitted.elim
  | guard written =>
      cases rule with
      | confirmGuard =>
          exact Reader.run_map_of_run (Guard.run_read_source_append admitted rest)
      | bareAlert | windowAlert | confirmAssignment => exact admitted.elim
  | binding written =>
      cases rule with
      | confirmAssignment =>
          exact Reader.run_map_of_run (Binding.run_read_source_append admitted rest)
      | bareAlert | windowAlert | confirmGuard => exact admitted.elim

/-- Reading accepts exactly the statements of the rule's grammar. -/
theorem run_read_eq_some_iff {rule : Rule} {input rest : Text} {statement : Statement} :
    rule.read.run input = some (statement, rest) ↔
      input = statement.source ++ rest ∧ rule.Admits statement := by
  constructor
  · intro success
    exact ⟨eq_append_of_run_read success, admits_of_run_read success⟩
  · intro grammatical
    rw [grammatical.1]
    exact run_read_source_append grammatical.2 rest

end Rule

end DialogCodemod
