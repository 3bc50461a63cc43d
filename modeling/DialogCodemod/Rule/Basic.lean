import DialogCodemod.Dialog.Statement

/-!
# Replacement rules

Each rule looks for statements of one shape. `Rule.all` lists the rules in the order in which they
are applied.
-/

namespace DialogCodemod

/-- The rules by which dialog calls are replaced. -/
inductive Rule where
  | bareAlert
  | windowAlert
  | confirmGuard
  | confirmAssignment
  deriving DecidableEq, Repr

namespace Rule

/-- The name under which a rule is reported. -/
def name : Rule → String
  | .bareAlert => "bare-alert"
  | .windowAlert => "window-alert"
  | .confirmGuard => "confirm-guard"
  | .confirmAssignment => "confirm-assignment"

/-- Every rule, in the order of application. -/
def all : List Rule := [.bareAlert, .windowAlert, .confirmGuard, .confirmAssignment]

/-- The rule with the given name. -/
def ofName? (name : String) : Option Rule :=
  all.find? fun rule => rule.name == name

/-- Read a statement the rule replaces. -/
def read : Rule → Reader Statement
  | .bareAlert => .alert <$> Call.read .alert .byName
  | .windowAlert => .alert <$> Call.read .alert .viaWindow
  | .confirmGuard => .guard <$> Guard.read
  | .confirmAssignment => .binding <$> Binding.read

/-- What was read is what stands at the start of the input. -/
theorem eq_append_of_run_read {rule : Rule} {input rest : Text} {statement : Statement}
    (success : rule.read.run input = some (statement, rest)) :
    input = statement.source ++ rest := by
  cases rule <;>
    simp only [read, StateT.run_map, Option.map_eq_map, Option.map_eq_some_iff, Prod.mk.injEq,
      Prod.exists] at success <;>
    obtain ⟨written, _, found, rfl, rfl⟩ := success
  · exact Call.eq_append_of_run_read found
  · exact Call.eq_append_of_run_read found
  · exact Guard.eq_append_of_run_read found
  · exact Binding.eq_append_of_run_read found

end Rule

end DialogCodemod
