import ActorFacade.Text.Basic

/-! # Roles of operations

What an operation does is read off its name.  An operation that checks something, `see…` or
`dontSee…`, appears twice in an actor: as the check itself and before it as a variant whose failure
does not stop a test.
-/

namespace ActorFacade

/-- The kinds of step that a method of an actor can take. -/
inductive Role where
  | action
  | condition
  | assertion
  | conditionalAssertion
deriving DecidableEq, Repr

/-- The name of a role, which is also the name of its step class. -/
def Role.name : Role → Text
  | .action => "Action"
  | .condition => "Condition"
  | .assertion => "Assertion"
  | .conditionalAssertion => "ConditionalAssertion"

/-- A method that an actor has for an operation. -/
structure Variant where
  /-- The name of the method. -/
  action : Text
  /-- The kind of step it takes. -/
  role : Role
deriving DecidableEq, Repr

/-- Whether the failure of a variant does not stop a test. -/
def Variant.isConditional (v : Variant) : Bool := v.role == .conditionalAssertion

namespace Operation

/-- What the name of an operation says about it. -/
inductive Kind where
  /-- It checks that something is there. -/
  | sight
  /-- It checks that something is absent. -/
  | absence
  /-- It brings about a condition. -/
  | condition
  /-- It does anything else. -/
  | action
deriving DecidableEq, Repr

/-- The kind of an operation, from the beginning of its name. -/
def kind (operation : Text) : Kind :=
  if operation.startsWith "see" then .sight
  else if operation.startsWith "dontSee" then .absence
  else if operation.startsWith "am" then .condition
  else .action

/-- The name of the conditional variant of a check for presence: the first letter, which is `s`,
becomes a capital behind `can`. -/
def canName (operation : Text) : Text := "canS" ++ operation.drop 1

/-- The name of the conditional variant of a check for absence: every `dont` becomes `cant`. -/
def cantName (operation : Text) : Text := operation.replaceAll "dont" "cant"

/-- The role of an operation as a whole. -/
def role (operation : Text) : Role :=
  match kind operation with
  | .sight | .absence => .conditionalAssertion
  | .condition => .condition
  | .action => .action

/-- The variants of an operation in the order in which an actor has them. -/
def variants (operation : Text) : List Variant :=
  match kind operation with
  | .sight => [⟨canName operation, .conditionalAssertion⟩, ⟨operation, .assertion⟩]
  | .absence => [⟨cantName operation, .conditionalAssertion⟩, ⟨operation, .assertion⟩]
  | .condition => [⟨operation, .condition⟩]
  | .action => [⟨operation, .action⟩]

/-- The names of the methods that an actor has for an operation. -/
def actionNames (operation : Text) : List Text := (variants operation).map (·.action)

end Operation

end ActorFacade
