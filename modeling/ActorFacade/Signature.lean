import ActorFacade.Declaration
import ActorFacade.Literal.Writer

/-! # Signatures

The parameters of a generated method, each with a dollar sign, optional ones with their default.  A
constant that is relative to `self` or `static` is made relative to the declaring type.
-/

namespace ActorFacade.Signature

/-- Why a signature cannot be written. -/
inductive Failure where
  /-- The default of a parameter has a part of a type without literals. -/
  | unsupported (parameter typeName : Text)
  /-- A default has an integer with too many digits. -/
  | limit (e : Integer.LimitError)
deriving DecidableEq, Repr

/-- The wording of a failure. -/
def Failure.message : Failure → Text
  | .unsupported parameter name =>
    "parameter '$" ++ parameter ++ "': " ++ (Literal.WriteError.unsupported name).message
  | .limit e => e.message

/-- The constant that a parameter has, if it has one with a name. -/
def constant? (p : Parameter) : Option Text := p.constant.filter fun c ↦ !c.isEmpty

/-- The text of a constant in a signature of a type. -/
def constantText (declaringType constant : Text) : Text :=
  match constant.cut? "::" with
  | some (owner, name) =>
    if owner = Text.ofString "self" || owner = Text.ofString "static" then
      declaringType ++ "::" ++ name
    else constant
  | none => constant

/-- The default of an optional parameter. -/
def defaultText (declaringType : Text) (p : Parameter) : Except Literal.WriteError Text :=
  match constant? p with
  | some constant => .ok (constantText declaringType constant)
  | none => Literal.write p.default

/-- One parameter. -/
def parameterText (declaringType : Text) (p : Parameter) : Except Failure Text :=
  if p.optional then
    match defaultText declaringType p with
    | .ok t => .ok (0x24 :: p.name ++ " = " ++ t)
    | .error (.unsupported name) => .error (.unsupported p.name name)
    | .error (.limit e) => .error (.limit e)
  else .ok (0x24 :: p.name)

/-- All parameters between commas. -/
def ofParameters (ps : List Parameter) (declaringType : Text) : Except Failure Text := do
  return Text.join ", " (← ps.mapM (parameterText declaringType))

end ActorFacade.Signature
