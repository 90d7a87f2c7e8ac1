import ActorFacade.ActorText
import ActorFacade.Docblock
import ActorFacade.Operation
import ActorFacade.Signature
import ActorFacade.Source.Basic

/-! # Methods of an actor

An actor has a method for every variant of an operation.  All variants have the same signature; the
documentation of a conditional one ends with a note.
-/

namespace ActorFacade

/-- A method that forwards its call to an operation. -/
structure ActorMethod where
  /-- Its name. -/
  action : Text
  /-- The operation. -/
  operation : Text
  /-- The kind of step that it takes. -/
  role : Role
  /-- Its signature. -/
  params : Text
  /-- Its documentation as a comment block. -/
  doc : Text
  /-- The name of the type that declares the operation. -/
  declaringType : Text
  /-- The name of the module that has the operation. -/
  module : Text
deriving DecidableEq, Repr

namespace ActorMethod

/-- The method of a variant of an operation. -/
def ofVariant {ρ : Type} (m : MethodMetadata ρ) (module params : Text) (v : Variant) :
    ActorMethod where
  action := v.action
  operation := m.operation
  role := v.role
  params := params
  doc :=
    let doc := Docblock.ofText m.doc
    if v.isConditional then Docblock.conditional doc else doc
  declaringType := m.declaringName
  module := module

/-- The methods of the variants of an operation. -/
def ofMetadata {ρ : Type} (m : MethodMetadata ρ) (module : Text) :
    Except Signature.Failure (List ActorMethod) := do
  let params ← Signature.ofParameters m.parameters m.declaringName
  return (Operation.variants m.operation).map (ofVariant m module params)

/-- The values of a method in its template. -/
def placements (m : ActorMethod) : List (Text × Text) :=
  [("module", m.declaringType), ("method", m.operation), ("action", m.action),
    ("step", m.role.name), ("params", m.params), ("doc", m.doc)]

/-- The text of a method. -/
def text (m : ActorMethod) : Text := Template.fillWith ActorText.method m.placements

end ActorMethod

end ActorFacade
