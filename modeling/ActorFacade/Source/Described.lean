import ActorFacade.Source.Declared
import ActorFacade.Source.Inspected

/-! # Classes as declarations

A class can be described by a declaration: its own functions with their parameters and
documentation, and its base as the parent.  What is left of a signature when an instance is bound to
it is `bound`.
-/

namespace ActorFacade

/-- The formal parameters that are left when the instance has its place: a first parameter that takes
arguments by their places takes it, and parameters that take any number of arguments take it too and
stay. -/
def Function.bound (f : Function) : List Formal :=
  match f.formals with
  | p :: ps => if p.kind.isPositional then ps else p :: ps
  | [] => []

namespace Hierarchy

/-- A function of a class as a declared method. -/
def methodDeclaration (name : Text) (f : Function) : MethodDeclaration where
  name := name
  parameters := f.parameters
  doc := Docblock.tidy (f.doc.getD [])

/-- The base of a class that is no marker. -/
def baseName? (h : Hierarchy) (c : ClassRef) : Option Text :=
  ((h.get c).bases.find? fun b ↦ !isMarker b).map h.fullName

/-- A class as a declaration. -/
def declarationOf (h : Hierarchy) (c : ClassRef) : TypeDeclaration where
  name := h.fullName c
  methods := (h.get c).functionNames.filterMap fun name ↦
    ((h.get c).function? name).map (methodDeclaration name)
  parent := h.baseName? c

/-- The classes of a hierarchy as declarations. -/
def toDeclarations (h : Hierarchy) : Declarations :=
  Declarations.ofList (h.classes.map fun e ↦ h.declarationOf e.ref)

end Hierarchy

end ActorFacade
