import ActorFacade.Value.Basic

/-! # Declarations of provider types

A provider type declares methods, implements interfaces and may have a parent type; types are known
by their names.  A parameter that can be left out has a default value, a constant, or neither.
-/

namespace ActorFacade

/-- A parameter of an operation. -/
structure Parameter where
  /-- Its name. -/
  name : Text
  /-- Whether it can be left out. -/
  optional : Bool := false
  /-- The value it has when left out. -/
  default : Value := .atom .absent
  /-- A constant that names this value. -/
  constant : Option Text := none
deriving DecidableEq, Repr

/-- An operation as one type declares it. -/
structure MethodDeclaration where
  /-- Its name. -/
  name : Text
  /-- Its parameters in order. -/
  parameters : List Parameter := []
  /-- Its documentation, empty when there is none. -/
  doc : Text := []
deriving DecidableEq, Repr

/-- A provider type, an interface or a base type. -/
structure TypeDeclaration where
  /-- Its name. -/
  name : Text
  /-- The methods that it declares itself. -/
  methods : List MethodDeclaration := []
  /-- The names of the interfaces that it lists. -/
  interfaces : List Text := []
  /-- The name of its parent type. -/
  parent : Option Text := none
deriving DecidableEq, Repr

namespace TypeDeclaration

/-- The first method with a name. -/
def method? (d : TypeDeclaration) (name : Text) : Option MethodDeclaration :=
  d.methods.find? fun m ↦ m.name == name

/-- Whether a type declares an operation itself. -/
def declares (d : TypeDeclaration) (name : Text) : Bool := (d.method? name).isSome

theorem name_of_method? {d : TypeDeclaration} {name : Text} {m : MethodDeclaration}
    (h : d.method? name = some m) : m.name = name := by
  simpa using List.find?_some h

end TypeDeclaration

end ActorFacade
