import ActorFacade.Source.Basic
import ActorFacade.Docblock

/-! # Classes as a source

The operations of a class are the plain functions in its lineage, the nearest first.  Protocols and
classes with abstract attributes are interfaces, and the first other base is the parent.  The first
formal parameter of a function stands for the instance and is no parameter of the operation.
-/

namespace ActorFacade

/-- A formal parameter as a parameter of an operation. -/
def Formal.toParameter (p : Formal) : Parameter :=
  match p.kind, p.default with
  | .variadic, _ | .keywordVariadic, _ => { name := p.name, optional := true }
  | _, none => { name := p.name }
  | _, some (.atom (.constant c)) => { name := p.name, optional := true, constant := some c }
  | _, some v => { name := p.name, optional := true, default := v }

/-- The parameters of a function as an operation. -/
def Function.parameters (f : Function) : List Parameter :=
  (f.formals.drop 1).map Formal.toParameter

namespace Hierarchy

/-- The names of the operations of a class. -/
def operations (h : Hierarchy) (c : ClassRef) : List Text :=
  (((h.lineage c).filter fun k ↦ !isMarker k).flatMap fun k ↦
    (h.get k).functionNames).eraseDups

/-- The nearest class of the lineage with a plain function of a name. -/
def declaring? (h : Hierarchy) (c : ClassRef) (operation : Text) : Option ClassRef :=
  (h.lineage c).find? fun k ↦ ((h.get k).function? operation).isSome

/-- The documentation that a class itself has for a function. -/
def ownDoc (h : Hierarchy) (c : ClassRef) (operation : Text) : Text :=
  Docblock.tidy ((((h.get c).function? operation).bind Function.doc).getD [])

/-- The interfaces in the lineage of a class. -/
def interfaces (h : Hierarchy) (c : ClassRef) : List ClassRef :=
  (h.lineage c).tail.filter h.isInterface

/-- The first base that is neither a mark nor an interface. -/
def parent? (h : Hierarchy) (c : ClassRef) : Option ClassRef :=
  (h.get c).bases.find? fun b ↦ !isMarker b && !h.isInterface b

/-- The hierarchy as a source; types are its classes. -/
def toSource (h : Hierarchy) : Source ClassRef where
  typeOf p := .ok p.classOf
  typeName := h.fullName
  operations := h.operations
  declaring? := h.declaring?
  ownDoc := h.ownDoc
  interfaces := h.interfaces
  parent? := h.parent?
  ownParameters? c operation := ((h.get c).function? operation).map Function.parameters

end Hierarchy

end ActorFacade
