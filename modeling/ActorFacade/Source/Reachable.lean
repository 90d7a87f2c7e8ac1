import ActorFacade.Source.Declared

/-! # Reachable types

The declared types refer to others as parents and as interfaces.  `Reaches` is the closure of these
references, whether the types referred to are declared or not; it is what the walks through an index
go along.
-/

namespace ActorFacade.Declarations

/-- The names that a declaration refers to. -/
def references (d : TypeDeclaration) : List Text := d.parent.toList ++ d.interfaces

/-- One type is reached from another through references of declared types. -/
inductive Reaches (idx : Declarations) : Text → Text → Prop where
  | refl (t : Text) : Reaches idx t t
  | step {t u v : Text} {d : TypeDeclaration} (ht : Reaches idx t u) (hd : idx.find? u = some d)
      (hv : v ∈ references d) : Reaches idx t v

/-- The type with a name declares an operation itself. -/
def Declares (idx : Declarations) (t operation : Text) : Prop :=
  ∃ d, idx.find? t = some d ∧ d.declares operation = true

/-- The type with a name lists an interface itself. -/
def Lists (idx : Declarations) (t interface : Text) : Prop :=
  ∃ d, idx.find? t = some d ∧ interface ∈ d.interfaces

/-- The first declaration of the lineage of a type that declares an operation. -/
def nearest? (idx : Declarations) (t operation : Text) : Option TypeDeclaration :=
  (idx.lineage t).find? fun d ↦ d.declares operation

theorem Reaches.trans {idx : Declarations} {t u v : Text} (htu : idx.Reaches t u)
    (huv : idx.Reaches u v) : idx.Reaches t v := by
  induction huv with
  | refl => exact htu
  | step _ hd hv ih => exact .step ih hd hv

/-- A parent is reached. -/
theorem Reaches.parent {idx : Declarations} {t p : Text} {d : TypeDeclaration}
    (hd : idx.find? t = some d) (hp : d.parent = some p) : idx.Reaches t p :=
  .step (.refl t) hd (by simp [references, hp])

/-- An interface is reached. -/
theorem Reaches.interface {idx : Declarations} {t i : Text} {d : TypeDeclaration}
    (hd : idx.find? t = some d) (hi : i ∈ d.interfaces) : idx.Reaches t i :=
  .step (.refl t) hd (by simp [references, hi])

end ActorFacade.Declarations
