import ActorFacade.Provider

/-! # Sources of metadata

A source describes types, which it knows by references of its own choice: their operations, where an
operation is declared, what interfaces and parent a type has.  `resolve` collects what an actor
needs to know about one operation.  Documentation that the declaring type lacks is inherited from
the first of its interfaces that has the operation, and failing that from its parent.
-/

namespace ActorFacade

/-- An operation is not declared where it was looked for, on the type of a name. -/
structure Undeclared where
  /-- The operation. -/
  operation : Text
  /-- The name of the type. -/
  typeName : Text
deriving DecidableEq, Repr

/-- The wording of a missing operation. -/
def Undeclared.message (e : Undeclared) : Text :=
  "Operation '" ++ e.operation ++ "' is not declared on '" ++ e.typeName ++ "'"

/-- Facts about types, which are known by references. -/
structure Source (ρ : Type) where
  /-- The type of a provider; the other result is the name of a type that is not described. -/
  typeOf : Provider → Except Text ρ
  /-- The name of a type. -/
  typeName : ρ → Text
  /-- The operations of a type, in order of declaration. -/
  operations : ρ → List Text
  /-- The type that declares an operation of a type. -/
  declaring? : ρ → Text → Option ρ
  /-- The documentation that a type itself gives for an operation. -/
  ownDoc : ρ → Text → Text
  /-- The interfaces of a type. -/
  interfaces : ρ → List ρ
  /-- The parent of a type. -/
  parent? : ρ → Option ρ
  /-- The parameters that a type itself declares for an operation. -/
  ownParameters? : ρ → Text → Option (List Parameter)

/-- What an actor needs to know about an operation. -/
structure MethodMetadata (ρ : Type) where
  /-- The operation. -/
  operation : Text
  /-- The type that declares it. -/
  declaring : ρ
  /-- The name of this type. -/
  declaringName : Text
  /-- Its parameters. -/
  parameters : List Parameter
  /-- Its documentation. -/
  doc : Text
deriving DecidableEq, Repr

namespace Source

/-- The wording for a provider of a type that is not described. -/
def undescribed (typeName : Text) : Text :=
  "No declaration registered for provider of type " ++ typeName

variable {ρ : Type} (s : Source ρ)

/-- The failure to find an operation on a type. -/
def undeclared (t : ρ) (operation : Text) : Undeclared := ⟨operation, s.typeName t⟩

/-- Whether a type has an operation. -/
def hasOperation (t : ρ) (operation : Text) : Bool := (s.declaring? t operation).isSome

/-- The type that declares an operation of a type. -/
def declaring (t : ρ) (operation : Text) : Except Undeclared ρ :=
  match s.declaring? t operation with
  | some d => .ok d
  | none => .error (s.undeclared t operation)

theorem declaring_eq_ok_iff {t d : ρ} {operation : Text} :
    s.declaring t operation = .ok d ↔ s.declaring? t operation = some d := by
  rw [declaring]
  cases s.declaring? t operation <;> simp

/-- The parameters of an operation of a type, as they are where it is declared. -/
def parameters (t : ρ) (operation : Text) : Except Undeclared (List Parameter) := do
  let d ← s.declaring t operation
  match s.ownParameters? d operation with
  | some ps => return ps
  | none => throw (s.undeclared d operation)

/-! ## Documentation -/

/-- The documentation where an operation is declared, empty when it is declared nowhere. -/
def declaredDoc (t : ρ) (operation : Text) : Text :=
  match s.declaring? t operation with
  | some d => s.ownDoc d operation
  | none => []

/-- The documentation of the first interface that has an operation, even when it is empty. -/
def interfaceDoc (t : ρ) (operation : Text) : Text :=
  match (s.interfaces t).find? fun i ↦ s.hasOperation i operation with
  | some i => s.declaredDoc i operation
  | none => []

/-- The documentation that the parent of a type itself gives. -/
def parentDoc (t : ρ) (operation : Text) : Text :=
  match s.parent? t with
  | some p => s.ownDoc p operation
  | none => []

/-- The first of the documentations of an operation that is not empty. -/
def docOf (t : ρ) (operation : Text) : Text :=
  match s.ownDoc t operation with
  | [] => match s.interfaceDoc t operation with
    | [] => s.parentDoc t operation
    | doc => doc
  | doc => doc

/-- Everything about an operation of a type; all of it is taken from where it is declared. -/
def resolve (t : ρ) (operation : Text) : Except Undeclared (MethodMetadata ρ) := do
  let d ← s.declaring t operation
  let parameters ← s.parameters d operation
  return ⟨operation, d, s.typeName d, parameters, s.docOf d operation⟩

end Source

end ActorFacade
