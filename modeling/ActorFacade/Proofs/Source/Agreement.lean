import ActorFacade.Proofs.Except
import ActorFacade.Source.Basic
import Mathlib.Data.List.Find

/-! # Sources that agree

Two sources know the same types by different references, and one reference is turned into the other.
If they find the same types for operations, the parameters they give are the same
(`Source.FindOn.parameters`).  If they also give the same interfaces and parents, and these types
refer to one another only, then operations resolve alike, with the same failures
(`Source.AgreeOn.resolve`).
-/

namespace ActorFacade

variable {ρ σ : Type}

/-- What an actor needs to know about an operation, with another reference to the type. -/
def MethodMetadata.map (f : ρ → σ) (m : MethodMetadata ρ) : MethodMetadata σ where
  operation := m.operation
  declaring := f m.declaring
  declaringName := m.declaringName
  parameters := m.parameters
  doc := m.doc

namespace Source

/-- Two sources find the same types with a property for their operations, and these types declare
the same. -/
structure FindOn (P : ρ → Prop) (f : ρ → σ) (s : Source ρ) (s' : Source σ) : Prop where
  typeName : ∀ {t}, P t → s'.typeName (f t) = s.typeName t
  declaring? : ∀ {t}, P t → ∀ operation,
    s'.declaring? (f t) operation = (s.declaring? t operation).map f
  ownDoc : ∀ {t}, P t → ∀ operation, s'.ownDoc (f t) operation = s.ownDoc t operation
  ownParameters? : ∀ {t}, P t → ∀ operation,
    s'.ownParameters? (f t) operation = s.ownParameters? t operation
  of_declaring? : ∀ {t operation d}, P t → s.declaring? t operation = some d → P d

/-- The types also refer to the same interfaces and parents, which have the property. -/
structure AgreeOn (P : ρ → Prop) (f : ρ → σ) (s : Source ρ) (s' : Source σ) : Prop extends
    FindOn P f s s' where
  interfaces : ∀ {t}, P t → s'.interfaces (f t) = (s.interfaces t).map f
  parent? : ∀ {t}, P t → s'.parent? (f t) = (s.parent? t).map f
  of_mem_interfaces : ∀ {t i}, P t → i ∈ s.interfaces t → P i
  of_parent? : ∀ {t p}, P t → s.parent? t = some p → P p

variable {P : ρ → Prop} {f : ρ → σ} {s : Source ρ} {s' : Source σ} {t : ρ}

namespace FindOn

theorem hasOperation (h : FindOn P f s s') (ht : P t) (operation : Text) :
    s'.hasOperation (f t) operation = s.hasOperation t operation := by
  rw [Source.hasOperation, Source.hasOperation, h.declaring? ht, Option.isSome_map]

theorem undeclared (h : FindOn P f s s') (ht : P t) (operation : Text) :
    s'.undeclared (f t) operation = s.undeclared t operation := by
  rw [Source.undeclared, Source.undeclared, h.typeName ht]

theorem declaring (h : FindOn P f s s') (ht : P t) (operation : Text) :
    s'.declaring (f t) operation = (s.declaring t operation).map f := by
  rw [Source.declaring, Source.declaring, h.declaring? ht, h.undeclared ht]
  cases s.declaring? t operation <;> rfl

theorem parameters (h : FindOn P f s s') (ht : P t) (operation : Text) :
    s'.parameters (f t) operation = s.parameters t operation := by
  unfold Source.parameters
  rw [h.declaring ht]
  cases hd : s.declaring t operation with
  | error e => rfl
  | ok d =>
    have hP := h.of_declaring? ht (s.declaring_eq_ok_iff.1 hd)
    simp only [Except.map, bind, Except.bind, h.ownParameters? hP, h.undeclared hP]

theorem declaredDoc (h : FindOn P f s s') (ht : P t) (operation : Text) :
    s'.declaredDoc (f t) operation = s.declaredDoc t operation := by
  unfold Source.declaredDoc
  rw [h.declaring? ht]
  cases hd : s.declaring? t operation with
  | none => rfl
  | some d => exact h.ownDoc (h.of_declaring? ht hd) operation

end FindOn

namespace AgreeOn

theorem interfaceDoc (h : AgreeOn P f s s') (ht : P t) (operation : Text) :
    s'.interfaceDoc (f t) operation = s.interfaceDoc t operation := by
  have hfind : (s'.interfaces (f t)).find? (fun i ↦ s'.hasOperation i operation) =
      ((s.interfaces t).find? fun i ↦ s.hasOperation i operation).map f := by
    rw [h.interfaces ht, List.find?_map]
    refine congrArg (Option.map f) (List.find?_congr fun i hi ↦ ?_)
    exact h.hasOperation (h.of_mem_interfaces ht hi) operation
  unfold Source.interfaceDoc
  rw [hfind]
  cases hi : (s.interfaces t).find? fun i ↦ s.hasOperation i operation with
  | none => rfl
  | some i =>
    exact h.declaredDoc (h.of_mem_interfaces ht (List.mem_of_find?_eq_some hi)) operation

theorem parentDoc (h : AgreeOn P f s s') (ht : P t) (operation : Text) :
    s'.parentDoc (f t) operation = s.parentDoc t operation := by
  unfold Source.parentDoc
  rw [h.parent? ht]
  cases hp : s.parent? t with
  | none => rfl
  | some p => exact h.ownDoc (h.of_parent? ht hp) operation

theorem docOf (h : AgreeOn P f s s') (ht : P t) (operation : Text) :
    s'.docOf (f t) operation = s.docOf t operation := by
  unfold Source.docOf
  rw [h.ownDoc ht, h.interfaceDoc ht, h.parentDoc ht]

/-- Operations resolve alike. -/
theorem resolve (h : AgreeOn P f s s') (ht : P t) (operation : Text) :
    s'.resolve (f t) operation = (s.resolve t operation).map (MethodMetadata.map f) := by
  unfold Source.resolve
  rw [h.declaring ht]
  cases hd : s.declaring t operation with
  | error e => rfl
  | ok d =>
    have hP := h.of_declaring? ht (s.declaring_eq_ok_iff.1 hd)
    simp only [Except.map, bind, Except.bind, h.parameters hP, h.typeName hP, h.docOf hP]
    cases s.parameters d operation <;> rfl

end AgreeOn

end Source

end ActorFacade
