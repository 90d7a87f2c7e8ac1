import ActorFacade.Inherited
import ActorFacade.Proofs.Except

/-! # Signatures that cannot be written

A signature fails with the first of its parameters whose default has to be written and has no
literal, and so do the lines about inherited methods (`ofParameters_eq_error_iff`,
`lines_eq_error_iff`).
-/

namespace ActorFacade

/-- The first find among the parts of some things is that of the first thing with one. -/
theorem findSome?_flatMap {α β γ : Type} (f : β → Option γ) (parts : α → List β) (xs : List α) :
    (xs.flatMap parts).findSome? f = xs.findSome? fun x ↦ (parts x).findSome? f := by
  induction xs with
  | nil => rfl
  | cons x xs ih =>
    rw [List.flatMap_cons, List.findSome?_append, ih, List.findSome?_cons]
    cases (parts x).findSome? f <;> rfl

namespace Signature

/-- The failure of a signature at a parameter whose default fails to be written. -/
def Failure.ofDefault (p : Parameter) : Literal.WriteError → Failure
  | .unsupported typeName => .unsupported p.name typeName
  | .limit e => .limit e

/-- Why the default of a parameter cannot be written, if it is to be and cannot. -/
def refusal? (p : Parameter) : Option Literal.WriteError :=
  if p.optional && (constant? p).isNone then failure? (Literal.write p.default) else none

theorem refusal?_eq_some_iff {p : Parameter} {cause : Literal.WriteError} :
    refusal? p = some cause ↔
      p.optional = true ∧ constant? p = none ∧ Literal.write p.default = .error cause := by
  unfold refusal?
  cases p.optional <;> cases constant? p <;> simp [failure?_eq_some_iff]

/-- Of some parameters one is written, because the defaults of those before it are. -/
def IsReached (ps : List Parameter) (p : Parameter) : Prop :=
  ∃ earlier later, ps = earlier ++ p :: later ∧ ∀ q ∈ earlier, refusal? q = none

/-- The first failure of some parameters is that of one that is reached. -/
theorem findSome?_refusal?_eq_some_iff {ps : List Parameter} {f : Failure} :
    (ps.findSome? fun p ↦ (refusal? p).map (Failure.ofDefault p)) = some f ↔
      ∃ p cause, IsReached ps p ∧ refusal? p = some cause ∧ f = Failure.ofDefault p cause := by
  rw [List.findSome?_eq_some_iff]
  simp only [Option.map_eq_some_iff, Option.map_eq_none_iff]
  constructor
  · rintro ⟨earlier, p, later, hps, ⟨cause, hcause, rfl⟩, hearlier⟩
    exact ⟨p, cause, ⟨earlier, later, hps, hearlier⟩, hcause, rfl⟩
  · rintro ⟨p, cause, ⟨earlier, later, hps, hearlier⟩, hcause, rfl⟩
    exact ⟨earlier, p, later, hps, ⟨cause, hcause, rfl⟩, hearlier⟩

theorem failure?_parameterText (declaringType : Text) (p : Parameter) :
    failure? (parameterText declaringType p) = (refusal? p).map (Failure.ofDefault p) := by
  unfold parameterText refusal? defaultText
  cases p.optional with
  | false => rfl
  | true =>
    cases constant? p with
    | some constant => rfl
    | none =>
      simp only [Bool.true_and, Option.isNone_none, if_true]
      cases Literal.write p.default with
      | ok t => rfl
      | error e => cases e <;> rfl

/-- A signature fails at the first parameter whose default cannot be written. -/
theorem failure?_ofParameters (ps : List Parameter) (declaringType : Text) :
    failure? (ofParameters ps declaringType) =
      ps.findSome? fun p ↦ (refusal? p).map (Failure.ofDefault p) := by
  have hmap : failure? (ofParameters ps declaringType) =
      failure? (ps.mapM (parameterText declaringType)) := failure?_bind_ok _ _
  rw [hmap, failure?_mapM]
  simp only [failure?_parameterText]

theorem ofParameters_eq_error_iff {ps : List Parameter} {declaringType : Text} {f : Failure} :
    ofParameters ps declaringType = .error f ↔
      ∃ p cause, IsReached ps p ∧ refusal? p = some cause ∧ f = Failure.ofDefault p cause := by
  rw [← failure?_eq_some_iff, failure?_ofParameters, findSome?_refusal?_eq_some_iff]

end Signature

namespace Inherited

/-- The lines about inherited methods fail at the first parameter whose default cannot be written.
-/
theorem failure?_lines (base : TypeDeclaration) :
    failure? (lines base) = ((listed base).flatMap (·.parameters)).findSome? fun p ↦
      (Signature.refusal? p).map (Signature.Failure.ofDefault p) := by
  have hmap : failure? (lines base) = failure? ((listed base).mapM (line base)) :=
    failure?_bind_ok _ _
  have hline (m : MethodDeclaration) :
      failure? (line base m) = failure? (Signature.ofParameters m.parameters base.name) :=
    failure?_bind_ok _ _
  rw [hmap, failure?_mapM, findSome?_flatMap]
  simp only [hline, Signature.failure?_ofParameters]

theorem lines_eq_error_iff {base : TypeDeclaration} {f : Signature.Failure} :
    lines base = .error f ↔ ∃ p cause,
      Signature.IsReached ((listed base).flatMap (·.parameters)) p ∧
        Signature.refusal? p = some cause ∧ f = Signature.Failure.ofDefault p cause := by
  rw [← failure?_eq_some_iff, failure?_lines, Signature.findSome?_refusal?_eq_some_iff]

end Inherited

end ActorFacade
