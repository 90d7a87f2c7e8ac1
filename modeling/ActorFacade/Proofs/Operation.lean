import ActorFacade.Operation
import Mathlib.Data.List.Basic

/-! # Names of methods

The name of a conditional variant begins with `can`, so that it is never the name of a check
(`kind_conditionalName`).
-/

namespace ActorFacade.Operation

/-- Whether an operation checks something. -/
def IsCheck (operation : Text) : Prop := kind operation = .sight ∨ kind operation = .absence

/-- The name of the conditional variant of an operation, if it has one. -/
def conditionalName? (operation : Text) : Option Text :=
  match kind operation with
  | .sight => some (canName operation)
  | .absence => some (cantName operation)
  | .condition | .action => none

/-- The beginning of a text comes first. -/
theorem exists_append_of_startsWith {t lead : Text} (h : t.startsWith lead = true) :
    ∃ rest, t = lead ++ rest := by
  obtain ⟨rest, hrest⟩ := List.isPrefixOf_iff_prefix.1 h
  exact ⟨rest, hrest.symm⟩

theorem startsWith_of_kind_absence {operation : Text} (h : kind operation = .absence) :
    operation.startsWith "dontSee" = true := by
  unfold kind at h
  split at h
  case isTrue => cases h
  split at h
  case isTrue hlead => exact hlead
  case isFalse => split at h <;> cases h

/-- The conditional variant of a check for absence begins with `cant`. -/
theorem exists_cantName {operation : Text} (h : kind operation = .absence) :
    ∃ rest, cantName operation = "cant" ++ rest := by
  obtain ⟨rest, rfl⟩ := exists_append_of_startsWith (startsWith_of_kind_absence h)
  exact ⟨_, rfl⟩

/-- No name that begins with a `c` is that of a check or of a condition. -/
theorem kind_cons (t : Text) : kind (0x63 :: t) = .action := rfl

/-- The name of a conditional variant is that of an action. -/
theorem kind_conditionalName {operation name : Text}
    (h : conditionalName? operation = some name) : kind name = .action := by
  unfold conditionalName? at h
  split at h
  case h_1 =>
    cases h
    exact kind_cons _
  case h_2 habsence =>
    cases h
    obtain ⟨rest, hrest⟩ := exists_cantName habsence
    rw [hrest]
    exact kind_cons _
  case h_3 | h_4 => cases h

theorem not_isCheck_of_action {operation : Text} (h : kind operation = .action) :
    ¬IsCheck operation := by
  simp [IsCheck, h]

/-! ## Variants -/

/-- The kind of step that an operation takes under its own name. -/
def ownRole (operation : Text) : Role :=
  match kind operation with
  | .sight | .absence => .assertion
  | .condition => .condition
  | .action => .action

/-- A check is an assertion under its own name. -/
theorem ownRole_of_isCheck {operation : Text} (h : IsCheck operation) :
    ownRole operation = .assertion := by
  rcases h with h | h <;> simp [ownRole, h]

/-- The conditional variant comes before the one of the operation's own name. -/
theorem variants_eq (operation : Text) : variants operation =
    (conditionalName? operation).toList.map (⟨·, .conditionalAssertion⟩) ++
      [⟨operation, ownRole operation⟩] := by
  unfold variants conditionalName? ownRole
  cases kind operation <;> rfl

theorem actionNames_eq (operation : Text) :
    actionNames operation = (conditionalName? operation).toList ++ [operation] := by
  rw [actionNames, variants_eq]
  cases conditionalName? operation <;> rfl

theorem conditionalName?_of_action {operation : Text} (h : kind operation = .action) :
    conditionalName? operation = none := by
  simp [conditionalName?, h]

/-- A conditional variant does not have the name of its operation. -/
theorem conditionalName?_ne (operation : Text) :
    conditionalName? operation ≠ some operation := by
  intro h
  rw [conditionalName?_of_action (kind_conditionalName h)] at h
  cases h

end ActorFacade.Operation
