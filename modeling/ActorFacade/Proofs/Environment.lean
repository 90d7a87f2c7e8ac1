import ActorFacade.Environment
import ActorFacade.Proofs.Except

/-! # What looking for objects fails with

Looking for an object fails because something is missing, or because an object on the way fails
itself.  Only the form of a reference can fail in another way: its module has no name, or one that
is relative to nothing (`lookup_of_isMalformed`).
-/

namespace ActorFacade

namespace ImportError

/-- Whether an error is a failure of an object that is looked at. -/
def isOfObject : ImportError → Bool
  | .attribute (.computation _) | .places _ => true
  | _ => false

/-- An error of looking for an object is that something is missing, or a failure of an object. -/
def IsOfLooking (e : ImportError) : Prop := e.isMissing = true ∨ e.isOfObject = true

theorem isOfLooking_attribute (cause : AttributeError) : IsOfLooking (.attribute cause) := by
  cases cause with
  | computation => exact .inr rfl
  | _ => exact .inl rfl

end ImportError

namespace Environment

open ImportError (IsOfLooking isOfLooking_attribute)

/-- The module of a reference has no name, or one that is relative to nothing. -/
def IsMalformed (reference : Text) : Prop :=
  (splitReference reference).1.isEmpty = true ∨
    (splitReference reference).1.startsWith "." = true

variable {env : Environment} {reference : Text}

theorem failsOnly_moduleAttribute (env : Environment) (module name : Text) :
    FailsOnly IsOfLooking (env.moduleAttribute module name) := by
  have hseen (p : Provider) (a : Found) : FailsOnly IsOfLooking
      ((Provider.ofObjectSlot env.hierarchy p a).mapError ImportError.attribute) :=
    .mapError fun _ _ ↦ isOfLooking_attribute _
  unfold moduleAttribute
  simp only
  split
  · split
    · exact hseen _ _
    · split
      · exact .ok _
      · exact hseen _ _
  · exact .ok _
  · split
    · exact .mapError fun _ _ ↦ isOfLooking_attribute _
    · refine .error ?_
      unfold lacksAttribute
      split <;> exact .inl rfl

theorem failsOnly_attributeOf (env : Environment) (p : Provider) (name : Text) :
    FailsOnly IsOfLooking (env.attributeOf p name) := by
  unfold attributeOf
  split
  · exact failsOnly_moduleAttribute env _ name
  · exact .mapError fun _ _ ↦ isOfLooking_attribute _

theorem failsOnly_follow (env : Environment) (module : Text) (path : List Text) :
    FailsOnly IsOfLooking (env.follow module path) := by
  suffices ∀ p, FailsOnly IsOfLooking (path.foldlM env.attributeOf p) from this _
  induction path with
  | nil => exact fun p ↦ .ok p
  | cons name path ih =>
    intro p
    rw [List.foldlM_cons]
    exact (failsOnly_attributeOf env p name).bind fun q _ ↦ ih q

theorem failsOnly_checkPlaces (env : Environment) (places : Provider) :
    FailsOnly IsOfLooking (env.checkPlaces places) := by
  unfold checkPlaces
  split
  · exact .ok ()
  · exact .mapError fun _ _ ↦ .inr rfl
  · exact .error (.inr rfl)

theorem isOfLooking_missingModule (env : Environment) (name : Text) :
    IsOfLooking (env.missingModule name) := by
  unfold missingModule
  simp only
  split
  case h_1 =>
    unfold missingWithin
    split
    case h_1 places _ =>
      split
      case h_1 => exact .inl rfl
      case h_2 e he => exact failsOnly_checkPlaces env places e he
    case h_2 e he =>
      split
      · exact .inl rfl
      · exact failsOnly_moduleAttribute env _ _ e he
  case h_2 => exact .inl rfl

/-- A malformed reference is looked up in vain. -/
theorem lookup_of_isMalformed (h : IsMalformed reference) :
    env.lookup reference = .error (
      if (splitReference reference).1.isEmpty then .emptyName
      else .relative (splitReference reference).1) := by
  unfold lookup
  simp only [importModule]
  split
  case isTrue => rfl
  case isFalse hname =>
    rw [if_pos (h.resolve_left hname)]
    rfl

theorem isMissing_of_isMalformed (h : IsMalformed reference) {cause : ImportError}
    (hcause : env.lookup reference = .error cause) : cause.isMissing = false := by
  rw [lookup_of_isMalformed h] at hcause
  cases hcause
  split <;> rfl

/-- All other references are looked up as objects are. -/
theorem failsOnly_lookup (h : ¬IsMalformed reference) :
    FailsOnly IsOfLooking (env.lookup reference) := by
  obtain ⟨hname, hrelative⟩ := not_or.1 h
  unfold lookup
  simp only [importModule, if_neg hname, if_neg hrelative]
  apply FailsOnly.bind
  · split
    · exact .ok ()
    · exact .error (isOfLooking_missingModule env _)
  · intro _ _
    exact failsOnly_follow env _ _

end Environment

end ActorFacade
