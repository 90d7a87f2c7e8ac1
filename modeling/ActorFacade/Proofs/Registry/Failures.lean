import ActorFacade.Proofs.Registry.Exposure

/-! # What registries fail with

A type that is not described is found out about when the operations of modules are merged, and only
by asking for the type of one of them (`failsOnly_resolveActions`).  Making modules does not ask for
types of metadata (`failsOnly_resolveModules`).
-/

namespace ActorFacade.Registry

/-- Whether a failure is that a type is not described. -/
def Fault.isUndescribed : Fault → Bool
  | .undescribed _ => true
  | _ => false

variable {r : Registry} {h : Hierarchy}

/-! ## Making modules -/

theorem failsOnly_requireClass (h : Hierarchy) (p : Provider) :
    FailsOnly (·.isUndescribed = false) (requireClass h p) := by
  unfold requireClass
  split
  · split
    · split
      · exact .ok ()
      · exact .error rfl
    · exact .ok ()
  · exact .ok ()

theorem failsOnly_lookup (r : Registry) (name : Text) :
    FailsOnly (·.isUndescribed = false) (r.lookup name) := by
  unfold lookup
  split
  · exact .ok _
  · exact .mapError fun _ _ ↦ rfl
  · apply FailsOnly.mapError
    intro e _
    split <;> rfl
  · exact .error rfl

theorem isUndescribed_unnamed (name : Value) : (unnamed name).isUndescribed = false := by
  unfold unnamed
  split
  · rfl
  · split <;> rfl
  · rfl

theorem failsOnly_plan (r : Registry) (suite : Suite) (resolved : ResolvedModules) (name : Value) :
    FailsOnly (·.isUndescribed = false) (r.plan suite resolved name) := by
  unfold plan
  split
  case h_1 => exact .error rfl
  case h_2 => exact .error (isUndescribed_unnamed name)
  case h_3 t _ _ =>
    split
    · exact .ok none
    · apply (failsOnly_lookup r t).bind
      intro object _
      exact FailsOnly.bind (.mapError fun _ _ ↦ rfl) fun options _ ↦ .ok _

theorem failsOnly_instantiate (h : Hierarchy) (name : Text) (object : Provider) (options : Value) :
    FailsOnly (·.isUndescribed = false) (instantiate h name object options) := by
  have hmade (e : CallError) : (notMade name e).isUndescribed = false := by
    unfold notMade
    split <;> rfl
  unfold instantiate
  simp only
  split
  · exact .mapError fun e _ ↦ hmade e
  · exact .mapError fun e _ ↦ hmade e
  · exact (failsOnly_requireClass h _).map

theorem failsOnly_resolveFrom (suite : Suite) (r : Registry) (resolved : ResolvedModules)
    (names : List Value) :
    FailsOnly (·.isUndescribed = false) (resolveFrom suite r resolved names).2 := by
  induction names generalizing r resolved with
  | nil => exact .ok resolved
  | cons name names ih =>
    rw [resolveFrom]
    split
    case h_1 e hplan => exact .error (failsOnly_plan r suite resolved name e hplan)
    case h_2 => exact ih r resolved
    case h_3 p _ =>
      simp only
      split
      case h_1 e hmade => exact .error (failsOnly_instantiate _ _ _ _ e hmade)
      case h_2 => exact ih _ _

theorem failsOnly_resolveModules (r : Registry) (suite : Suite) :
    FailsOnly (·.isUndescribed = false) (r.resolveModules suite).result := by
  apply Logged.failsOnly_bind
  · exact .mapError fun _ _ ↦ rfl
  · intro names _
    refine Logged.failsOnly_bind (failsOnly_resolveFrom suite r [] names) ?_
    intro resolved _
    exact .ok resolved

/-! ## Merging operations -/

variable {ρ : Type} {s : Source ρ} {env : Environment} {modules : ResolvedModules}

/-- The type of one of some providers is not described, if that is what a failure says. -/
def IsOfType (s : Source ρ) (modules : ResolvedModules) (e : Fault) : Prop :=
  ∀ name, e = .undescribed name → ∃ m ∈ modules, s.typeOf m.2 = .error name

theorem isOfType_of_isUndescribed {e : Fault} (he : e.isUndescribed = false) :
    IsOfType s modules e := by
  rintro name rfl
  cases he

theorem typeOf_of_typeOf_eq_ok {p : Provider} {t : ρ} (ht : typeOf s h p = .ok t) :
    s.typeOf p = .ok t := by
  obtain ⟨-, -, ht⟩ := bind_eq_ok_iff.1 ht
  exact mapError_eq_ok_iff.1 ht

theorem failsOnly_exposed {m : Text × Provider} (hm : m ∈ modules) :
    FailsOnly (IsOfType s modules) (exposed s env m.2) := by
  -- Of the three things that are asked of a provider only the type is metadata.
  apply FailsOnly.bind
  · apply FailsOnly.bind
    · exact (failsOnly_requireClass _ _).imp fun _ ↦ isOfType_of_isUndescribed
    · intro _ _
      apply FailsOnly.mapError
      intro name herror name' hname
      cases hname
      exact ⟨m, hm, herror⟩
  · intro t _
    apply FailsOnly.bind (.mapError fun _ _ ↦ isOfType_of_isUndescribed rfl)
    intro only _
    exact FailsOnly.bind (.mapError fun _ _ ↦ isOfType_of_isUndescribed rfl) fun _ _ ↦ .ok _

theorem failsOnly_addOperation {P : Fault → Prop} (module : Text) (table : ActionTable)
    (operation : Text) : FailsOnly P (addOperation module table operation).result := by
  unfold addOperation
  split
  · exact .ok _
  · split <;> exact .ok _

/-- That a type is not described is said of the type of some module. -/
theorem failsOnly_resolveActions (r : Registry) (s : Source ρ) (modules : ResolvedModules) :
    FailsOnly (IsOfType s modules) (r.resolveActions s modules).result := by
  refine Logged.failsOnly_bind (Logged.failsOnly_foldlM ?_ []) fun _ _ ↦ .ok _
  intro m hm table
  refine Logged.failsOnly_bind (failsOnly_exposed hm) ?_
  intro operations _
  apply Logged.failsOnly_foldlM
  intro operation _ table
  exact failsOnly_addOperation m.1 table operation

/-! ## Tables that are there -/

/-- A table is made of modules of which the types are described. -/
theorem exists_typeOf_of_resolveActions {table : ActionTable}
    (h : (r.resolveActions s modules).result = .ok table) :
    ∀ m ∈ modules, ∃ t, s.typeOf m.2 = .ok t := by
  obtain ⟨merged, hmerged, -⟩ := Logged.result_bind_eq_ok_iff.1 h
  obtain ⟨es, hes, -⟩ := mergeOperations_eq_ok_iff.1 hmerged
  intro m hm
  obtain ⟨e, he⟩ := exists_of_mapM hes m hm
  obtain ⟨operations, hexposed, -⟩ := bind_eq_ok_iff.1 he
  obtain ⟨t, -, -, ht, -⟩ := exposed_eq_ok_iff.1 hexposed
  exact ⟨t, typeOf_of_typeOf_eq_ok ht⟩

end ActorFacade.Registry
