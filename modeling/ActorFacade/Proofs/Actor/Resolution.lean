import ActorFacade.Proofs.Actor.Text
import ActorFacade.Proofs.Registry.Failures
import ActorFacade.Proofs.Registry.Settling

/-! # Operations of tables resolve

A registry without rows of its own has a table of operations that the types of its modules list, and
what a coherent source lists resolves.  That metadata is not found can only be said while the table
is made, of the type of a module (`resolve_of_resolveActions`).
-/

namespace ActorFacade

/-- The operation of a row is one of the type of its module. -/
theorem Registry.exists_listed_of_mem_table {ρ : Type} {s : Source ρ} {r : Registry}
    {modules : ResolvedModules} {table : ActionTable} (hplain : r.extraActions = [])
    (htable : (r.resolveActions s modules).result = .ok table) {row : Text × Text}
    (hrow : row ∈ table) :
    ∃ p t, (row.2, p) ∈ modules ∧ s.typeOf p = .ok t ∧ row.1 ∈ s.operations t := by
  obtain ⟨es, hes, rfl⟩ := (result_resolveActions_eq_ok_iff hplain).1 htable
  obtain ⟨before, p, after, rfl, hexposes, -⟩ := (mem_table_of_exposures hes).1 hrow
  obtain ⟨t, -, -, ht, -, -, hlisted, -⟩ := hexposes
  exact ⟨p, t, by simp, typeOf_of_typeOf_eq_ok ht, hlisted⟩

namespace Actor

/-- Some failures are that metadata is not found: an operation is not declared, or the type of a
provider is not described. -/
inductive IsNotFound : Fault → Prop where
  | undeclared (cause : Undeclared) : IsNotFound (.undeclared cause)
  | undescribed (name : Text) : IsNotFound (.registry (.undescribed name))

variable {ρ : Type} {s : Source ρ} {modules : ResolvedModules} {table : ActionTable}

/-- What a rendering needs of a table: the operations of its rows resolve for their modules, and the
types of all modules are described. -/
structure IsResolved (s : Source ρ) (modules : ResolvedModules) (table : ActionTable) : Prop where
  rows : ∀ row ∈ table, ∃ p t m, (row.2, p) ∈ modules ∧ s.typeOf p = .ok t ∧
    s.resolve t row.1 = .ok m
  types : ∀ m ∈ modules, ∃ t, s.typeOf m.2 = .ok t

/-- The table of a registry without rows of its own is resolved. -/
theorem isResolved_of_resolveActions {r : Registry} (hs : s.IsCoherent)
    (hplain : r.extraActions = [])
    (htable : (r.resolveActions s modules).result = .ok table) : IsResolved s modules table where
  rows := by
    intro row hrow
    obtain ⟨p, t, hp, ht, hlisted⟩ := Registry.exists_listed_of_mem_table hplain htable hrow
    obtain ⟨m, hm⟩ := hs.exists_resolve hlisted
    exact ⟨p, t, m, hp, ht, hm⟩
  types := Registry.exists_typeOf_of_resolveActions htable

/-! ## Rendering finds what it needs -/

namespace IsResolved

theorem failsOnly_methodsOf (h : IsResolved s modules table) (hnodup : (modules.map (·.1)).Nodup)
    {row : Text × Text} (hrow : row ∈ table) :
    FailsOnly (¬IsNotFound ·) (methodsOf s modules row.1 row.2) := by
  obtain ⟨p, t, m, hp, ht, hm⟩ := h.rows row hrow
  unfold methodsOf
  rw [(find?_fst_eq_some_iff hnodup).2 ⟨hp, rfl⟩]
  -- The type of the module is asked for a second time, and is the same.
  apply FailsOnly.bind
  · rw [ht]
    exact .ok t
  · intro t' ht'
    rw [ht] at ht'
    cases ht'
    apply FailsOnly.bind
    · rw [hm]
      exact .ok m
    · intro metadata _
      apply FailsOnly.mapError
      intro failure _
      cases failure <;> nofun

theorem failsOnly_collectMethods (h : IsResolved s modules table)
    (hnodup : (modules.map (·.1)).Nodup) :
    FailsOnly (¬IsNotFound ·) (collectMethods s modules table).result := by
  apply Logged.failsOnly_foldlM
  intro row hrow methods
  unfold addOperation
  split
  · exact .ok methods
  · refine Logged.failsOnly_bind (h.failsOnly_methodsOf hnodup hrow) ?_
    intro ms _
    apply Logged.failsOnly_foldlM
    intro m _ methods
    unfold addMethod
    split <;> exact .ok _

theorem failsOnly_render (h : IsResolved s modules table) (o : Options) (suite : Suite)
    (methods : List ActorMethod) :
    FailsOnly (¬IsNotFound ·) (render s o suite modules table methods) := by
  apply FailsOnly.bind
  · apply FailsOnly.mapM
    intro m hm
    obtain ⟨t, ht⟩ := h.types m hm
    unfold useLine
    rw [ht]
    exact .ok _
  · intro uses _
    refine FailsOnly.bind (.mapError fun _ _ ↦ nofun) ?_
    intro space _
    refine FailsOnly.bind (.mapError fun _ _ ↦ nofun) ?_
    intro hash _
    refine FailsOnly.bind (.mapError fun _ _ ↦ nofun) ?_
    intro name _
    refine FailsOnly.bind (.mapError ?_) fun inherited _ ↦ .ok _
    intro failure _
    cases failure <;> nofun

end IsResolved

/-! ## Where metadata is not found -/

variable {r : Registry} {o : Options} {suite : Suite}

/-- Metadata that a survey does not find is the type of a module, and the table is not made. -/
structure IsUndescribed (s : Source ρ) (r : Registry) (suite : Suite) (name : Text) : Prop where
  table : (r.actionTable suite).result = .error (.undescribed name)
  type : ∃ modules, (r.resolveModules suite).result = .ok modules ∧
    ∃ m ∈ modules, s.typeOf m.2 = .error name

/-- A failure says that metadata is not found of the type of a module, if it says so. -/
def IsOfType (s : Source ρ) (r : Registry) (suite : Suite) (e : Fault) : Prop :=
  IsNotFound e → ∃ name, e = .registry (.undescribed name) ∧ IsUndescribed s r suite name

theorem failsOnly_isOfType {α : Type} {x : Except Fault α} (hx : FailsOnly (¬IsNotFound ·) x) :
    FailsOnly (IsOfType s r suite) x := by
  refine hx.imp ?_
  intro e hnot hfound
  exact absurd hfound hnot

theorem failsOnly_survey (hsource : ∀ {α : Type} (f : {ρ : Type} → Source ρ → α),
      (r.settled suite).withSource f = f s) :
    FailsOnly (IsOfType s r suite) (survey r s suite).result := by
  unfold survey
  apply Logged.failsOnly_bind
  · apply FailsOnly.mapError
    intro e he hnot
    have hother := Registry.failsOnly_resolveModules r suite e he
    cases hnot
    cases hother
  · intro modules hmodules
    have hmodules := Logged.result_mapError_eq_ok_iff.1 hmodules
    apply Logged.failsOnly_bind
    · apply FailsOnly.mapError
      intro e he hnot
      have htype := Registry.failsOnly_resolveActions (r.settled suite) s modules e he
      cases hnot with
      | undescribed name =>
        refine ⟨name, rfl, ?_, modules, hmodules, htype name rfl⟩
        rw [Registry.actionTable, hsource, Logged.bind_of_ok hmodules]
        exact he
    · intro table _
      exact .ok _

theorem failsOnly_check {P : Fault → Prop} (hP : ∀ d, P (.suite d)) (suite : Suite) :
    FailsOnly P (check suite) := by
  unfold check
  split
  · exact .error (hP _)
  · exact .ok ()

/-- A rendering that does not find metadata has no table. -/
theorem failsOnly_produceWith (hs : s.IsCoherent) (hplain : r.extraActions = []) (o : Options)
    (hsource : ∀ {α : Type} (f : {ρ : Type} → Source ρ → α), (r.settled suite).withSource f = f s) :
    FailsOnly (IsOfType s r suite) (produceWith s r o suite).result := by
  unfold produceWith
  have hcheck : FailsOnly (¬IsNotFound ·) (check suite) := failsOnly_check (fun _ ↦ nofun) suite
  refine Logged.failsOnly_bind (failsOnly_isOfType hcheck) ?_
  intro _ _
  refine Logged.failsOnly_bind (.ok ()) ?_
  intro _ _
  refine Logged.failsOnly_bind (failsOnly_survey hsource) ?_
  rintro ⟨modules, table⟩ hsurvey
  obtain ⟨hmodules, htable⟩ := survey_eq_ok_iff.1 hsurvey
  have hnodup := Registry.nodup_of_resolveModules hmodules
  have hresolved : IsResolved s modules table :=
    isResolved_of_resolveActions hs ((Registry.extraActions_settled r suite).trans hplain) htable
  refine Logged.failsOnly_bind (.ok ()) ?_
  intro _ _
  refine Logged.failsOnly_bind (failsOnly_isOfType (hresolved.failsOnly_collectMethods hnodup)) ?_
  intro methods _
  refine Logged.failsOnly_bind (failsOnly_isOfType (hresolved.failsOnly_render o suite methods)) ?_
  intro text _
  exact .ok _

/-- Every operation of the table of a registry without rows of its own resolves, whether metadata
comes from declarations or from classes.  That metadata is not found can only be said of the type of
a module while the table is made.  A declared type that declares an operation has its parameters. -/
theorem resolve_of_resolveActions (hplain : r.extraActions = [])
    (hlawful : r.environment.hierarchy.IsLawful) :
    (∀ modules : ResolvedModules, (modules.map (·.1)).Nodup → r.withSource fun s ↦
      ∀ table, (r.resolveActions s modules).result = .ok table → ∀ row ∈ table, ∃ p t m,
        modules.find? (·.1 == row.2) = some (row.2, p) ∧ s.typeOf p = .ok t ∧
          s.resolve t row.1 = .ok m) ∧
    (∀ o suite e, (produce r o suite).result = .error e → IsNotFound e →
      ∃ name, e = .registry (.undescribed name) ∧
        (r.settled suite).withSource fun s ↦ IsUndescribed s r suite name) ∧
    ∀ (idx : Declarations) (h : Hierarchy) t operation d,
      (idx.toSource h).declaring t operation = .ok d →
        ∃ ps, (idx.toSource h).ownParameters? d operation = some ps := by
  refine ⟨?_, ?_, ?_⟩
  · intro modules hnodup
    obtain ⟨ρ, s, hs, hsource⟩ := Registry.exists_isCoherent hlawful
    rw [hsource]
    intro table htable row hrow
    obtain ⟨p, t, m, hp, ht, hm⟩ := (isResolved_of_resolveActions hs hplain htable).rows row hrow
    exact ⟨p, t, m, (find?_fst_eq_some_iff hnodup).2 ⟨hp, rfl⟩, ht, hm⟩
  · intro o suite e he hnot
    have hsettled := Registry.isLawful_settled hlawful suite
    obtain ⟨ρ, s, hs, hsource⟩ := Registry.exists_isCoherent hsettled
    rw [produce, hsource] at he
    obtain ⟨name, rfl, hname⟩ := failsOnly_produceWith hs hplain o hsource e he hnot
    refine ⟨name, rfl, ?_⟩
    rw [hsource]
    exact hname
  · intro idx h t operation d hd
    have hs := Declarations.isCoherent idx h
    exact Option.isSome_iff_exists.1 (hs.own ((Source.declaring_eq_ok_iff _).1 hd))

/-- A registry of declared types, none of which is that of its module. -/
def undescribedRegistry : Registry where
  kind := .declared
  providers := [("M", .value (.bool true))]
  useEntryPoints := false

/-- Operations of classes resolve, and a module that is no declared type has no table. -/
theorem resolve_of_resolveActions_restricted :
    let r := Registry.restrictedRegistry
    let s := r.environment.hierarchy.toSource
    r.extraActions = [] ∧ r.environment.hierarchy.IsLawful ∧
    (∃ p t m, Registry.restrictedModules.find? (·.1 == Text.ofString "User") =
        some (Text.ofString "User", p) ∧ s.typeOf p = .ok t ∧ s.resolve t "login" = .ok m) ∧
    undescribedRegistry.extraActions = [] ∧
    undescribedRegistry.environment.hierarchy.IsLawful ∧
    (produce undescribedRegistry {} (suiteOfModule "A")).result =
      .error (.registry (.undescribed "bool")) ∧
    (undescribedRegistry.actionTable (suiteOfModule "A")).result =
      .error (.undescribed "bool") := by
  intro r s
  have hlawful : r.environment.hierarchy.IsLawful := by decide
  have htable := Registry.result_restrictedTable
  obtain ⟨hrows, -, -⟩ := resolve_of_resolveActions (r := r) rfl hlawful
  have hlogin := hrows Registry.restrictedModules (by decide) Registry.restrictedTable htable
    (Text.ofString "login", Text.ofString "User") (by decide)
  have hfails : (produce undescribedRegistry {} (suiteOfModule "A")).result =
      .error (.registry (.undescribed "bool")) := by decide +kernel
  obtain ⟨-, hnotFound, -⟩ := resolve_of_resolveActions (r := undescribedRegistry) rfl .empty
  obtain ⟨name, hname, hundescribed⟩ := hnotFound {} (suiteOfModule "A") _ hfails (.undescribed _)
  cases hname
  exact ⟨rfl, hlawful, hlogin, rfl, .empty, hfails, hundescribed.table⟩

end Actor

end ActorFacade
