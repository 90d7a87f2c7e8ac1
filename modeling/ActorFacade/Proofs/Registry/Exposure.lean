import ActorFacade.Proofs.Registry.Precedence

/-! # The tables of registries

Without rows of its own, a registry has the table of what the providers of its modules expose
(`result_resolveActions_eq_ok_iff`): an operation is there if some provider exposes it, belongs to
the first one that does, and stands where it is first exposed.  Modules behind change nothing of
that (`table_of_resolveActions`).
-/

namespace ActorFacade.Registry

variable {ρ : Type} {s : Source ρ} {env : Environment} {modules : ResolvedModules}

/-! ## Exposed operations -/

/-- A provider exposes an operation of its type that has no underscore in front, is among the only
ones that the provider has, if it names such, and is not among those that it has not. -/
def Exposes (s : Source ρ) (env : Environment) (p : Provider) (operation : Text) : Prop :=
  ∃ t only exclude, typeOf s env.hierarchy p = .ok t ∧ env.only p = .ok only ∧
    env.exclude p = .ok exclude ∧ operation ∈ s.operations t ∧
    Text.startsWith operation "_" = false ∧ (only ≠ [] → isNamed operation only = true) ∧
    isNamed operation exclude = false

theorem isExposed_iff {only exclude : List Value} {operation : Text} :
    isExposed only exclude operation = true ↔ Text.startsWith operation "_" = false ∧
      (only ≠ [] → isNamed operation only = true) ∧ isNamed operation exclude = false := by
  simp only [isExposed, isOpen, Bool.and_eq_true, Bool.or_eq_true, Bool.not_eq_true',
    List.isEmpty_iff, ne_eq, ← Classical.or_iff_not_imp_left, and_assoc]

theorem exposed_eq_ok_iff {p : Provider} {operations : List Text} :
    exposed s env p = .ok operations ↔ ∃ t only exclude, typeOf s env.hierarchy p = .ok t ∧
      env.only p = .ok only ∧ env.exclude p = .ok exclude ∧
      operations = (s.operations t).filter (isExposed only exclude) := by
  simp only [exposed, bind_eq_ok_iff, mapError_eq_ok_iff, pure, Except.pure, Except.ok.injEq]
  constructor
  · rintro ⟨t, ht, only, honly, exclude, hexclude, rfl⟩
    exact ⟨t, only, exclude, ht, honly, hexclude, rfl⟩
  · rintro ⟨t, only, exclude, ht, honly, hexclude, rfl⟩
    exact ⟨t, ht, only, honly, exclude, hexclude, rfl⟩

/-- What a provider exposes is listed. -/
theorem mem_exposed_iff {p : Provider} {operations : List Text} {operation : Text}
    (h : exposed s env p = .ok operations) :
    operation ∈ operations ↔ Exposes s env p operation := by
  obtain ⟨t, only, exclude, ht, honly, hexclude, rfl⟩ := exposed_eq_ok_iff.1 h
  rw [List.mem_filter, isExposed_iff]
  constructor
  · rintro ⟨hmem, hopen, hnamed, hexcluded⟩
    exact ⟨t, only, exclude, ht, honly, hexclude, hmem, hopen, hnamed, hexcluded⟩
  · rintro ⟨t', only', exclude', ht', honly', hexclude', hmem⟩
    cases ht.symm.trans ht'
    cases honly.symm.trans honly'
    cases hexclude.symm.trans hexclude'
    exact hmem

/-! ## What the providers of some modules expose -/

theorem forall₂_of_exposures {es : Precedence.Exposures}
    (h : Precedence.exposures s env modules = .ok es) :
    List.Forall₂ (fun m operations ↦ exposed s env m.2 = .ok operations) modules
      (es.map (·.2)) := by
  induction modules generalizing es with
  | nil =>
    obtain rfl : [] = es := Except.ok.inj h
    exact .nil
  | cons m modules ih =>
    obtain ⟨operations, fs, hexposed, hfs, rfl⟩ := exposures_cons_eq_ok_iff.1 h
    exact .cons hexposed (ih hfs)

/-- The operations of the first modules are exposed first. -/
theorem exists_exposures_of_append {others : ResolvedModules} {es : Precedence.Exposures}
    (h : Precedence.exposures s env (modules ++ others) = .ok es) :
    ∃ fs gs, Precedence.exposures s env modules = .ok fs ∧ es = fs ++ gs := by
  unfold Precedence.exposures at h
  rw [List.mapM_append] at h
  obtain ⟨fs, hfs, h⟩ := bind_eq_ok_iff.1 h
  obtain ⟨gs, -, h⟩ := bind_eq_ok_iff.1 h
  cases h
  exact ⟨fs, gs, hfs, rfl⟩

open Classical in
/-- The first module that exposes an operation owns it. -/
theorem owner?_of_exposures {es : Precedence.Exposures}
    (h : Precedence.exposures s env modules = .ok es) (operation : Text) :
    Precedence.owner? es operation =
      (modules.find? fun m ↦ Exposes s env m.2 operation).map (·.1) := by
  induction modules generalizing es with
  | nil =>
    obtain rfl : [] = es := Except.ok.inj h
    rfl
  | cons m modules ih =>
    obtain ⟨operations, fs, hexposed, hfs, rfl⟩ := exposures_cons_eq_ok_iff.1 h
    rw [Precedence.owner?_cons, List.find?_cons]
    by_cases hm : Exposes s env m.2 operation
    · rw [if_pos ((mem_exposed_iff hexposed).2 hm)]
      simp [hm]
    · rw [if_neg (mt (mem_exposed_iff hexposed).1 hm), ih hfs]
      simp [hm]

/-- A row has the first module that exposes its operation. -/
theorem mem_table_of_exposures {es : Precedence.Exposures}
    (h : Precedence.exposures s env modules = .ok es) {operation module : Text} :
    (operation, module) ∈ Precedence.table es ↔ ∃ before p after,
      modules = before ++ (module, p) :: after ∧ Exposes s env p operation ∧
        ∀ m ∈ before, ¬Exposes s env m.2 operation := by
  classical
  rw [Precedence.mem_table_iff, owner?_of_exposures h, Option.map_eq_some_iff]
  simp only [List.find?_eq_some_iff_append, decide_eq_true_eq, Bool.not_eq_true',
    decide_eq_false_iff_not]
  constructor
  · rintro ⟨⟨_, p⟩, ⟨hp, before, after, hmodules, hbefore⟩, rfl⟩
    exact ⟨before, p, after, hmodules, hp, hbefore⟩
  · rintro ⟨before, p, after, hmodules, hp, hbefore⟩
    exact ⟨(module, p), ⟨hp, before, after, hmodules, hbefore⟩, rfl⟩

/-! ## Tables -/

variable {r : Registry} {table : ActionTable}

theorem result_resolveActions_eq_ok_iff (hplain : r.extraActions = []) :
    (r.resolveActions s modules).result = .ok table ↔
      ∃ es, Precedence.exposures s r.environment modules = .ok es ∧
        table = Precedence.table es := by
  rw [← mergeOperations_eq_ok_iff, resolveActions, hplain, Logged.result_bind_eq_ok_iff]
  constructor
  · rintro ⟨merged, hmerged, h⟩
    cases h
    exact hmerged
  · intro h
    exact ⟨table, h, rfl⟩

/-- An operation has a row if some provider exposes it; the row names the first module whose
provider does, and the rows are in the order of first exposures, module by module and as the type of
each provider lists its operations.  The modules in front have the rows in front as their table. -/
theorem table_of_resolveActions (hplain : r.extraActions = [])
    (h : (r.resolveActions s modules).result = .ok table) :
    (∀ operation, operation ∈ table.map (·.1) ↔
      ∃ m ∈ modules, Exposes s r.environment m.2 operation) ∧
    (∀ operation module, (operation, module) ∈ table ↔ ∃ before p after,
      modules = before ++ (module, p) :: after ∧ Exposes s r.environment p operation ∧
        ∀ m ∈ before, ¬Exposes s r.environment m.2 operation) ∧
    (∃ lists, List.Forall₂ (fun m operations ↦ exposed s r.environment m.2 = .ok operations)
        modules lists ∧ AreFirsts (table.map (·.1)) lists.flatten) ∧
    ∀ front behind, modules = front ++ behind →
      ∃ rows, (r.resolveActions s front).result = .ok rows ∧ rows <+: table := by
  obtain ⟨es, hes, rfl⟩ := (result_resolveActions_eq_ok_iff hplain).1 h
  have hrows := @mem_table_of_exposures _ s r.environment modules es hes
  have hlists := forall₂_of_exposures hes
  refine ⟨?_, @hrows, ⟨es.map (·.2), hlists, ?_⟩, ?_⟩
  · intro operation
    classical
    rw [Precedence.map_fst_table, ← Precedence.owner?_isSome_iff, owner?_of_exposures hes,
      Option.isSome_map, List.find?_isSome]
    simp only [decide_eq_true_eq]
  · rw [Precedence.map_fst_table, ← List.flatMap_def]
    exact areFirsts_eraseDups _
  · rintro front behind rfl
    obtain ⟨fs, gs, hfs, rfl⟩ := exists_exposures_of_append hes
    exact ⟨_, (result_resolveActions_eq_ok_iff hplain).2 ⟨fs, hfs, rfl⟩,
      Precedence.table_prefix_append fs gs⟩

/-- A class with some functions and a value that names some operations. -/
def restrictedClass (name : Text) (operations : List Text) (part : Text) (names : List Text) :
    ClassEntry where
  ref := .declared "m" name
  attributes := operations.map (fun operation ↦
      (operation, .function { qualified := name ++ "." ++ operation, formals := [] })) ++
    [(part, .value (.list (names.map .text)))]
  bases := [.object]
  lineage := [.declared "m" name, .object]
  abstractNames := []
  layouts := [.declared "m" name, .object]

/-- Two classes that share an operation, each with one that is kept back. -/
def restrictedRegistry : Registry where
  environment :=
    { hierarchy := ⟨[
        restrictedClass "User" ["login", "see", "drop"] "only_actions" ["see", "login"],
        restrictedClass "Mail" ["post", "see", "_open", "delete"] "exclude_actions" ["delete"]]⟩ }

/-- Modules with their objects. -/
def restrictedModules : ResolvedModules :=
  ["User", "Mail"].map fun name ↦
    (Text.ofString name, .instance (.declared "m" (Text.ofString name)))

/-- Their table. -/
def restrictedTable : ActionTable := [("login", "User"), ("see", "User"), ("post", "Mail")]

theorem result_restrictedTable :
    (restrictedRegistry.resolveActions restrictedRegistry.environment.hierarchy.toSource
      restrictedModules).result = .ok restrictedTable :=
  toOption_eq_some_iff.1 (by decide +kernel)

/-- The operation that both have belongs to the first one, with the second one and without. -/
theorem table_of_resolveActions_restricted :
    let r := restrictedRegistry
    let s := r.environment.hierarchy.toSource
    r.extraActions = [] ∧ (r.resolveActions s restrictedModules).result = .ok restrictedTable ∧
      (∃ m ∈ restrictedModules, Exposes s r.environment m.2 "post") ∧
      (¬∃ m ∈ restrictedModules, Exposes s r.environment m.2 "drop") ∧
      ∃ rows, (r.resolveActions s (restrictedModules.take 1)).result = .ok rows ∧
        rows <+: restrictedTable := by
  intro r s
  have hplain : r.extraActions = [] := rfl
  obtain ⟨hmem, -, -, hfront⟩ := table_of_resolveActions hplain result_restrictedTable
  exact ⟨hplain, result_restrictedTable, (hmem "post").1 (by decide), mt (hmem "drop").2 (by decide),
    hfront _ _ (List.take_append_drop 1 restrictedModules).symm⟩

end ActorFacade.Registry
