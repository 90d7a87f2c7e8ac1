import ActorFacade.Proofs.FirstPlaces
import ActorFacade.Proofs.Registry.Table
import ActorFacade.Registry.Precedence
import Mathlib.Data.List.Forall2

/-! # The first exposer owns

Merging the operations of some modules one by one makes the table in which every operation stands at
its first exposure and belongs to the module that exposes it there (`mergeOperations_eq_ok_iff`).
More modules behind add rows behind (`Precedence.table_prefix_append`).
-/

namespace ActorFacade.Registry

namespace Precedence

variable {es fs : Exposures} {operation module : Text}

theorem mem_operations_iff : operation ∈ operations es ↔ ∃ e ∈ es, operation ∈ e.2 := by
  rw [operations, List.mem_eraseDups, List.mem_flatMap]

/-- Modules behind add the operations that are not there before. -/
theorem operations_append (es fs : Exposures) :
    operations (es ++ fs) =
      operations es ++ ((fs.flatMap (·.2)).removeAll (es.flatMap (·.2))).eraseDups := by
  rw [operations, List.flatMap_append, List.eraseDups_append, operations]

/-- The modules in front go first. -/
theorem owner?_append (es fs : Exposures) (operation : Text) :
    owner? (es ++ fs) operation = (owner? es operation).or (owner? fs operation) := by
  rw [owner?, List.find?_append, Option.map_or]
  rfl

theorem owner?_isSome_iff : (owner? es operation).isSome = true ↔ operation ∈ operations es := by
  rw [owner?, Option.isSome_map, List.find?_isSome, mem_operations_iff]
  simp

theorem map_fst_table (es : Exposures) : (table es).map (·.1) = operations es := by
  rw [table, List.map_map]
  exact List.map_id _

/-- Every operation has the row of its owner. -/
theorem mem_table_iff : (operation, module) ∈ table es ↔ owner? es operation = some module := by
  rw [table, List.mem_map]
  constructor
  · rintro ⟨x, hx, hrow⟩
    cases hrow
    obtain ⟨m, hm⟩ := Option.isSome_iff_exists.1 (owner?_isSome_iff.2 hx)
    rw [hm, Option.getD_some]
  · intro h
    refine ⟨operation, owner?_isSome_iff.1 (Option.isSome_of_eq_some h), ?_⟩
    rw [h, Option.getD_some]

/-- The operations and their owners make the table. -/
theorem table_congr (hops : operations es = operations fs)
    (howner : ∀ operation, owner? es operation = owner? fs operation) : table es = table fs := by
  rw [table, table, hops, funext howner]

/-- More modules change no owner of what was exposed before. -/
theorem map_row_append (es fs : Exposures) :
    (operations es).map (fun operation ↦
      (operation, (owner? (es ++ fs) operation).getD [])) = table es := by
  refine List.map_congr_left ?_
  intro operation hop
  obtain ⟨m, hm⟩ := Option.isSome_iff_exists.1 (owner?_isSome_iff.2 hop)
  rw [owner?_append, hm, Option.some_or]

/-- More modules behind leave the table in front as it is. -/
theorem table_prefix_append (es fs : Exposures) : table es <+: table (es ++ fs) := by
  rw [← map_row_append es fs, table, operations_append, List.map_append]
  exact List.prefix_append _ _

/-- One more exposure is a new row or changes nothing. -/
theorem table_append_single (es : Exposures) (module operation : Text) :
    table (es ++ [(module, [operation])]) =
      if operation ∈ operations es then table es else table es ++ [(operation, module)] := by
  have hmem : operation ∈ operations es ↔ operation ∈ es.flatMap (·.2) := List.mem_eraseDups
  rw [table, operations_append, List.flatMap_singleton, List.map_append, map_row_append]
  split
  case isTrue h =>
    simp [List.removeAll, hmem.1 h]
  case isFalse h =>
    have hnone : owner? es operation = none := by
      rw [← Option.not_isSome_iff_eq_none, owner?_isSome_iff]
      exact h
    have hnew : ([operation].removeAll (es.flatMap (·.2))).eraseDups = [operation] := by
      rw [List.removeAll, List.filter_cons_of_pos (by simpa using mt hmem.2 h)]
      rfl
    rw [hnew, List.map_singleton, owner?_append, hnone, owner?_cons,
      if_pos (List.mem_singleton_self _)]
    rfl

/-- A module that exposes nothing changes nothing. -/
theorem table_append_nil (es : Exposures) (module : Text) :
    table (es ++ [(module, [])]) = table es := by
  refine table_congr ?_ ?_
  · rw [operations, List.flatMap_append, List.flatMap_singleton, List.append_nil, operations]
  · intro operation
    rw [owner?_append, owner?_cons, if_neg (List.not_mem_nil), owner?_nil, Option.or_none]

/-- The exposures of a module can be listed one by one. -/
theorem table_append_cons (es : Exposures) (module operation : Text) (rest : List Text) :
    table (es ++ [(module, [operation])] ++ [(module, rest)]) =
      table (es ++ [(module, operation :: rest)]) := by
  refine table_congr ?_ ?_
  · simp [operations]
  · intro x
    simp only [owner?_append, owner?_cons, owner?_nil, List.mem_cons, List.not_mem_nil, or_false,
      Option.or_assoc]
    by_cases hx : x = operation <;> simp [hx]

end Precedence

/-! ## Merging -/

variable {ρ : Type} {s : Source ρ} {env : Environment}

/-- Adding an operation of a module is one more exposure. -/
theorem result_addOperation {ε : Type} (es : Precedence.Exposures) (module operation : Text) :
    (addOperation (ε := ε) module (Precedence.table es) operation).result =
      .ok (Precedence.table (es ++ [(module, [operation])])) := by
  rw [Precedence.table_append_single, addOperation]
  split
  case h_1 hnone =>
    rw [owner?_eq_none_iff, Precedence.map_fst_table] at hnone
    rw [if_neg hnone]
    rfl
  case h_2 owner hsome =>
    have hmem : operation ∈ Precedence.operations es := by
      rw [← Precedence.map_fst_table]
      by_contra hnone
      rw [owner?_eq_none_iff.2 hnone] at hsome
      cases hsome
    rw [if_pos hmem]
    split <;> rfl

/-- Adding operations of a module is adding its exposures. -/
theorem result_foldlM_addOperation {ε : Type} (es : Precedence.Exposures) (module : Text)
    (operations : List Text) :
    (operations.foldlM (addOperation (ε := ε) module) (Precedence.table es)).result =
      .ok (Precedence.table (es ++ [(module, operations)])) := by
  induction operations generalizing es with
  | nil =>
    rw [Precedence.table_append_nil]
    rfl
  | cons operation rest ih =>
    rw [Logged.result_foldlM_cons_eq_ok_iff]
    refine ⟨_, result_addOperation es module operation, ?_⟩
    rw [ih, Precedence.table_append_cons]

theorem exposures_cons_eq_ok_iff {m : Text × Provider} {modules : ResolvedModules}
    {es : Precedence.Exposures} :
    Precedence.exposures s env (m :: modules) = .ok es ↔ ∃ operations fs,
      exposed s env m.2 = .ok operations ∧ Precedence.exposures s env modules = .ok fs ∧
        es = (m.1, operations) :: fs := by
  unfold Precedence.exposures
  rw [List.mapM_cons, bind_eq_ok_iff]
  constructor
  · rintro ⟨e, he, h⟩
    obtain ⟨operations, hexposed, he⟩ := bind_eq_ok_iff.1 he
    obtain ⟨fs, hfs, h⟩ := bind_eq_ok_iff.1 h
    cases he
    cases h
    exact ⟨operations, fs, hexposed, hfs, rfl⟩
  · rintro ⟨operations, fs, hexposed, hfs, rfl⟩
    refine ⟨(m.1, operations), bind_eq_ok_iff.2 ⟨operations, hexposed, rfl⟩, ?_⟩
    exact bind_eq_ok_iff.2 ⟨fs, hfs, rfl⟩

theorem result_addOperations_eq_ok_iff {es : Precedence.Exposures} {m : Text × Provider}
    {table : ActionTable} :
    (addOperations s env (Precedence.table es) m).result = .ok table ↔
      ∃ operations, exposed s env m.2 = .ok operations ∧
        table = Precedence.table (es ++ [(m.1, operations)]) := by
  rw [addOperations, Logged.result_bind_eq_ok_iff]
  refine exists_congr fun operations ↦ and_congr_right fun _ ↦ ?_
  rw [result_foldlM_addOperation, Except.ok.injEq, eq_comm]

/-- Merging behind a table makes the table of all exposures. -/
theorem result_foldlM_addOperations_eq_ok_iff (es : Precedence.Exposures)
    {modules : ResolvedModules} {table : ActionTable} :
    (modules.foldlM (addOperations s env) (Precedence.table es)).result = .ok table ↔
      ∃ fs, Precedence.exposures s env modules = .ok fs ∧ table = Precedence.table (es ++ fs) := by
  induction modules generalizing es with
  | nil =>
    constructor
    · intro h
      cases h
      exact ⟨[], rfl, by rw [List.append_nil]⟩
    · rintro ⟨fs, hfs, rfl⟩
      obtain rfl : [] = fs := Except.ok.inj hfs
      rw [List.append_nil]
      rfl
  | cons m modules ih =>
    rw [Logged.result_foldlM_cons_eq_ok_iff]
    constructor
    · rintro ⟨table', hfirst, h⟩
      obtain ⟨operations, hexposed, rfl⟩ := result_addOperations_eq_ok_iff.1 hfirst
      obtain ⟨fs, hfs, rfl⟩ := (ih _).1 h
      refine ⟨_, exposures_cons_eq_ok_iff.2 ⟨operations, fs, hexposed, hfs, rfl⟩, ?_⟩
      rw [List.append_assoc, List.singleton_append]
    · rintro ⟨_, hes, rfl⟩
      obtain ⟨operations, fs, hexposed, hfs, rfl⟩ := exposures_cons_eq_ok_iff.1 hes
      refine ⟨_, result_addOperations_eq_ok_iff.2 ⟨operations, hexposed, rfl⟩, (ih _).2 ?_⟩
      refine ⟨fs, hfs, ?_⟩
      rw [List.append_assoc, List.singleton_append]

/-- The merged table is that of what the providers expose, and it is there if they all say. -/
theorem mergeOperations_eq_ok_iff {modules : ResolvedModules} {table : ActionTable} :
    (mergeOperations s env modules).result = .ok table ↔
      ∃ es, Precedence.exposures s env modules = .ok es ∧ table = Precedence.table es :=
  result_foldlM_addOperations_eq_ok_iff []

end ActorFacade.Registry
