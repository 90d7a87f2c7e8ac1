import ActorFacade.Proofs.FirstPlaces
import ActorFacade.Proofs.Journal
import ActorFacade.Registry

/-! # Tables of operations

No operation has two rows in the table of a registry (`nodup_resolveActions`): merging adds a row
only for an operation without one, and setting a row replaces the one that is there.
-/

namespace ActorFacade.Registry

/-- No operation has two rows. -/
def HasDistinctRows (table : ActionTable) : Prop := (table.map (·.1)).Nodup

theorem owner?_eq_none_iff {table : ActionTable} {operation : Text} :
    owner? table operation = none ↔ operation ∉ table.map (·.1) := by
  unfold owner?
  rw [Option.map_eq_none_iff, List.find?_eq_none]
  constructor
  · intro h hmem
    obtain ⟨e, he, rfl⟩ := List.mem_map.1 hmem
    exact h e he (beq_self_eq_true _)
  · intro h e he hkey
    exact h (List.mem_map.2 ⟨e, he, eq_of_beq hkey⟩)

theorem HasDistinctRows.append {table : ActionTable} (h : HasDistinctRows table)
    {row : Text × Text} (hrow : row.1 ∉ table.map (·.1)) : HasDistinctRows (table ++ [row]) :=
  nodup_map_append_single h hrow

/-- The operation of a row has none before. -/
theorem HasDistinctRows.notMem_before {before after : ActionTable} {row : Text × Text}
    (h : HasDistinctRows (before ++ row :: after)) : row.1 ∉ before.map (·.1) := by
  intro hmem
  unfold HasDistinctRows at h
  rw [List.map_append, List.nodup_append] at h
  exact h.2.2 _ hmem _ List.mem_cons_self rfl

/-- Rows of one operation are the same. -/
theorem HasDistinctRows.eq_of_fst {table : ActionTable} (h : HasDistinctRows table)
    {row row' : Text × Text} (hrow : row ∈ table) (hrow' : row' ∈ table)
    (heq : row.1 = row'.1) : row = row' :=
  List.inj_on_of_nodup_map h hrow hrow' heq

/-! ## Merging -/

theorem HasDistinctRows.addOperation {ε : Type} {module operation : Text}
    {table table' : ActionTable} (h : HasDistinctRows table)
    (hadd : (addOperation (ε := ε) module table operation).result = .ok table') :
    HasDistinctRows table' := by
  unfold Registry.addOperation at hadd
  split at hadd
  case h_1 hnone =>
    cases hadd
    exact h.append (owner?_eq_none_iff.1 hnone)
  case h_2 =>
    split at hadd <;> (cases hadd; exact h)

theorem HasDistinctRows.addOperations {ρ : Type} {s : Source ρ} {env : Environment}
    {entry : Text × Provider} {table table' : ActionTable} (h : HasDistinctRows table)
    (hadd : (addOperations s env table entry).result = .ok table') : HasDistinctRows table' := by
  obtain ⟨operations, -, hfold⟩ := Logged.result_bind_eq_ok_iff.1 hadd
  refine Logged.foldlM_invariant (P := fun _ table ↦ HasDistinctRows table) hfold h ?_
  intro _ _ _ _ _ _ htable hstep
  exact htable.addOperation hstep

theorem hasDistinctRows_mergeOperations {ρ : Type} {s : Source ρ} {env : Environment}
    {modules : ResolvedModules} {table : ActionTable}
    (h : (mergeOperations s env modules).result = .ok table) : HasDistinctRows table := by
  refine Logged.foldlM_invariant (P := fun _ table ↦ HasDistinctRows table) h List.nodup_nil ?_
  intro _ _ _ _ _ _ htable hstep
  exact htable.addOperations hstep

/-! ## Setting rows -/

/-- Setting a row changes no operation that is there. -/
theorem map_fst_setRow {table : ActionTable} {row : Text × Text} (h : row.1 ∈ table.map (·.1)) :
    (setRow table row).map (·.1) = table.map (·.1) := by
  rw [setRow, if_pos h, List.map_map]
  refine List.map_congr_left ?_
  intro e _
  simp only [Function.comp_apply]
  split
  · exact Eq.symm ‹_›
  · rfl

theorem HasDistinctRows.setRow {table : ActionTable} (h : HasDistinctRows table)
    (row : Text × Text) : HasDistinctRows (setRow table row) := by
  by_cases hrow : row.1 ∈ table.map (·.1)
  · unfold HasDistinctRows
    rw [map_fst_setRow hrow]
    exact h
  · rw [Registry.setRow, if_neg hrow]
    exact h.append hrow

/-- No operation has two rows in the table of a registry. -/
theorem hasDistinctRows_resolveActions {ρ : Type} {r : Registry} {s : Source ρ}
    {modules : ResolvedModules} {table : ActionTable}
    (h : (r.resolveActions s modules).result = .ok table) : HasDistinctRows table := by
  obtain ⟨merged, hmerged, htable⟩ := Logged.result_bind_eq_ok_iff.1 h
  cases htable
  have hbase := hasDistinctRows_mergeOperations hmerged
  generalize merged = table at hbase
  induction r.extraActions generalizing table with
  | nil => exact hbase
  | cons row rows ih => exact ih _ (hbase.setRow row)

end ActorFacade.Registry
