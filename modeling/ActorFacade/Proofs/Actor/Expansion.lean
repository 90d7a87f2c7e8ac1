import ActorFacade.Actor.Expansion
import ActorFacade.Proofs.Operation
import ActorFacade.Proofs.Registry.Table

/-! # The methods that a table stands for

Of the methods with one name the first is kept.  An operation without a row before is therefore left
out only when a conditional variant of an earlier one has its name (`own_mem_ofTable_iff`); then it
is no check and has no variant besides the one of its own name.
-/

namespace ActorFacade.Actor

namespace MethodKey

/-! ## Keeping first methods -/

/-- Only which names are taken matters. -/
theorem keepFirst_congr {taken taken' : List Text} (h : ∀ a, a ∈ taken ↔ a ∈ taken')
    (ms : List MethodKey) : keepFirst taken ms = keepFirst taken' ms := by
  induction ms generalizing taken taken' with
  | nil => rfl
  | cons m ms ih =>
    have hcons : ∀ a, a ∈ m.action :: taken ↔ a ∈ m.action :: taken' := by
      intro a
      rw [List.mem_cons, List.mem_cons, h]
    by_cases hm : m.action ∈ taken
    · rw [keepFirst, keepFirst, if_pos hm, if_pos ((h _).1 hm), ih h]
    · rw [keepFirst, keepFirst, if_neg hm, if_neg (mt (h _).2 hm), ih hcons]

/-- Behind some methods their names are taken, too. -/
theorem keepFirst_append (taken : List Text) (ms ns : List MethodKey) :
    keepFirst taken (ms ++ ns) =
      keepFirst taken ms ++ keepFirst (ms.map (·.action) ++ taken) ns := by
  induction ms generalizing taken with
  | nil => rfl
  | cons m ms ih =>
    rw [List.cons_append, List.map_cons, keepFirst, keepFirst]
    split
    case isTrue hm =>
      rw [ih]
      congr 1
      refine keepFirst_congr ?_ ns
      intro a
      simp only [List.cons_append, List.mem_cons, List.mem_append]
      constructor
      · exact .inr
      · rintro (rfl | ha)
        · exact .inr hm
        · exact ha
    case isFalse =>
      rw [ih, List.cons_append]
      congr 2
      refine keepFirst_congr ?_ ns
      intro a
      simp only [List.cons_append, List.mem_cons, List.mem_append]
      exact or_left_comm

/-- Every name that is not taken is kept once. -/
theorem mem_map_keepFirst_iff {taken : List Text} {ms : List MethodKey} {a : Text} :
    a ∈ (keepFirst taken ms).map (·.action) ↔ a ∈ ms.map (·.action) ∧ a ∉ taken := by
  induction ms generalizing taken with
  | nil => simp [keepFirst]
  | cons m ms ih =>
    unfold keepFirst
    split
    · rw [ih, List.map_cons, List.mem_cons]
      grind
    · rw [List.map_cons, List.mem_cons, ih, List.map_cons, List.mem_cons, List.mem_cons]
      grind

/-- A method is kept if its name is not taken and no earlier method has it. -/
theorem mem_keepFirst_of_first {taken : List Text} {ms ns : List MethodKey} {m : MethodKey}
    (htaken : m.action ∉ taken) (hfirst : m.action ∉ ms.map (·.action)) :
    m ∈ keepFirst taken (ms ++ m :: ns) := by
  rw [keepFirst_append]
  refine List.mem_append_right _ ?_
  rw [keepFirst, if_neg (by simp [htaken, hfirst])]
  exact List.mem_cons_self

/-- Only given methods are kept. -/
theorem mem_of_mem_keepFirst {taken : List Text} {ms : List MethodKey} {m : MethodKey}
    (h : m ∈ keepFirst taken ms) : m ∈ ms := by
  induction ms generalizing taken with
  | nil => cases h
  | cons n ms ih =>
    unfold keepFirst at h
    split at h
    · exact List.mem_cons_of_mem _ (ih h)
    · rcases List.mem_cons.1 h with rfl | h
      · exact List.mem_cons_self
      · exact List.mem_cons_of_mem _ (ih h)

/-! ## Rows -/

/-- The method of the own name of an operation. -/
def own (row : Text × Text) : MethodKey := ⟨row.1, row.1, Operation.ownRole row.1, row.2⟩

/-- The method of the conditional variant comes first, if there is one. -/
theorem ofRow_eq (row : Text × Text) : ofRow row =
    (Operation.conditionalName? row.1).toList.map (⟨·, row.1, .conditionalAssertion, row.2⟩) ++
      [own row] := by
  rw [ofRow, Operation.variants_eq]
  cases Operation.conditionalName? row.1 <;> rfl

/-- Only the method of its own has the name of the operation. -/
theorem eq_own_of_mem_ofRow {row : Text × Text} {m : MethodKey} (h : m ∈ ofRow row)
    (hm : m.action = row.1) : m = own row := by
  rw [ofRow_eq] at h
  rcases List.mem_append.1 h with h | h
  · obtain ⟨name, hname, rfl⟩ := List.mem_map.1 h
    rw [Option.mem_toList] at hname
    exact absurd (hname.trans (congrArg some hm)) (Operation.conditionalName?_ne row.1)
  · exact List.mem_singleton.1 h

theorem map_action_ofRow (row : Text × Text) :
    (ofRow row).map (·.action) = Operation.actionNames row.1 := by
  rw [ofRow, Operation.actionNames, List.map_map]
  rfl

theorem operation_of_mem_ofRow {row : Text × Text} {m : MethodKey} (h : m ∈ ofRow row) :
    m.operation = row.1 := by
  obtain ⟨v, -, rfl⟩ := List.mem_map.1 h
  rfl

theorem mem_map_action_flatMap {rows : ActionTable} {a : Text} :
    a ∈ (rows.flatMap ofRow).map (·.action) ↔
      ∃ row ∈ rows, a ∈ Operation.actionNames row.1 := by
  rw [List.map_flatMap, List.mem_flatMap]
  simp only [map_action_ofRow]

/-- The name of a row that is among the names of other rows is that of a conditional variant. -/
theorem mem_map_action_iff_of_new {rows : ActionTable} {operation : Text}
    (h : operation ∉ rows.map (·.1)) :
    operation ∈ (rows.flatMap ofRow).map (·.action) ↔
      ∃ row ∈ rows, Operation.conditionalName? row.1 = some operation := by
  rw [mem_map_action_flatMap]
  refine exists_congr fun row ↦ and_congr_right fun hrow ↦ ?_
  have hne : operation ≠ row.1 := fun he ↦ h (List.mem_map.2 ⟨row, hrow, he.symm⟩)
  rw [Operation.actionNames_eq]
  simp [hne, eq_comm]

/-- What has the name of a conditional variant has no other method than its own. -/
theorem keepFirst_ofRow_of_conditional {rows : ActionTable} {row : Text × Text} {taken : List Text}
    (hnew : row.1 ∉ rows.map (·.1)) (htaken : row.1 ∈ taken)
    (hrow : row.1 ∈ (rows.flatMap ofRow).map (·.action)) : keepFirst taken (ofRow row) = [] := by
  obtain ⟨earlier, -, hname⟩ := (mem_map_action_iff_of_new hnew).1 hrow
  have hkind := Operation.kind_conditionalName hname
  rw [ofRow_eq, Operation.conditionalName?_of_action hkind]
  simp [keepFirst, own, htaken]

/-! ## Tables -/

variable {table : ActionTable}

/-- The methods of a row among others: those before it have taken their names. -/
theorem ofTable_append_cons (before : ActionTable) (row : Text × Text) (after : ActionTable) :
    ofTable (before ++ row :: after) = ofTable before ++
      keepFirst ((before.flatMap ofRow).map (·.action)) (ofRow row ++ after.flatMap ofRow) := by
  rw [ofTable, List.flatMap_append, List.flatMap_cons, keepFirst_append, List.append_nil]
  rfl

theorem nodup_ofTable (table : ActionTable) : ((ofTable table).map (·.action)).Nodup :=
  nodup_keepFirst [] _

/-- The names of the methods of a table are those of its operations. -/
theorem mem_map_ofTable_iff {a : Text} :
    a ∈ (ofTable table).map (·.action) ↔ ∃ row ∈ table, a ∈ Operation.actionNames row.1 := by
  rw [ofTable, mem_map_keepFirst_iff, mem_map_action_flatMap]
  simp

/-- The methods of a table have operations of the table. -/
theorem operation_mem_of_mem_ofTable {m : MethodKey} (h : m ∈ ofTable table) :
    m.operation ∈ table.map (·.1) := by
  obtain ⟨row, hrow, hm⟩ := List.mem_flatMap.1 (mem_of_mem_keepFirst h)
  exact List.mem_map.2 ⟨row, hrow, (operation_of_mem_ofRow hm).symm⟩

/-- Of the methods of an operation only its own has its name. -/
theorem eq_own_of_mem_ofTable (h : Registry.HasDistinctRows table) {row : Text × Text}
    (hrow : row ∈ table) {m : MethodKey} (hmem : m ∈ ofTable table) (hop : m.operation = row.1)
    (hm : m.action = row.1) : m = own row := by
  obtain ⟨row', hrow', hmem⟩ := List.mem_flatMap.1 (mem_of_mem_keepFirst hmem)
  obtain rfl : row' = row := h.eq_of_fst hrow' hrow ((operation_of_mem_ofRow hmem).symm.trans hop)
  exact eq_own_of_mem_ofRow hmem hm

/-- An operation has a method of its own unless a conditional variant of an earlier operation has
its name. -/
theorem own_mem_ofTable_iff {before after : ActionTable} {row : Text × Text}
    (h : Registry.HasDistinctRows (before ++ row :: after)) :
    own row ∈ ofTable (before ++ row :: after) ↔
      ¬∃ earlier ∈ before, Operation.conditionalName? earlier.1 = some row.1 := by
  have hnew := h.notMem_before
  rw [← mem_map_action_iff_of_new hnew, ofTable_append_cons]
  constructor
  · intro hmem
    rcases List.mem_append.1 hmem with hbefore | hown
    · exact absurd (operation_mem_of_mem_ofTable hbefore) hnew
    · exact notMem_of_mem_keepFirst hown
  · intro htaken
    refine List.mem_append_right _ ?_
    rw [ofRow_eq, List.append_assoc, List.singleton_append]
    refine mem_keepFirst_of_first htaken ?_
    rw [List.map_map]
    intro hname
    obtain ⟨name, hcond, hname⟩ := List.mem_map.1 hname
    rw [Option.mem_toList] at hcond
    exact Operation.conditionalName?_ne row.1 (hcond.trans (congrArg some hname))

/-- Every check has a method of its own. -/
theorem own_mem_ofTable_of_isCheck (h : Registry.HasDistinctRows table) {row : Text × Text}
    (hrow : row ∈ table) (hcheck : Operation.IsCheck row.1) : own row ∈ ofTable table := by
  obtain ⟨before, after, rfl⟩ := List.append_of_mem hrow
  rw [own_mem_ofTable_iff h]
  rintro ⟨earlier, -, hname⟩
  exact Operation.not_isCheck_of_action (Operation.kind_conditionalName hname) hcheck

end MethodKey

end ActorFacade.Actor
