import ActorFacade.Actor.Rendering
import ActorFacade.Proofs.Actor.Expansion
import ActorFacade.Proofs.Except

/-! # The methods of a rendered actor

Rendering leaves out whole operations and single variants.  What it keeps of the rows it has gone
through is what `MethodKey.ofTable` says of them; that no operation has two rows is what makes
leaving out a whole operation harmless.
-/

namespace ActorFacade

namespace ActorMethod

/-- What identifies a method. -/
def key (m : ActorMethod) : Actor.MethodKey := ⟨m.action, m.operation, m.role, m.module⟩

theorem map_action_key (ms : List ActorMethod) :
    (ms.map key).map (·.action) = ms.map (·.action) := by
  rw [List.map_map]
  rfl

/-- The methods of an operation are those of its row. -/
theorem map_key_of_ofMetadata {ρ : Type} {m : MethodMetadata ρ} {module : Text}
    {ms : List ActorMethod} (h : ofMetadata m module = .ok ms) :
    ms.map key = Actor.MethodKey.ofRow (m.operation, module) := by
  obtain ⟨params, -, h⟩ := bind_eq_ok_iff.1 h
  cases h
  rw [List.map_map]
  rfl

end ActorMethod

/-- What is known about an operation is known under its name. -/
theorem Source.operation_of_resolve {ρ : Type} {s : Source ρ} {t : ρ} {operation : Text}
    {m : MethodMetadata ρ} (h : s.resolve t operation = .ok m) : m.operation = operation := by
  obtain ⟨d, -, h⟩ := bind_eq_ok_iff.1 h
  obtain ⟨ps, -, h⟩ := bind_eq_ok_iff.1 h
  cases h
  rfl

namespace Actor

open MethodKey (keepFirst ofRow ofTable)

variable {ρ : Type} {s : Source ρ} {modules : ResolvedModules}

/-! ## One operation -/

theorem map_key_of_methodsOf {operation module : Text} {ms : List ActorMethod}
    (h : methodsOf s modules operation module = .ok ms) :
    ms.map ActorMethod.key = ofRow (operation, module) := by
  unfold methodsOf at h
  split at h
  case h_1 => cases h
  case h_2 provider _ =>
    obtain ⟨t, -, h⟩ := bind_eq_ok_iff.1 h
    obtain ⟨m, hm, h⟩ := bind_eq_ok_iff.1 h
    have hm := Source.operation_of_resolve (mapError_eq_ok_iff.1 hm)
    rw [ActorMethod.map_key_of_ofMetadata (mapError_eq_ok_iff.1 h), hm]

/-- Adding methods keeps the first of each name. -/
theorem map_key_foldlM_addMethod {ε : Type} {new methods methods' : List ActorMethod}
    (h : (new.foldlM (addMethod (ε := ε)) methods).result = .ok methods') :
    methods'.map ActorMethod.key = methods.map ActorMethod.key ++
      keepFirst (methods.map (·.action)) (new.map ActorMethod.key) := by
  induction new generalizing methods with
  | nil =>
    cases h
    exact (List.append_nil _).symm
  | cons m new ih =>
    obtain ⟨added, hadd, h⟩ := Logged.result_foldlM_cons_eq_ok_iff.1 h
    rw [ih h, List.map_cons, keepFirst]
    unfold addMethod at hadd
    split at hadd
    case isTrue hm =>
      cases hadd
      rw [if_pos (by exact hm)]
    case isFalse hm =>
      cases hadd
      rw [if_neg (by exact hm), List.map_append, List.append_assoc, List.map_singleton,
        List.singleton_append]
      congr 2
      refine MethodKey.keepFirst_congr ?_ _
      intro a
      simp [ActorMethod.key, or_comm]

/-- Going through a row adds the methods of the row that are first. -/
theorem map_key_addOperation {methods methods' : List ActorMethod} {before : ActionTable}
    {row : Text × Text} (hnew : row.1 ∉ before.map (·.1))
    (hmethods : methods.map ActorMethod.key = ofTable before)
    (h : (addOperation s modules methods row).result = .ok methods') :
    methods'.map ActorMethod.key = ofTable (before ++ [row]) := by
  have hnames : ∀ a, a ∈ methods.map (·.action) ↔ a ∈ (before.flatMap ofRow).map (·.action) := by
    intro a
    rw [← ActorMethod.map_action_key, hmethods, ofTable, MethodKey.mem_map_keepFirst_iff]
    simp only [List.not_mem_nil, not_false_eq_true, and_true]
  rw [MethodKey.ofTable_append_cons, List.flatMap_nil, List.append_nil, ← hmethods]
  unfold addOperation at h
  split at h
  case isTrue hrow =>
    cases h
    have hrow := (hnames _).1 hrow
    rw [MethodKey.keepFirst_ofRow_of_conditional hnew hrow hrow, List.append_nil]
  case isFalse =>
    obtain ⟨new, hms, h⟩ := Logged.result_bind_eq_ok_iff.1 h
    rw [map_key_foldlM_addMethod h, map_key_of_methodsOf hms]
    exact congrArg _ (MethodKey.keepFirst_congr hnames _)

/-! ## All operations -/

/-- The methods of a table without an operation that has two rows. -/
theorem map_key_collectMethods {table : ActionTable} {methods : List ActorMethod}
    (hdistinct : Registry.HasDistinctRows table)
    (h : (collectMethods s modules table).result = .ok methods) :
    methods.map ActorMethod.key = ofTable table := by
  refine Logged.foldlM_invariant
    (P := fun done methods ↦ methods.map ActorMethod.key = ofTable done) h rfl ?_
  intro done row rest _ _ htable hmethods hstep
  rw [htable] at hdistinct
  exact map_key_addOperation hdistinct.notMem_before hmethods hstep

/-- A survey is there if the modules are made and their table is. -/
theorem survey_eq_ok_iff {r : Registry} {suite : Suite} {table : ActionTable} :
    (survey r s suite).result = .ok (modules, table) ↔
      (r.resolveModules suite).result = .ok modules ∧
        ((r.settled suite).resolveActions s modules).result = .ok table := by
  unfold survey
  simp only [Logged.result_bind_eq_ok_iff, Logged.result_mapError_eq_ok_iff, Logged.result_pure,
    Except.ok.injEq, Prod.mk.injEq]
  constructor
  · rintro ⟨_, hmodules, _, htable, rfl, rfl⟩
    exact ⟨hmodules, htable⟩
  · rintro ⟨hmodules, htable⟩
    exact ⟨modules, hmodules, table, htable, rfl, rfl⟩

theorem hasDistinctRows_of_survey {r : Registry} {suite : Suite} {table : ActionTable}
    (h : (survey r s suite).result = .ok (modules, table)) : Registry.HasDistinctRows table :=
  Registry.hasDistinctRows_resolveActions (survey_eq_ok_iff.1 h).2

/-- A rendering that succeeds goes through the table of the suite, and its text is that of the
methods that it collects. -/
theorem exists_of_produceWith {r : Registry} {o : Options} {suite : Suite} {rendered : Rendered}
    (h : (produceWith s r o suite).result = .ok rendered) :
    ∃ modules table, (survey r s suite).result = .ok (modules, table) ∧
      (collectMethods s modules table).result = .ok rendered.methods ∧
      render s o suite modules table rendered.methods = .ok rendered.text := by
  obtain ⟨_, -, h⟩ := Logged.result_bind_eq_ok_iff.1 h
  obtain ⟨_, -, h⟩ := Logged.result_bind_eq_ok_iff.1 h
  obtain ⟨⟨modules, table⟩, hsurvey, h⟩ := Logged.result_bind_eq_ok_iff.1 h
  obtain ⟨_, -, h⟩ := Logged.result_bind_eq_ok_iff.1 h
  obtain ⟨methods, hmethods, h⟩ := Logged.result_bind_eq_ok_iff.1 h
  obtain ⟨text, htext, h⟩ := Logged.result_bind_eq_ok_iff.1 h
  obtain ⟨_, -, h⟩ := Logged.result_bind_eq_ok_iff.1 h
  cases h
  exact ⟨modules, table, hsurvey, hmethods, htext⟩

/-- The methods of a rendered actor are those that the table of its suite stands for.  No two of
them share a name, their names are those of all operations, every check is there as an assertion,
and an operation has no method of its own if and only if a conditional variant of an earlier
operation has its name. -/
theorem methods_of_produceWith {r : Registry} {o : Options} {suite : Suite} {rendered : Rendered}
    (h : (produceWith s r o suite).result = .ok rendered) :
    ∃ modules table, (survey r s suite).result = .ok (modules, table) ∧
      rendered.methods.map ActorMethod.key = ofTable table ∧
      (rendered.methods.map (·.action)).Nodup ∧
      (∀ a, a ∈ rendered.methods.map (·.action) ↔
        ∃ row ∈ table, a ∈ Operation.actionNames row.1) ∧
      (∀ row ∈ table, Operation.IsCheck row.1 →
        ∃ m ∈ rendered.methods, m.key = ⟨row.1, row.1, .assertion, row.2⟩) ∧
      ∀ before row after, table = before ++ row :: after →
        ((¬∃ m ∈ rendered.methods, m.operation = row.1 ∧ m.action = row.1) ↔
          ∃ earlier ∈ before, Operation.conditionalName? earlier.1 = some row.1) := by
  obtain ⟨modules, table, hsurvey, hmethods, -⟩ := exists_of_produceWith h
  have hdistinct := hasDistinctRows_of_survey hsurvey
  have hkeys := map_key_collectMethods hdistinct hmethods
  have hactions : rendered.methods.map (·.action) = (ofTable table).map (·.action) := by
    rw [← hkeys, ActorMethod.map_action_key]
  refine ⟨modules, table, hsurvey, hkeys, ?_, ?_, ?_, ?_⟩
  · rw [hactions]
    exact MethodKey.nodup_ofTable table
  · intro a
    rw [hactions]
    exact MethodKey.mem_map_ofTable_iff
  · intro row hrow hcheck
    have hown := MethodKey.own_mem_ofTable_of_isCheck hdistinct hrow hcheck
    rw [← hkeys] at hown
    obtain ⟨m, hm, hkey⟩ := List.mem_map.1 hown
    refine ⟨m, hm, hkey.trans ?_⟩
    rw [MethodKey.own, Operation.ownRole_of_isCheck hcheck]
  · rintro before row after rfl
    have hrow : row ∈ before ++ row :: after := by simp
    rw [← not_iff_not, not_not, ← MethodKey.own_mem_ofTable_iff hdistinct, ← hkeys]
    constructor
    · rintro ⟨m, hm, hop, haction⟩
      have hkey : m.key ∈ ofTable (before ++ row :: after) := hkeys ▸ List.mem_map_of_mem hm
      rw [← MethodKey.eq_own_of_mem_ofTable hdistinct hrow hkey hop haction]
      exact List.mem_map_of_mem hm
    · intro hown
      obtain ⟨m, hm, hkey⟩ := List.mem_map.1 hown
      exact ⟨m, hm, congrArg MethodKey.operation hkey, congrArg MethodKey.action hkey⟩

/-- A source with one type, whose operations have the same parameters and documentation. -/
def sourceOfType (name : Text) (operations : List Text) (parameters : List Parameter)
    (doc : Text) : Source Unit where
  typeOf _ := .ok ()
  typeName _ := name
  operations _ := operations
  declaring? _ operation := if operation ∈ operations then some () else none
  ownDoc _ _ := doc
  interfaces _ := []
  parent? _ := none
  ownParameters? _ _ := some parameters

/-- The operation `canSeeIt` comes behind `seeIt`, whose conditional variant has its name. -/
theorem methods_of_produceWith_shadowed :
    let s := sourceOfType "T" ["seeIt", "canSeeIt", "amOn", "dontSeeIt"] [] []
    let r : Registry := { providers := [("M", .handle "T" .null .null)], useEntryPoints := false }
    let suite : Suite := { className := .text "A", modules := .list [.text "M"] }
    ∃ rendered, (produceWith s r {} suite).result = .ok rendered ∧
      rendered.methods.map (·.action) =
        ["canSeeIt", "seeIt", "amOn", "cantSeeIt", "dontSeeIt"].map Text.ofString ∧
      ∃ modules table, (survey r s suite).result = .ok (modules, table) ∧
        rendered.methods.map ActorMethod.key = ofTable table := by
  intro s r suite
  have hactions : ((produceWith s r {} suite).result.toOption.map fun rendered ↦
      rendered.methods.map (·.action)) =
        some (["canSeeIt", "seeIt", "amOn", "cantSeeIt", "dontSeeIt"].map Text.ofString) := by
    decide +kernel
  cases h : (produceWith s r {} suite).result with
  | error e =>
    rw [h] at hactions
    cases hactions
  | ok rendered =>
    obtain ⟨modules, table, hsurvey, hkeys, -⟩ := methods_of_produceWith h
    rw [h] at hactions
    exact ⟨rendered, rfl, Option.some.inj hactions, modules, table, hsurvey, hkeys⟩

end Actor

end ActorFacade
