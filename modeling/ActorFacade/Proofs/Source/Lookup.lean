import ActorFacade.Proofs.Except
import ActorFacade.Proofs.FirstPlaces
import ActorFacade.Proofs.Source.Walks

/-! # Looking up operations of declared types

An operation is found on a type exactly if some declared type that it reaches declares it
(`declaring?_eq_none_iff`, `of_declaring?`): the search passes over types that it has visited, but
it goes through all interfaces of the type, and these are closed under references.  Where the chain
of parents declares the operation, the nearest type of the chain is found.
-/

namespace ActorFacade.Declarations

variable {idx : Declarations} {t operation : Text} {d : TypeDeclaration}

/-! ## Searching -/

/-- What is found is declared where one of the types to be searched leads, and has the operation. -/
theorem of_search {unvisited stack : List Text}
    (h : idx.search operation unvisited stack = some d) :
    (∃ t ∈ stack, idx.Reaches t d.name) ∧ idx.find? d.name = some d ∧
      d.declares operation = true := by
  fun_induction search idx operation unvisited stack with
  | case1 => cases h
  | case2 unvisited t stack hleft e hfound =>
    cases h
    have hmem := List.mem_of_find?_eq_some hfound
    refine ⟨⟨t, List.mem_cons_self, reaches_of_mem_lineage hmem⟩,
      (isParentChain_lineage idx t).declared d hmem, ?_⟩
    simpa using List.find?_some hfound
  | case3 unvisited t stack hleft hnone ih =>
    obtain ⟨⟨u, hu, hreached⟩, hd⟩ := ih h
    refine ⟨?_, hd⟩
    rcases List.mem_append.1 hu with hu | hu
    · have htu := (mem_interfaces_iff.1 hu).reaches
      exact ⟨t, List.mem_cons_self, htu.trans hreached⟩
    · exact ⟨u, List.mem_cons_of_mem _ hu, hreached⟩
  | case4 unvisited t stack hvisited ih =>
    obtain ⟨⟨u, hu, hreached⟩, hd⟩ := ih h
    exact ⟨⟨u, List.mem_cons_of_mem _ hu, hreached⟩, hd⟩

/-- Where nothing is found, no lineage of an unvisited type to be searched has the operation. -/
theorem inLineage?_of_search {unvisited stack : List Text}
    (h : idx.search operation unvisited stack = none) :
    ∀ t ∈ stack, t ∈ unvisited → idx.inLineage? operation t = none := by
  fun_induction search idx operation unvisited stack with
  | case1 => simp
  | case2 => cases h
  | case3 unvisited t stack hleft hnone ih =>
    intro u hu hunvisited
    by_cases hsame : u = t
    · exact hsame ▸ hnone
    · have hu : u ∈ stack := (List.mem_cons.1 hu).resolve_left hsame
      exact ih h u (List.mem_append_right _ hu) (mem_visit.2 ⟨hunvisited, hsame⟩)
  | case4 unvisited t stack hvisited ih =>
    intro u hu hunvisited
    have hne : u ≠ t := fun he ↦ hvisited (he ▸ hunvisited)
    exact ih h u ((List.mem_cons.1 hu).resolve_left hne) hunvisited

/-! ## Declaring types -/

/-- The nearest type of the chain of parents goes first. -/
theorem declaring?_of_nearest? (h : idx.nearest? t operation = some d) :
    idx.declaring? t operation = some d := by
  have hmem : t ∈ idx.names := by
    cases hfind : idx.find? t with
    | some e => exact mem_names_of_find? hfind
    | none =>
      rw [nearest?, lineage, lineageFrom_eq_nil (.inr hfind)] at h
      cases h
  have hlineage : idx.inLineage? operation t = some d := h
  rw [declaring?, search, dif_pos hmem, hlineage]

/-- What is found declares the operation and is reached. -/
theorem of_declaring? (h : idx.declaring? t operation = some d) :
    idx.Reaches t d.name ∧ idx.find? d.name = some d ∧ d.declares operation = true := by
  obtain ⟨⟨u, hu, hreached⟩, hd⟩ := of_search h
  obtain rfl := List.mem_singleton.1 hu
  exact ⟨hreached, hd⟩

/-- Where nothing is found, neither the lineage of the type nor that of an interface of it has the
operation. -/
theorem inLineage?_of_declaring? (h : idx.declaring? t operation = none) {u : Text}
    (hu : u = t ∨ u ∈ idx.interfaces t) : idx.inLineage? operation u = none := by
  by_cases hleft : u ∈ idx.names
  case neg =>
    rw [inLineage?, lineage, lineageFrom_eq_nil (.inl hleft)]
    rfl
  have hself := inLineage?_of_search h t (List.mem_singleton_self t)
  rcases hu with rfl | hu
  · exact hself hleft
  by_cases hsame : u = t
  · subst hsame
    exact hself hleft
  by_cases ht : t ∈ idx.names
  · rw [declaring?, search, dif_pos ht, hself ht] at h
    exact inLineage?_of_search h u (List.mem_append_left _ hu) (mem_visit.2 ⟨hleft, hsame⟩)
  · rw [interfaces, lineageTasks, lineage, lineageFrom_eq_nil (.inl ht), List.map_nil,
      collect] at hu
    cases hu

/-- Nothing is found if and only if no declared type that is reached declares the operation. -/
theorem declaring?_eq_none_iff :
    idx.declaring? t operation = none ↔ ¬∃ u, idx.Reaches t u ∧ idx.Declares u operation := by
  constructor
  · rintro h ⟨u, hu, e, he, hdeclares⟩
    obtain ⟨i, hi, hmem⟩ := exists_lineage_of_reaches hu he
    have hnone := List.find?_eq_none.1 (inLineage?_of_declaring? h hi) e hmem
    exact hnone hdeclares
  · intro h
    cases hfound : idx.declaring? t operation with
    | none => rfl
    | some d =>
      obtain ⟨hreached, hd⟩ := of_declaring? hfound
      exact absurd ⟨d.name, hreached, d, hd⟩ h

/-! ## The index as a source -/

variable (idx) (h : Hierarchy)

theorem toSource_declaring? (t operation : Text) :
    (idx.toSource h).declaring? t operation = (idx.declaring? t operation).map (·.name) := rfl

theorem declaring_eq_ok_iff {u : Text} :
    (idx.toSource h).declaring t operation = .ok u ↔
      ∃ d, idx.declaring? t operation = some d ∧ d.name = u := by
  rw [Source.declaring_eq_ok_iff, toSource_declaring?, Option.map_eq_some_iff]

theorem declaring_eq_error_iff {e : Undeclared} :
    (idx.toSource h).declaring t operation = .error e ↔
      idx.declaring? t operation = none ∧ (idx.toSource h).undeclared t operation = e := by
  rw [Source.declaring, toSource_declaring?]
  cases idx.declaring? t operation <;> simp

theorem hasOperation_iff :
    (idx.toSource h).hasOperation t operation = true ↔
      ∃ u, idx.Reaches t u ∧ idx.Declares u operation := by
  rw [Source.hasOperation, toSource_declaring?, Option.isSome_map, Option.isSome_iff_ne_none,
    ne_eq, declaring?_eq_none_iff, not_not]

/-- The parameters of an operation are those of the first method of its name where it is
declared. -/
theorem parameters_of_declaring? {m : MethodDeclaration}
    (hd : idx.declaring? t operation = some d) (hm : d.method? operation = some m) :
    (idx.toSource h).parameters t operation = .ok m.parameters := by
  have hdeclaring := (declaring_eq_ok_iff idx h).2 ⟨d, hd, rfl⟩
  have hown : (idx.toSource h).ownParameters? d.name operation = some m.parameters := by
    have hfind := (of_declaring? hd).2.1
    simp [toSource, ownMethod?, hfind, hm]
  unfold Source.parameters
  refine bind_eq_ok_iff.2 ⟨d.name, hdeclaring, ?_⟩
  rw [hown]
  rfl

/-- A type of a chain that has some operation among its own has a first one that declares it. -/
theorem exists_nearest?_of_mem_operations (hmem : operation ∈ idx.operations t) :
    ∃ d m, idx.nearest? t operation = some d ∧ d.method? operation = some m := by
  rw [operations, List.mem_eraseDups, List.mem_flatMap] at hmem
  obtain ⟨e, he, hname⟩ := hmem
  obtain ⟨m, hm, rfl⟩ := List.mem_map.1 hname
  have hdeclares : e.declares m.name = true := by
    rw [TypeDeclaration.declares, TypeDeclaration.method?, List.find?_isSome]
    exact ⟨m, hm, by simp⟩
  cases hfind : idx.nearest? t m.name with
  | none => exact absurd hdeclares (List.find?_eq_none.1 hfind e he)
  | some d =>
    have hd : d.declares m.name = true := by simpa using List.find?_some hfind
    obtain ⟨n, hn⟩ := Option.isSome_iff_exists.1 hd
    exact ⟨d, n, rfl, hn⟩

/-- Looking up an operation of a type is looking for a declared type that it reaches, on any index.
Of the chain of its parents every operation is listed once, in the order of first places, and is
found on the nearest type that declares it. -/
theorem lookup_iff_reaches (idx : Declarations) (h : Hierarchy) (t : Text) :
    (∀ operation, (idx.toSource h).hasOperation t operation = true ↔
      ∃ u, idx.Reaches t u ∧ idx.Declares u operation) ∧
    (∀ operation, (idx.toSource h).declaring t operation = .error ⟨operation, t⟩ ↔
      (idx.toSource h).hasOperation t operation = false) ∧
    (∀ operation, (idx.toSource h).hasOperation t operation = true →
      ∃ u, (idx.toSource h).declaring t operation = .ok u ∧ idx.Reaches t u ∧
        idx.Declares u operation) ∧
    ∃ chain, idx.IsParentChain t chain ∧
      AreFirsts ((idx.toSource h).operations t) (chain.flatMap fun d ↦ d.methods.map (·.name)) ∧
      ∀ operation ∈ (idx.toSource h).operations t, ∃ d m,
        chain.find? (·.declares operation) = some d ∧
        d.methods.find? (·.name == operation) = some m ∧
        (idx.toSource h).declaring t operation = .ok d.name ∧
        (idx.toSource h).parameters t operation = .ok m.parameters := by
  refine ⟨fun operation ↦ hasOperation_iff idx h, ?_, ?_, idx.lineage t,
    isParentChain_lineage idx t, areFirsts_eraseDups _, ?_⟩
  · intro operation
    rw [declaring_eq_error_iff, and_iff_left (by rfl), declaring?_eq_none_iff,
      ← hasOperation_iff idx h, Bool.not_eq_true]
  · intro operation hhas
    cases hfound : idx.declaring? t operation with
    | none => exact absurd ((hasOperation_iff idx h).1 hhas) (declaring?_eq_none_iff.1 hfound)
    | some d =>
      obtain ⟨hreached, hd⟩ := of_declaring? hfound
      exact ⟨d.name, (declaring_eq_ok_iff idx h).2 ⟨d, hfound, rfl⟩, hreached, d, hd⟩
  · intro operation hmem
    obtain ⟨d, m, hnearest, hm⟩ := exists_nearest?_of_mem_operations idx hmem
    have hfound := declaring?_of_nearest? hnearest
    exact ⟨d, m, hnearest, hm, (declaring_eq_ok_iff idx h).2 ⟨d, hfound, rfl⟩,
      parameters_of_declaring? idx h hfound hm⟩

/-- Types that refer to each other in circles, and to one that is not declared. -/
def circles : Declarations :=
  .ofList
    [{ name := "T", interfaces := ["I"], parent := some "P" },
     { name := "P", methods := [{ name := "near" }], parent := some "T" },
     { name := "I", interfaces := ["J", "T"] },
     { name := "J", methods := [{ name := "far" }], interfaces := ["I"], parent := some "K" }]

/-- An operation beyond two interfaces is found, and one of the parent is listed. -/
theorem lookup_iff_reaches_circles :
    (circles.toSource {}).hasOperation "T" "far" = true ∧
      (∃ u, (circles.toSource {}).declaring "T" "far" = .ok u ∧ circles.Reaches "T" u ∧
        circles.Declares u "far") ∧
      Text.ofString "near" ∈ (circles.toSource {}).operations "T" ∧
      ∃ (d : TypeDeclaration) (m : MethodDeclaration),
        d.methods.find? (·.name == Text.ofString "near") = some m ∧
        (circles.toSource {}).declaring "T" "near" = .ok d.name ∧
        (circles.toSource {}).parameters "T" "near" = .ok m.parameters := by
  have hreached : circles.Reaches "T" "J" := by
    have hinterface : circles.Reaches "T" "I" := .interface rfl List.mem_cons_self
    exact hinterface.trans (.interface rfl List.mem_cons_self)
  obtain ⟨hiff, -, hfound, chain, hchain, hfirsts, hnearest⟩ := lookup_iff_reaches circles {} "T"
  have hfar := (hiff "far").2 ⟨"J", hreached, _, rfl, rfl⟩
  have hnear : Text.ofString "near" ∈ (circles.toSource {}).operations "T" := by
    have hself := List.mem_of_head? (hchain.head.trans (by rfl))
    have hparent := hchain.closed _ hself "P" _ (by rfl) (by rfl)
    exact (hfirsts.mem_iff _).2 (List.mem_flatMap.2 ⟨_, hparent, List.mem_cons_self⟩)
  obtain ⟨d, m, -, hm, hd, hparameters⟩ := hnearest "near" hnear
  exact ⟨hfar, hfound "far" hfar, hnear, d, m, hm, hd, hparameters⟩

end ActorFacade.Declarations
