import ActorFacade.Proofs.Actor.Collection
import ActorFacade.Proofs.Operation.Collision

/-! # Conditional variants in tables

A check in a table has its conditional variant in the actor unless an operation before it took the
name: one with this very name, or a check for absence that is the same up to exchanges of `dont` and
`cant` (`conditional_of_collectMethods`).
-/

namespace ActorFacade.Actor

open Operation (IsCheck Collide conditionalName? mem_variants_iff)

namespace MethodKey

/-- The method of the conditional variant of an operation. -/
def conditional (row : Text × Text) (name : Text) : MethodKey :=
  ⟨name, row.1, .conditionalAssertion, row.2⟩

variable {row : Text × Text} {name : Text}

theorem ofRow_of_conditionalName? (h : conditionalName? row.1 = some name) :
    ofRow row = [conditional row name, own row] := by
  rw [ofRow_eq, h]
  rfl

/-- Of the methods of an operation only the conditional variant has its kind of step. -/
theorem eq_conditional_of_mem_ofRow (h : conditionalName? row.1 = some name) {m : MethodKey}
    (hm : m ∈ ofRow row) (hrole : m.role = .conditionalAssertion) : m = conditional row name := by
  rw [ofRow_of_conditionalName? h] at hm
  rcases List.mem_pair.1 hm with rfl | rfl
  · rfl
  · have hcheck : Operation.ownRole row.1 ≠ .conditionalAssertion := by
      unfold Operation.ownRole
      split <;> nofun
    exact absurd hrole hcheck

/-- The name of a conditional variant is taken by rows that have this name, and by checks that
collide with its own. -/
theorem mem_map_action_iff_of_conditional {rows : ActionTable} (hnew : row.1 ∉ rows.map (·.1))
    (h : conditionalName? row.1 = some name) :
    name ∈ (rows.flatMap ofRow).map (·.action) ↔
      ∃ earlier ∈ rows, earlier.1 = name ∨ Collide earlier.1 row.1 := by
  rw [mem_map_action_flatMap]
  refine exists_congr fun earlier ↦ and_congr_right fun hearlier ↦ ?_
  have hne : earlier.1 ≠ row.1 := fun he ↦ hnew (List.mem_map.2 ⟨earlier, hearlier, he⟩)
  rw [Operation.actionNames_eq, List.mem_append, Option.mem_toList, List.mem_singleton,
    or_comm, eq_comm]
  refine or_congr_right ?_
  constructor
  · intro hname
    exact ((Operation.conditionalName?_eq_iff hname h).1 rfl).resolve_left hne
  · intro hcollide
    have habsence := Operation.conditionalName?_eq_some_iff.2 (.inr ⟨hcollide.1, rfl⟩)
    rw [habsence, (Operation.conditionalName?_eq_iff habsence h).2 (.inr hcollide)]

/-- The conditional variant of an operation is among the methods of a table unless its name is taken
by the rows before. -/
theorem exists_conditional_iff {before after : ActionTable}
    (hdistinct : Registry.HasDistinctRows (before ++ row :: after))
    (h : conditionalName? row.1 = some name) :
    (∃ m ∈ ofTable (before ++ row :: after),
        m.operation = row.1 ∧ m.role = .conditionalAssertion) ↔
      ¬∃ earlier ∈ before, earlier.1 = name ∨ Collide earlier.1 row.1 := by
  rw [← mem_map_action_iff_of_conditional hdistinct.notMem_before h, ofTable_append_cons]
  constructor
  · rintro ⟨m, hm, hop, hrole⟩
    rcases List.mem_append.1 hm with hbefore | hkept
    · exact absurd (hop ▸ operation_mem_of_mem_ofTable hbefore) hdistinct.notMem_before
    -- No other row is of this operation, so that the method is the conditional variant.
    obtain ⟨row', hrow', hofRow⟩ := List.mem_flatMap.1
      (List.flatMap_cons (f := ofRow) ▸ mem_of_mem_keepFirst hkept)
    obtain rfl : row' = row := hdistinct.eq_of_fst (List.mem_append_right _ hrow') (by simp)
      ((operation_of_mem_ofRow hofRow).symm.trans hop)
    obtain rfl := eq_conditional_of_mem_ofRow h hofRow hrole
    exact notMem_of_mem_keepFirst hkept
  · intro htaken
    refine ⟨conditional row name, List.mem_append_right _ ?_, rfl, rfl⟩
    rw [ofRow_of_conditionalName? h, List.cons_append, keepFirst, if_neg (by exact htaken)]
    exact List.mem_cons_self

end MethodKey

/-- The conditional variants of two operations have one name if and only if the operations are the
same or collide, which needs a `cant` in one of them, and this name is never that of a check.  So
whatever table the methods of an actor are collected for, a check lacks its conditional variant if
and only if an operation before it has this name or collides with it. -/
theorem conditional_of_collectMethods :
    (∀ a b name name' : Text, ⟨name, .conditionalAssertion⟩ ∈ Operation.variants a →
      ⟨name', .conditionalAssertion⟩ ∈ Operation.variants b →
      (name = name' ↔ a = b ∨ Collide a b)) ∧
    (∀ a b : Text, Collide a b → a ≠ b →
      Text.ofString "cant" <:+: a ∨ Text.ofString "cant" <:+: b) ∧
    (∀ a name : Text, ⟨name, .conditionalAssertion⟩ ∈ Operation.variants a → ¬IsCheck name) ∧
    ∀ {ρ : Type} (s : Source ρ) (modules : ResolvedModules) (table : ActionTable)
      (methods : List ActorMethod), Registry.HasDistinctRows table →
      (collectMethods s modules table).result = .ok methods →
      ∀ before row after name, table = before ++ row :: after →
        ⟨name, .conditionalAssertion⟩ ∈ Operation.variants row.1 →
        ((¬∃ m ∈ methods, m.operation = row.1 ∧ m.role = .conditionalAssertion) ↔
          ∃ earlier ∈ before, earlier.1 = name ∨ Collide earlier.1 row.1) := by
  refine ⟨?_, ?_, ?_, ?_⟩
  · intro a b name name' ha hb
    exact Operation.conditionalName?_eq_iff (mem_variants_iff.1 ha) (mem_variants_iff.1 hb)
  · intro a b hcollide hne
    by_contra hnone
    rw [not_or] at hnone
    exact hne (hcollide.2.2.eq_of_cantFree hnone.1 hnone.2)
  · intro a name hname
    exact Operation.not_isCheck_of_action
      (Operation.kind_conditionalName (mem_variants_iff.1 hname))
  · rintro ρ s modules table methods hdistinct h before row after name rfl hname
    have hkeys := map_key_collectMethods hdistinct h
    rw [← not_iff_not, not_not,
      ← MethodKey.exists_conditional_iff hdistinct (mem_variants_iff.1 hname), ← hkeys]
    constructor
    · rintro ⟨m, hm, hop, hrole⟩
      exact ⟨m.key, List.mem_map_of_mem hm, hop, hrole⟩
    · rintro ⟨k, hk, hop, hrole⟩
      obtain ⟨m, hm, rfl⟩ := List.mem_map.1 hk
      exact ⟨m, hm, hop, hrole⟩

/-- The modules of a table whose operations are all of one module. -/
def oneModule : ResolvedModules := [("M", .handle "T" .null .null)]

/-- The methods of a table whose operations are all of one module. -/
def methodsOfOne (operations : List Text) : Option (List ActorMethod) :=
  (collectMethods (sourceOfType "T" operations [] []) oneModule
    (operations.map (·, Text.ofString "M"))).result.toOption

/-- A check loses its conditional variant to an operation with its name, and one that collides with
another check if it comes second. -/
theorem conditional_of_collectMethods_colliding :
    let a := Text.ofString "dontSeecant"
    let b := Text.ofString "dontSeedont"
    let operations := [Text.ofString "canSeeIt", Text.ofString "seeIt", a, b]
    ∃ methods, methodsOfOne operations = some methods ∧
      (¬∃ m ∈ methods, m.operation = Text.ofString "seeIt" ∧ m.role = .conditionalAssertion) ∧
      (∃ m ∈ methods, m.operation = a ∧ m.role = .conditionalAssertion) ∧
      ¬∃ m ∈ methods, m.operation = b ∧ m.role = .conditionalAssertion := by
  intro a b operations
  obtain ⟨methods, hmethods⟩ : ∃ methods, methodsOfOne operations = some methods :=
    Option.isSome_iff_exists.1 (by decide +kernel)
  have hdistinct : ((operations.map (·, Text.ofString "M")).map (·.1)).Nodup := by decide +kernel
  have hlost := conditional_of_collectMethods.2.2.2 _ oneModule _ methods hdistinct
    (toOption_eq_some_iff.1 hmethods)
  have hcollide : Collide a b :=
    ⟨by decide +kernel, by decide +kernel, Operation.cantName_eq_iff.1 (by decide +kernel)⟩
  refine ⟨methods, hmethods, ?_, ?_, ?_⟩
  · exact (hlost [("canSeeIt", "M")] ("seeIt", "M") [(a, "M"), (b, "M")] "canSeeIt" rfl
      (by decide +kernel)).2 ⟨("canSeeIt", "M"), by simp, .inl rfl⟩
  · by_contra hnone
    obtain ⟨earlier, hearlier, htaken⟩ := (hlost [("canSeeIt", "M"), ("seeIt", "M")] (a, "M")
      [(b, "M")] "cantSeecant" rfl (by decide +kernel)).1 hnone
    have hother : ∀ row ∈ [(Text.ofString "canSeeIt", Text.ofString "M"), ("seeIt", "M")],
        row.1 ≠ Text.ofString "cantSeecant" ∧ Operation.kind row.1 ≠ .absence := by decide +kernel
    exact htaken.elim (hother earlier hearlier).1 fun h ↦ (hother earlier hearlier).2 h.1
  · exact (hlost [("canSeeIt", "M"), ("seeIt", "M"), (a, "M")] (b, "M") [] "cantSeecant" rfl
      (by decide +kernel)).2 ⟨(a, "M"), by simp, .inr hcollide⟩

/-- Two different checks may have conditional variants with one name; the second one then loses its
variant in a table where no operation has this name. -/
theorem not_distinct_conditional :
    let a := Text.ofString "dontSeedont"
    let b := Text.ofString "dontSeecant"
    let name := Text.ofString "cantSeecant"
    a ≠ b ∧ ⟨name, .conditionalAssertion⟩ ∈ Operation.variants a ∧
      ⟨name, .conditionalAssertion⟩ ∈ Operation.variants b ∧
      (methodsOfOne [a, b]).map (·.map ActorMethod.key) =
        some [⟨name, a, .conditionalAssertion, "M"⟩, ⟨a, a, .assertion, "M"⟩,
          ⟨b, b, .assertion, "M"⟩] := by
  decide +kernel

end ActorFacade.Actor
