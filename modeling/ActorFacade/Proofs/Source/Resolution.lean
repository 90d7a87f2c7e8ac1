import ActorFacade.Proofs.Source.Classes
import ActorFacade.Proofs.Source.Lookup

/-! # Resolving listed operations

What a source lists and what it looks up are told by different walks.  They go together if a listed
operation is declared somewhere, and the type that declares it is found again from itself and has
its parameters (`Source.IsCoherent`).  Then every listed operation resolves.  Declared types are
coherent whatever they refer to (`Declarations.isCoherent`), and so are lawful classes
(`Hierarchy.IsLawful.isCoherent`).
-/

namespace ActorFacade

namespace Source

variable {ρ : Type} {s : Source ρ} {t : ρ} {operation : Text}

/-- A source declares what it lists, and a declaring type declares the operation itself. -/
structure IsCoherent (s : Source ρ) : Prop where
  declared : ∀ {t operation}, operation ∈ s.operations t → (s.declaring? t operation).isSome = true
  again : ∀ {t operation d}, s.declaring? t operation = some d → s.declaring? d operation = some d
  own : ∀ {t operation d}, s.declaring? t operation = some d →
    (s.ownParameters? d operation).isSome = true

namespace IsCoherent

/-- An operation that is declared has its parameters. -/
theorem exists_parameters (hs : s.IsCoherent) {d : ρ} (hd : s.declaring? t operation = some d) :
    ∃ ps, s.parameters t operation = .ok ps := by
  obtain ⟨ps, hps⟩ := Option.isSome_iff_exists.1 (hs.own hd)
  refine ⟨ps, bind_eq_ok_iff.2 ⟨d, s.declaring_eq_ok_iff.2 hd, ?_⟩⟩
  rw [hps]
  rfl

/-- A listed operation resolves. -/
theorem exists_resolve (hs : s.IsCoherent) (h : operation ∈ s.operations t) :
    ∃ m, s.resolve t operation = .ok m := by
  obtain ⟨d, hd⟩ := Option.isSome_iff_exists.1 (hs.declared h)
  obtain ⟨ps, hps⟩ := hs.exists_parameters (hs.again hd)
  exact ⟨_, bind_eq_ok_iff.2 ⟨d, s.declaring_eq_ok_iff.2 hd, bind_eq_ok_iff.2 ⟨ps, hps, rfl⟩⟩⟩

end IsCoherent

end Source

/-! ## Declared types -/

namespace Declarations

variable {idx : Declarations} {d : TypeDeclaration} {operation : Text}

/-- A declaration with an operation is the nearest one that has it. -/
theorem nearest?_of_declares (hd : idx.find? d.name = some d)
    (hdeclares : d.declares operation = true) : idx.nearest? d.name operation = some d := by
  rw [nearest?, lineage, lineageFrom_eq_cons (mem_names_of_find? hd) hd, List.find?_cons, hdeclares]

theorem toSource_ownParameters? (idx : Declarations) (h : Hierarchy) (t operation : Text) :
    (idx.toSource h).ownParameters? t operation =
      (idx.ownMethod? t operation).map (·.parameters) := rfl

theorem isCoherent (idx : Declarations) (h : Hierarchy) : (idx.toSource h).IsCoherent where
  declared := by
    intro t operation hmem
    obtain ⟨d, -, hnearest, -⟩ := exists_nearest?_of_mem_operations idx hmem
    rw [toSource_declaring?, declaring?_of_nearest? hnearest]
    rfl
  again := by
    intro t operation name hname
    obtain ⟨d, hd, rfl⟩ := Option.map_eq_some_iff.1 hname
    obtain ⟨-, hfind, hdeclares⟩ := of_declaring? hd
    rw [toSource_declaring?, declaring?_of_nearest? (nearest?_of_declares hfind hdeclares)]
    rfl
  own := by
    intro t operation name hname
    obtain ⟨d, hd, rfl⟩ := Option.map_eq_some_iff.1 hname
    obtain ⟨-, hfind, hdeclares⟩ := of_declaring? hd
    rw [toSource_ownParameters?, Option.isSome_map, ownMethod?, hfind]
    exact hdeclares

end Declarations

/-! ## Classes -/

namespace Hierarchy

variable {h : Hierarchy}

theorem toSource_ownParameters? (h : Hierarchy) (c : ClassRef) (operation : Text) :
    h.toSource.ownParameters? c operation =
      ((h.get c).function? operation).map Function.parameters := rfl

theorem IsLawful.isCoherent (hlawful : h.IsLawful) : h.toSource.IsCoherent where
  declared := by
    intro c operation hmem
    exact hasOperation_iff.2 (hlawful.mem_operations_iff.1 hmem)
  again := by
    intro c operation d hd
    obtain ⟨-, -, -, hfunction, -⟩ := declaring?_eq_some_iff.1 hd
    obtain ⟨behind, hlineage⟩ := List.head?_eq_some_iff.1 (hlawful.head?_lineage d)
    exact declaring?_eq_some_iff.2 ⟨[], behind, hlineage, hfunction, List.forall_mem_nil _⟩
  own := by
    intro c operation d hd
    obtain ⟨-, -, -, hfunction, -⟩ := declaring?_eq_some_iff.1 hd
    rw [toSource_ownParameters?, Option.isSome_map]
    exact hfunction

end Hierarchy

end ActorFacade
