import ActorFacade.Proofs.Hierarchy.Single
import ActorFacade.Proofs.Source.Agreement
import ActorFacade.Proofs.Source.Interfaces
import ActorFacade.Proofs.Source.Resolution
import ActorFacade.Source.Described

/-! # Chains of classes and their declarations

Classes with one base each can be described by declarations.  If their names differ, the index of
the declarations finds the same operations as a look at the classes does, on the same classes and
with the same parameters and documentation (`Hierarchy.declared_eq_inspected`).  The index knows
nothing of interfaces, though, and a class that has or inherits the mark of a protocol is one, with
whatever else in its body: the sources say the same about interfaces, parents and inherited
documentation of a class as long as no class behind it has the mark.
-/

namespace ActorFacade

/-! ## Declarations of different names -/

namespace Declarations

variable {idx : Declarations} {d : TypeDeclaration} {types : List TypeDeclaration}

theorem addTo_of_notMem (h : d.name ∉ types.map (·.name)) : addTo d types = types ++ [d] := by
  induction types with
  | nil => rfl
  | cons e types ih =>
    rw [List.map_cons, List.mem_cons, not_or] at h
    rw [addTo, if_neg (Ne.symm h.1), ih h.2, List.cons_append]

/-- Declarations of different names all stand in the index, in the order of their addition. -/
theorem types_ofList (h : (types.map (·.name)).Nodup) : (ofList types).types = types := by
  induction types using List.reverseRecOn with
  | nil => rfl
  | append_singleton types d ih =>
    rw [List.map_append, List.nodup_append] at h
    obtain ⟨htypes, -, hdisjoint⟩ := h
    have hd : d.name ∉ types.map (·.name) :=
      fun hmem ↦ hdisjoint _ hmem _ (List.mem_singleton_self _) rfl
    rw [ofList, List.foldl_append, List.foldl_cons, List.foldl_nil, add, ← ofList, ih htypes,
      addTo_of_notMem hd]

end Declarations

namespace Hierarchy

variable {h : Hierarchy} {b c d k : ClassRef} {operation : Text}

/-! ## The declaration of a class -/

/-- The methods of a declaration are the plain functions of the class, in their order. -/
theorem IsLawful.map_name_methods (hlawful : h.IsLawful) (c : ClassRef) :
    (h.declarationOf c).methods.map (·.name) = (h.get c).functionNames := by
  rw [declarationOf, List.map_filterMap]
  have hsome : ∀ name ∈ (h.get c).functionNames,
      (((h.get c).function? name).map (methodDeclaration name)).map (·.name) = some name := by
    intro name hname
    obtain ⟨f, hf⟩ := Option.isSome_iff_exists.1
      ((ClassEntry.mem_functionNames_iff (hlawful.names_get c)).1 hname)
    rw [hf]
    rfl
  rw [List.filterMap_congr hsome, List.filterMap_some]

/-- The method of a name is the function of that name. -/
theorem IsLawful.method?_declarationOf (hlawful : h.IsLawful) (c : ClassRef) (operation : Text) :
    (h.declarationOf c).method? operation =
      ((h.get c).function? operation).map (methodDeclaration operation) := by
  cases hm : (h.declarationOf c).method? operation with
  | some m =>
    have hname := TypeDeclaration.name_of_method? hm
    obtain ⟨name, -, hfunction⟩ := List.mem_filterMap.1 (List.mem_of_find?_eq_some hm)
    obtain ⟨f, hf, rfl⟩ := Option.map_eq_some_iff.1 hfunction
    obtain rfl : name = operation := hname
    rw [hf]
    rfl
  | none =>
    cases hf : (h.get c).function? operation with
    | none => rfl
    | some f =>
      have hmem : operation ∈ (h.declarationOf c).methods.map (·.name) := by
        rw [hlawful.map_name_methods, ClassEntry.mem_functionNames_iff (hlawful.names_get c), hf]
        rfl
      obtain ⟨m, hm', hname⟩ := List.mem_map.1 hmem
      exact absurd (beq_iff_eq.2 hname) (List.find?_eq_none.1 hm m hm')

theorem IsLawful.declares_declarationOf (hlawful : h.IsLawful) (c : ClassRef) (operation : Text) :
    (h.declarationOf c).declares operation = ((h.get c).function? operation).isSome := by
  rw [TypeDeclaration.declares, hlawful.method?_declarationOf, Option.isSome_map]

theorem contains_iff : h.contains c = true ↔ ∃ e ∈ h.classes, e.ref = c := by
  simp only [contains, List.any_eq_true, beq_iff_eq]

namespace IsChained

/-- The parent of a declaration is the base of the class, unless that is `object`. -/
theorem baseName?_of_base (hchained : h.IsChained) (hb : b = .object ∨ h.contains b = true)
    (hbases : (h.get c).bases = [b]) :
    h.baseName? c = if b = .object then none else some (h.fullName b) := by
  rw [baseName?, hbases]
  rcases hb with rfl | hb
  · rfl
  · obtain ⟨module, qualified, rfl⟩ := hchained.place hb
    rfl

/-- The parent of a class is its base, unless that is `object` or an interface. -/
theorem parent?_of_base (hchained : h.IsChained) (hb : b = .object ∨ h.contains b = true)
    (hbases : (h.get c).bases = [b]) :
    h.parent? c = if b = .object ∨ h.isInterface b = true then none else some b := by
  rw [parent?, hbases]
  rcases hb with rfl | hb
  · rfl
  · obtain ⟨module, qualified, rfl⟩ := hchained.place hb
    cases hinterface : h.isInterface (.declared module qualified) <;>
      simp [hinterface, isMarker]

/-- A class in a lineage other than a mark is in the family, and what is in its lineage is in the
whole one. -/
theorem of_mem_lineage (hchained : h.IsChained) (hc : h.contains c = true) (hk : k ∈ h.lineage c)
    (hunmarked : isMarker k = false) :
    h.contains k = true ∧ (h.lineage k).tail ⊆ (h.lineage c).tail := by
  rcases hchained.within hc hk with rfl | hcontains
  · cases hunmarked
  · exact ⟨hcontains, hchained.lineage_subset hc k hk hcontains⟩

end IsChained

/-! ## The index of the declarations -/

section Names

variable (hnames : (h.classes.map fun e ↦ h.fullName e.ref).Nodup)

include hnames

theorem fullName_inj (hc : h.contains c = true) (hd : h.contains d = true)
    (hname : h.fullName c = h.fullName d) : c = d := by
  obtain ⟨e, he, rfl⟩ := contains_iff.1 hc
  obtain ⟨e', he', rfl⟩ := contains_iff.1 hd
  rw [List.inj_on_of_nodup_map hnames he he' hname]

theorem types_toDeclarations :
    h.toDeclarations.types = h.classes.map fun e ↦ h.declarationOf e.ref := by
  refine Declarations.types_ofList ?_
  rw [List.map_map]
  exact hnames

/-- The declaration of a class is found under its name. -/
theorem find?_toDeclarations (hc : h.contains c = true) :
    h.toDeclarations.find? (h.fullName c) = some (h.declarationOf c) := by
  obtain ⟨e, he, rfl⟩ := contains_iff.1 hc
  have hnodup : (h.toDeclarations.types.map (·.name)).Nodup := by
    rw [types_toDeclarations hnames, List.map_map]
    exact hnames
  refine (find?_key_eq_some_iff hnodup).2 ⟨?_, rfl⟩
  rw [types_toDeclarations hnames]
  exact List.mem_map_of_mem he

/-- No declaration lists interfaces. -/
theorem interfaces_toDeclarations (t : Text) : h.toDeclarations.interfaces t = [] := by
  refine List.eq_nil_iff_forall_not_mem.2 fun i hi ↦ ?_
  obtain ⟨u, -, d, hd, hlisted⟩ := Declarations.mem_interfaces_iff.1 hi
  have hmem := List.mem_of_find?_eq_some hd
  rw [types_toDeclarations hnames] at hmem
  obtain ⟨e, -, rfl⟩ := List.mem_map.1 hmem
  cases hlisted

end Names

/-! ## Lineages -/

/-- The declarations of the classes in a lineage, marks aside. -/
def declaredLineage (h : Hierarchy) (c : ClassRef) : List TypeDeclaration :=
  ((h.lineage c).filter fun k ↦ !isMarker k).map h.declarationOf

namespace IsChained

theorem declaredLineage_cons (hchained : h.IsChained) (hc : h.contains c = true)
    (hlineage : h.lineage c = c :: h.lineage b) :
    h.declaredLineage c = h.declarationOf c :: h.declaredLineage b := by
  rw [declaredLineage, hlineage, List.filter_cons_of_pos, List.map_cons, declaredLineage]
  rw [hchained.isMarker_of_contains hc]
  rfl

theorem declaredLineage_object (hchained : h.IsChained) : h.declaredLineage .object = [] := by
  rw [declaredLineage, hchained.lineage_object]
  rfl

theorem mem_declaredLineage_iff (hchained : h.IsChained) (hc : h.contains c = true)
    {d : TypeDeclaration} : d ∈ h.declaredLineage c ↔
      ∃ k ∈ h.lineage c, h.contains k = true ∧ h.declarationOf k = d := by
  simp only [declaredLineage, List.mem_map, List.mem_filter, Bool.not_eq_true', and_assoc]
  refine exists_congr fun k ↦ and_congr_right fun hk ↦ and_congr_left fun _ ↦ ?_
  exact ⟨fun hunmarked ↦ (hchained.of_mem_lineage hc hk hunmarked).1,
    fun hcontains ↦ hchained.isMarker_of_contains hcontains⟩

section Names

variable (hchained : h.IsChained) (hnames : (h.classes.map fun e ↦ h.fullName e.ref).Nodup)

include hchained hnames

/-- The chain of parents from the declaration of a class on is made of the declarations of the
classes in its lineage. -/
theorem isParentChain_declaredLineage (hc : h.contains c = true) :
    h.toDeclarations.IsParentChain (h.fullName c) (h.declaredLineage c) where
  head := by
    obtain ⟨b, -, -, hlineage⟩ := hchained.base hc
    rw [hchained.declaredLineage_cons hc hlineage, find?_toDeclarations hnames hc]
    rfl
  declared d hd := by
    obtain ⟨k, -, hk, rfl⟩ := (hchained.mem_declaredLineage_iff hc).1 hd
    exact find?_toDeclarations hnames hk
  linked := by
    -- By induction from the base: its declaration is the first one behind that of the class.
    refine hchained.induction (motive := fun c ↦ (h.declaredLineage c).IsChain _) ?_ c hc
    intro c b hc hb hbases hlineage
    rw [hchained.declaredLineage_cons hc hlineage]
    rcases hb with rfl | ⟨hb, ih⟩
    · rw [hchained.declaredLineage_object]
      exact .singleton _
    · refine List.isChain_cons.2 ⟨fun d hd ↦ ?_, ih⟩
      obtain ⟨a, -, -, hlineage⟩ := hchained.base hb
      rw [hchained.declaredLineage_cons hb hlineage, List.head?_cons] at hd
      cases hd
      have hne : b ≠ .object := by
        rintro rfl
        cases hchained.not_contains_object.symm.trans hb
      exact (hchained.baseName?_of_base (.inr hb) hbases).trans (if_neg hne)
  nodup := by
    rw [declaredLineage, List.map_map]
    refine ((hchained.nodup hc).filter _).map_on fun k hk d hd hname ↦ ?_
    obtain ⟨hk, hkunmarked⟩ := List.mem_filter.1 hk
    obtain ⟨hd, hdunmarked⟩ := List.mem_filter.1 hd
    exact fullName_inj hnames (hchained.of_mem_lineage hc hk (by simpa using hkunmarked)).1
      (hchained.of_mem_lineage hc hd (by simpa using hdunmarked)).1 hname
  closed d hd p e hparent hp := by
    obtain ⟨k, hk, hcontains, rfl⟩ := (hchained.mem_declaredLineage_iff hc).1 hd
    obtain ⟨b, hb, hbases, hlineage⟩ := hchained.base hcontains
    have hname := (hchained.baseName?_of_base hb hbases).symm.trans hparent
    split at hname
    case isTrue => cases hname
    case isFalse hne =>
      cases hname
      have hb := hb.resolve_left hne
      cases hp.symm.trans (find?_toDeclarations hnames hb)
      have hmem : b ∈ (h.lineage k).tail := by
        obtain ⟨a, -, -, hcons⟩ := hchained.base hb
        rw [hlineage, List.tail_cons, hcons]
        exact List.mem_cons_self
      have htail := hchained.lineage_subset hc k hk hcontains hmem
      exact (hchained.mem_declaredLineage_iff hc).2 ⟨b, List.mem_of_mem_tail htail, hb, rfl⟩

theorem lineage_toDeclarations (hc : h.contains c = true) :
    h.toDeclarations.lineage (h.fullName c) = h.declaredLineage c :=
  (hchained.isParentChain_declaredLineage hnames hc).eq_lineage.symm

end Names

/-! ## Protocols -/

theorem mark?_eq_map (hchained : h.IsChained) (hk : k = .object ∨ h.contains k = true) :
    h.mark? k = ((h.get k).attribute? markName).map Attribute.isTrue := by
  rcases hk with rfl | hk
  · rfl
  · obtain ⟨module, qualified, rfl⟩ := hchained.place hk
    rfl

end IsChained

/-- A class passes for a protocol: the first attribute in its lineage with the name of the mark
counts as true, and the class is not of the module of `protocol`. -/
def PassesForProtocol (h : Hierarchy) (c : ClassRef) : Prop :=
  (h.lookup? c markName).any Attribute.isTrue = true ∧ h.isOfProtocols c = false

instance : Decidable (h.PassesForProtocol c) := inferInstanceAs (Decidable (_ ∧ _))

namespace IsChained

theorem isProtocol_eq (hchained : h.IsChained) (hc : h.contains c = true) :
    h.isProtocol c = (h.lookup? c markName).any Attribute.isTrue := by
  have hmarks : (h.lineage c).findSome? h.mark? = (h.lookup? c markName).map Attribute.isTrue := by
    rw [lookup?, List.map_findSome?, ← List.head?_filterMap, ← List.head?_filterMap]
    refine congrArg List.head? (List.filterMap_congr fun k hk ↦ ?_)
    exact hchained.mark?_eq_map (hchained.within hc hk)
  rw [isProtocol, hmarks]
  cases h.lookup? c markName <;> rfl

theorem not_passesForProtocol_object (hchained : h.IsChained) :
    ¬h.PassesForProtocol .object := by
  rintro ⟨htrue, -⟩
  rw [lookup?, hchained.lineage_object, List.findSome?_singleton, hchained.get_object] at htrue
  cases htrue

/-- What passes for a protocol, and nothing else, is an interface. -/
theorem isInterface_iff (hchained : h.IsChained) (hk : k = .object ∨ h.contains k = true) :
    h.isInterface k = true ↔ h.PassesForProtocol k := by
  rcases hk with rfl | hk
  · exact iff_of_false Bool.false_ne_true hchained.not_passesForProtocol_object
  · rw [hchained.isInterface_eq hk, Bool.and_eq_true_iff, hchained.isProtocol_eq hk,
      Bool.not_eq_true', PassesForProtocol]

end IsChained

/-! ## The sources -/

namespace IsSingle

/-- A declaring class is in the family, and everything behind it is behind the class itself. -/
theorem of_declaring? (hsingle : h.IsSingle) (hc : h.contains c = true)
    (hd : h.declaring? c operation = some d) :
    h.contains d = true ∧ (h.lineage d).tail ⊆ (h.lineage c).tail := by
  have hfunction := List.find?_some hd
  have hunmarked :=
    (Bool.and_eq_true_iff.1 (hsingle.isLawful.holds_of_hasFunction hfunction)).1
  exact hsingle.isChained.of_mem_lineage hc (List.mem_of_find?_eq_some hd)
    (by simpa using hunmarked)

variable (hsingle : h.IsSingle) (hnames : (h.classes.map fun e ↦ h.fullName e.ref).Nodup)

include hsingle hnames

theorem operations_toDeclarations (hc : h.contains c = true) :
    h.toDeclarations.operations (h.fullName c) = h.operations c := by
  rw [Declarations.operations, hsingle.isChained.lineage_toDeclarations hnames hc, declaredLineage,
    List.flatMap_map, operations]
  simp only [hsingle.isLawful.map_name_methods]

/-- Within the chain of parents the declaration of the declaring class is found. -/
theorem inLineage?_toDeclarations (hc : h.contains c = true) (operation : Text) :
    h.toDeclarations.inLineage? operation (h.fullName c) =
      (h.declaring? c operation).map h.declarationOf := by
  have hlawful := hsingle.isLawful
  rw [Declarations.inLineage?, hsingle.isChained.lineage_toDeclarations hnames hc, declaredLineage,
    List.find?_map, List.find?_filter, declaring?]
  refine congrArg (Option.map _) (List.find?_congr fun k _ ↦ ?_)
  rw [Function.comp_apply, hlawful.declares_declarationOf]
  cases hf : ((h.get k).function? operation).isSome with
  | false => simp
  | true =>
    have hunmarked := (Bool.and_eq_true_iff.1 (hlawful.holds_of_hasFunction hf)).1
    rw [hunmarked]
    rfl

/-- There is nowhere else to look, as no interfaces are listed. -/
theorem declaring?_toDeclarations (hc : h.contains c = true) (operation : Text) :
    h.toDeclarations.declaring? (h.fullName c) operation =
      (h.declaring? c operation).map h.declarationOf := by
  have hfound := hsingle.inLineage?_toDeclarations hnames hc operation
  have hname := Declarations.mem_names_of_find?
    (find?_toDeclarations hnames hc)
  rw [Declarations.declaring?, Declarations.search, dif_pos hname, hfound]
  cases h.declaring? c operation with
  | some d => rfl
  | none =>
    rw [interfaces_toDeclarations hnames, List.append_nil]
    dsimp only [Option.map_none]
    rw [Declarations.search]

theorem ownMethod?_toDeclarations (hc : h.contains c = true) (operation : Text) :
    h.toDeclarations.ownMethod? (h.fullName c) operation =
      ((h.get c).function? operation).map (methodDeclaration operation) := by
  rw [Declarations.ownMethod?, find?_toDeclarations hnames hc, Option.bind_some,
    hsingle.isLawful.method?_declarationOf]

theorem ownDoc_toDeclarations (hc : h.contains c = true) (operation : Text) :
    (h.toDeclarations.toSource h).ownDoc (h.fullName c) operation = h.ownDoc c operation := by
  dsimp only [Declarations.toSource]
  rw [hsingle.ownMethod?_toDeclarations hnames hc, ownDoc]
  cases (h.get c).function? operation <;> rfl

theorem ownParameters?_toDeclarations (hc : h.contains c = true) (operation : Text) :
    (h.toDeclarations.toSource h).ownParameters? (h.fullName c) operation =
      h.toSource.ownParameters? c operation := by
  rw [Declarations.toSource_ownParameters?, hsingle.ownMethod?_toDeclarations hnames hc,
    toSource_ownParameters?, Option.map_map]
  rfl

/-- The index finds what a look at the classes finds. -/
theorem findOn : Source.FindOn (fun c ↦ h.contains c = true) h.fullName h.toSource
    (h.toDeclarations.toSource h) where
  typeName _ := rfl
  declaring? hc operation := by
    rw [Declarations.toSource_declaring?, hsingle.declaring?_toDeclarations hnames hc,
      Option.map_map]
    rfl
  ownDoc hc := hsingle.ownDoc_toDeclarations hnames hc
  ownParameters? hc := hsingle.ownParameters?_toDeclarations hnames hc
  of_declaring? hc hd := (hsingle.of_declaring? hc hd).1

/-- The index lists no interfaces, and neither does a class with none behind it. -/
theorem interfaces_eq_iff (hc : h.contains c = true) :
    (h.toDeclarations.toSource h).interfaces (h.fullName c) = (h.interfaces c).map h.fullName ↔
      ∀ k ∈ (h.lineage c).tail, ¬h.PassesForProtocol k := by
  have hnone : (h.toDeclarations.toSource h).interfaces (h.fullName c) = [] :=
    interfaces_toDeclarations hnames _
  rw [hnone, eq_comm, List.map_eq_nil_iff, interfaces, List.filter_eq_nil_iff]
  refine forall₂_congr fun k hk ↦ not_congr ?_
  exact hsingle.isChained.isInterface_iff
    (hsingle.isChained.within hc (List.mem_of_mem_tail hk))

/-- The index knows every base but `object`, and a look at the class passes over interfaces. -/
theorem parent?_eq_iff (hc : h.contains c = true) :
    (h.toDeclarations.toSource h).parent? (h.fullName c) = (h.parent? c).map h.fullName ↔
      ∀ b ∈ (h.get c).bases, ¬h.PassesForProtocol b := by
  have hchained := hsingle.isChained
  obtain ⟨b, hb, hbases, -⟩ := hchained.base hc
  have hparent : (h.toDeclarations.toSource h).parent? (h.fullName c) = h.baseName? c :=
    congrArg (·.bind (·.parent)) (find?_toDeclarations hnames hc)
  rw [hparent, hchained.baseName?_of_base hb hbases, hchained.parent?_of_base hb hbases, hbases,
    List.forall_mem_singleton, ← hchained.isInterface_iff hb]
  by_cases hobject : b = .object
  · subst hobject
    exact iff_of_true rfl Bool.false_ne_true
  · cases h.isInterface b <;> simp [hobject]

/-- The sources agree on classes with no interface behind them. -/
theorem agreeOn : Source.AgreeOn
    (fun c ↦ h.contains c = true ∧ ∀ k ∈ (h.lineage c).tail, ¬h.PassesForProtocol k) h.fullName
    h.toSource (h.toDeclarations.toSource h) where
  typeName _ := rfl
  declaring? hc := (hsingle.findOn hnames).declaring? hc.1
  ownDoc hc := (hsingle.findOn hnames).ownDoc hc.1
  ownParameters? hc := (hsingle.findOn hnames).ownParameters? hc.1
  of_declaring? hc hd := by
    obtain ⟨hcontains, hbehind⟩ := hsingle.of_declaring? hc.1 hd
    exact ⟨hcontains, fun k hk ↦ hc.2 k (hbehind hk)⟩
  interfaces hc := (hsingle.interfaces_eq_iff hnames hc.1).2 hc.2
  parent? {c} hc := by
    obtain ⟨b, -, hbases, hlineage⟩ := hsingle.isChained.base hc.1
    refine (hsingle.parent?_eq_iff hnames hc.1).2 fun b' hb' ↦ hc.2 b' ?_
    rw [hbases, List.mem_singleton] at hb'
    rw [hb', hlineage, List.tail_cons]
    exact hsingle.isLawful.mem_lineage b
  of_mem_interfaces hc hi := by
    obtain ⟨hi, hinterface⟩ := List.mem_filter.1 hi
    have hwithin := hsingle.isChained.within hc.1 (List.mem_of_mem_tail hi)
    exact absurd ((hsingle.isChained.isInterface_iff hwithin).1 hinterface) (hc.2 _ hi)
  of_parent? {c p} hc hp := by
    obtain ⟨b, hb, hbases, hlineage⟩ := hsingle.isChained.base hc.1
    have hparent := (hsingle.isChained.parent?_of_base hb hbases).symm.trans hp
    split at hparent
    case isTrue => cases hparent
    case isFalse hnot =>
      cases hparent
      refine ⟨hb.resolve_left fun hobject ↦ hnot (.inl hobject), fun k hk ↦ hc.2 k ?_⟩
      rw [hlineage]
      exact List.mem_of_mem_tail hk

end IsSingle

/-- The index of the declarations of classes with one base each, and a look at these classes, tell
the same about operations: which ones there are, where they are declared, and what parameters and
own documentation they have.  The interfaces of a class are the same if and only if no class behind
it passes for a protocol, and the parent is if and only if its base does not; if no class behind it
does, operations also resolve alike, with the same failures. -/
theorem declared_eq_inspected (hsingle : h.IsSingle)
    (hnames : (h.classes.map fun e ↦ h.fullName e.ref).Nodup) (hc : h.contains c = true) :
    (h.toDeclarations.toSource h).operations (h.fullName c) = h.toSource.operations c ∧
    (∀ operation,
      (h.toDeclarations.toSource h).hasOperation (h.fullName c) operation =
        h.toSource.hasOperation c operation ∧
      (h.toDeclarations.toSource h).declaring (h.fullName c) operation =
        (h.toSource.declaring c operation).map h.fullName ∧
      (h.toDeclarations.toSource h).ownDoc (h.fullName c) operation =
        h.toSource.ownDoc c operation ∧
      (h.toDeclarations.toSource h).parameters (h.fullName c) operation =
        h.toSource.parameters c operation) ∧
    ((h.toDeclarations.toSource h).interfaces (h.fullName c) =
        (h.toSource.interfaces c).map h.fullName ↔
      ∀ k ∈ (h.lineage c).tail, ¬h.PassesForProtocol k) ∧
    ((h.toDeclarations.toSource h).parent? (h.fullName c) =
        (h.toSource.parent? c).map h.fullName ↔
      ∀ b ∈ (h.get c).bases, ¬h.PassesForProtocol b) ∧
    ((∀ k ∈ (h.lineage c).tail, ¬h.PassesForProtocol k) → ∀ operation,
      (h.toDeclarations.toSource h).resolve (h.fullName c) operation =
        (h.toSource.resolve c operation).map (MethodMetadata.map h.fullName)) := by
  have hfind := hsingle.findOn hnames
  refine ⟨hsingle.operations_toDeclarations hnames hc, fun operation ↦
    ⟨hfind.hasOperation hc operation, hfind.declaring hc operation, hfind.ownDoc hc operation,
      hfind.parameters hc operation⟩, hsingle.interfaces_eq_iff hnames hc,
    hsingle.parent?_eq_iff hnames hc, fun hnone operation ↦ ?_⟩
  exact (hsingle.agreeOn hnames).resolve ⟨hc, hnone⟩ operation

/-- A class that derives from no other one. -/
def rootClass : ClassRef := .declared "m" "Root"

/-- A class that derives from it. -/
def leafClass : ClassRef := .declared "m" "Leaf"

/-- Both, as they are declared. -/
def family (ofRoot ofLeaf : List Member) : Except DeclarationError Hierarchy := do
  let h ← declare {} "m" "Root" [] ofRoot
  h.declare "m" "Leaf" [rootClass] ofLeaf

theorem isSingle_family {ofRoot ofLeaf : List Member} (hok : family ofRoot ofLeaf = .ok h) :
    h.IsSingle := by
  obtain ⟨h₁, hroot, hleaf⟩ := bind_eq_ok_iff.1 hok
  have hcontains := contains_of_declare rfl hroot
  refine .declare (.declare .empty rfl rfl (.inl rfl) hroot) ?_ rfl (.inr ?_) hleaf
  · rw [hcontains]
    decide
  · rw [hcontains]
    decide

/-- A root with a documented function, which the leaf has without documentation. -/
def plainFamily : Except DeclarationError Hierarchy :=
  family [.function .plain "find" [{ name := "self" }, { name := "id" }] (some "Finds.") false]
    [.function .plain "find" [{ name := "self" }, { name := "key" }] none false]

/-- A root with a function of the name of the mark. -/
def markedFamily : Except DeclarationError Hierarchy :=
  family [.function .plain markName [{ name := "self" }] none false] []

/-- The documentation comes from the root in either way. -/
theorem declared_eq_inspected_plain : ∃ h, plainFamily = .ok h ∧ h.IsSingle ∧
    h.contains leafClass = true ∧ h.fullName leafClass = Text.ofString "m.Leaf" ∧
    (h.toSource.resolve leafClass "find").toOption.map (·.doc) = some (Text.ofString "Finds.") ∧
    (h.toDeclarations.toSource h).resolve "m.Leaf" "find" =
      (h.toSource.resolve leafClass "find").map (MethodMetadata.map h.fullName) := by
  have hany : plainFamily.toOption.any (fun h ↦ decide (
      (h.classes.map fun e ↦ h.fullName e.ref).Nodup ∧ h.contains leafClass = true ∧
        h.fullName leafClass = Text.ofString "m.Leaf" ∧
        (h.toSource.resolve leafClass "find").toOption.map (·.doc) =
          some (Text.ofString "Finds.") ∧
        ∀ k ∈ (h.lineage leafClass).tail, ¬h.PassesForProtocol k)) = true := by
    decide +kernel
  obtain ⟨h, hok, hall⟩ := (Option.any_eq_true _ _).1 hany
  obtain ⟨hnames, hleaf, hname, hdoc, hnone⟩ := of_decide_eq_true hall
  have hplain := toOption_eq_some_iff.1 hok
  obtain ⟨-, -, -, -, hresolve⟩ := declared_eq_inspected (isSingle_family hplain) hnames hleaf
  exact ⟨h, hplain, isSingle_family hplain, hleaf, hname, hdoc, hname ▸ hresolve hnone "find"⟩

/-- The root is an interface of the leaf and not its parent; in the index it is the other way round.
-/
theorem declared_ne_inspected_marked : ∃ h, markedFamily = .ok h ∧ h.IsSingle ∧
    (h.classes.map fun e ↦ h.fullName e.ref).Nodup ∧ h.contains leafClass = true ∧
    h.toSource.interfaces leafClass = [rootClass] ∧
    (h.toDeclarations.toSource h).interfaces (h.fullName leafClass) ≠
      (h.toSource.interfaces leafClass).map h.fullName ∧
    h.toSource.parent? leafClass = none ∧
    (h.toDeclarations.toSource h).parent? (h.fullName leafClass) ≠
      (h.toSource.parent? leafClass).map h.fullName := by
  have hany : markedFamily.toOption.any (fun h ↦ decide (
      (h.classes.map fun e ↦ h.fullName e.ref).Nodup ∧ h.contains leafClass = true ∧
        h.toSource.interfaces leafClass = [rootClass] ∧ h.toSource.parent? leafClass = none ∧
        (h.toDeclarations.toSource h).parent? (h.fullName leafClass) =
          some (h.fullName rootClass))) = true := by
    decide +kernel
  obtain ⟨h, hok, hall⟩ := (Option.any_eq_true _ _).1 hany
  obtain ⟨hnames, hleaf, hinterfaces, hnone, hparent⟩ := of_decide_eq_true hall
  have hmarked := toOption_eq_some_iff.1 hok
  refine ⟨h, hmarked, isSingle_family hmarked, hnames, hleaf, hinterfaces, ?_, hnone, ?_⟩
  · have hlisted : (h.toDeclarations.toSource h).interfaces (h.fullName leafClass) = [] :=
      interfaces_toDeclarations hnames _
    rw [hlisted, hinterfaces]
    exact nofun
  · rw [hparent, hnone]
    exact nofun

end Hierarchy

end ActorFacade
