import ActorFacade.Proofs.Source.Agreement
import ActorFacade.Proofs.Source.Interfaces
import ActorFacade.Proofs.Source.Resolution

/-! # Adding declarations

What an index says about a type depends on the declarations that references lead to from it, and on
no others.  So two indices that have the same ones there say the same about the type
(`AgreeFrom.agreeOn`), although their walks start with different names to visit.  In particular a
declaration of a name that references do not lead to from a type can be added, or replaced, without
a change to any answer about the type (`answers_add`).
-/

namespace ActorFacade.Declarations

variable {idx idx' : Declarations} {t u : Text} {d : TypeDeclaration}

/-! ## Declarations after an addition -/

theorem find?_addTo_of_ne {types : List TypeDeclaration} (h : u ≠ d.name) :
    (addTo d types).find? (fun e ↦ e.name == u) = types.find? fun e ↦ e.name == u := by
  have hd : (d.name == u) = false := beq_eq_false_iff_ne.2 h.symm
  induction types with
  | nil => rw [addTo, List.find?_cons, hd]
  | cons e types ih =>
    rw [addTo]
    split
    case isTrue he => rw [List.find?_cons, List.find?_cons, he, hd]
    case isFalse => rw [List.find?_cons, List.find?_cons, ih]

/-- Other names keep their declarations. -/
theorem find?_add_of_ne (h : u ≠ d.name) : (idx.add d).find? u = idx.find? u := find?_addTo_of_ne h

theorem mem_names_iff : t ∈ idx.names ↔ ∃ d, idx.find? t = some d := by
  constructor
  · intro h
    obtain ⟨d, hd, rfl⟩ := List.mem_map.1 h
    rw [← Option.isSome_iff_exists, find?, List.find?_isSome]
    exact ⟨d, hd, beq_self_eq_true d.name⟩
  · rintro ⟨d, hd⟩
    exact mem_names_of_find? hd

/-! ## Agreeing indices -/

/-- Two indices have the same declarations wherever references lead from a type. -/
def AgreeFrom (idx idx' : Declarations) (t : Text) : Prop :=
  ∀ u, idx.Reaches t u → idx'.find? u = idx.find? u

/-- The same names that are reached from a type are left to visit. -/
def LeaveFrom (idx : Declarations) (t : Text) (unvisited unvisited' : List Text) : Prop :=
  ∀ u, idx.Reaches t u → (u ∈ unvisited' ↔ u ∈ unvisited)

theorem LeaveFrom.visit {unvisited unvisited' : List Text}
    (h : idx.LeaveFrom t unvisited unvisited') (name : Text) :
    idx.LeaveFrom t (visit name unvisited) (visit name unvisited') := by
  intro u hu
  rw [mem_visit, mem_visit, h u hu]

namespace AgreeFrom

theorem of_reaches (h : AgreeFrom idx idx' t) (hu : idx.Reaches t u) : AgreeFrom idx idx' u :=
  fun v hv ↦ h v (hu.trans hv)

/-- The same types are reached. -/
theorem reaches_iff (h : AgreeFrom idx idx' t) : idx'.Reaches t u ↔ idx.Reaches t u := by
  constructor
  · intro hu
    induction hu with
    | refl => exact .refl t
    | step _ hd hv ih => exact .step ih ((h _ ih).symm.trans hd) hv
  · intro hu
    induction hu with
    | refl => exact .refl t
    | step hw hd hv ih => exact .step ih ((h _ hw).trans hd) hv

/-- At first the same names are left to visit. -/
theorem leaveFrom_names (h : AgreeFrom idx idx' t) : idx.LeaveFrom t idx.names idx'.names := by
  intro u hu
  rw [mem_names_iff, mem_names_iff, h u hu]

/-- The lineage of a type is a chain of parents in both indices. -/
theorem lineage_eq (h : AgreeFrom idx idx' t) : idx'.lineage t = idx.lineage t := by
  have hchain := isParentChain_lineage idx t
  have hchain' : idx'.IsParentChain t (idx.lineage t) := by
    refine { hchain with head := ?_, declared := ?_, closed := ?_ }
    · rw [h t (.refl t)]
      exact hchain.head
    · intro d hd
      rw [h d.name (reaches_of_mem_lineage hd)]
      exact hchain.declared d hd
    · intro d hd p e hparent hp
      have hreached : idx.Reaches t p :=
        (reaches_of_mem_lineage hd).trans (.parent (hchain.declared d hd) hparent)
      rw [h p hreached] at hp
      exact hchain.closed d hd p e hparent hp
  exact hchain'.eq_lineage.symm

theorem operations_eq (h : AgreeFrom idx idx' t) : idx'.operations t = idx.operations t := by
  rw [operations, operations, h.lineage_eq]

/-- The walk through interfaces meets only types that are reached. -/
theorem collect_eq (h : AgreeFrom idx idx' t) {unvisited unvisited' listed : List Text}
    {tasks : List Task} (hwalk : idx.IsWalk t unvisited listed tasks)
    (hleave : idx.LeaveFrom t unvisited unvisited') :
    idx'.collect unvisited' listed tasks = idx.collect unvisited listed tasks := by
  fun_induction idx.collect unvisited listed tasks generalizing unvisited' with
  | case1 => rw [collect]
  | case2 unvisited listed name tasks ih =>
    have hname := (hwalk.origin name (.inr List.mem_cons_self)).reaches
    rw [collect, lineageTasks, (h.of_reaches hname).lineage_eq]
    exact ih hwalk.interface hleave
  | case3 unvisited listed d tasks hleft ih =>
    obtain ⟨-, hd⟩ := hwalk.reached d List.mem_cons_self
    rw [collect, dif_pos ((hleave _ hd).2 hleft)]
    simpa using ih (by simpa using hwalk.visit) (hleave.visit d.name)
  | case4 unvisited listed d tasks hvisited ih =>
    obtain ⟨-, hd⟩ := hwalk.reached d List.mem_cons_self
    rw [collect, dif_neg (mt (hleave _ hd).1 hvisited)]
    exact ih (hwalk.skip hvisited) hleave

theorem interfaces_eq (h : AgreeFrom idx idx' t) : idx'.interfaces t = idx.interfaces t := by
  rw [interfaces, lineageTasks, h.lineage_eq]
  exact h.collect_eq (.init idx t) h.leaveFrom_names

/-- The search for an operation meets only types that are reached. -/
theorem search_eq (h : AgreeFrom idx idx' t) {operation : Text}
    {unvisited unvisited' stack : List Text} (hstack : ∀ u ∈ stack, idx.Reaches t u)
    (hleave : idx.LeaveFrom t unvisited unvisited') :
    idx'.search operation unvisited' stack = idx.search operation unvisited stack := by
  fun_induction idx.search operation unvisited stack generalizing unvisited' with
  | case1 => rw [search]
  | case2 unvisited name stack hleft d hfound =>
    have hname := hstack name List.mem_cons_self
    rw [search, dif_pos ((hleave name hname).2 hleft), inLineage?,
      (h.of_reaches hname).lineage_eq, ← inLineage?, hfound]
  | case3 unvisited name stack hleft hnone ih =>
    obtain ⟨hname, hstack⟩ := List.forall_mem_cons.1 hstack
    have hagree := h.of_reaches hname
    have hinterfaces : ∀ u ∈ idx.interfaces name ++ stack, idx.Reaches t u := by
      intro u hu
      rcases List.mem_append.1 hu with hu | hu
      · exact hname.trans (mem_interfaces_iff.1 hu).reaches
      · exact hstack u hu
    rw [search, dif_pos ((hleave name hname).2 hleft), inLineage?, hagree.lineage_eq,
      ← inLineage?, hnone, hagree.interfaces_eq]
    exact ih hinterfaces (hleave.visit name)
  | case4 unvisited name stack hvisited ih =>
    obtain ⟨hname, hstack⟩ := List.forall_mem_cons.1 hstack
    rw [search, dif_neg (mt (hleave name hname).1 hvisited)]
    exact ih hstack hleave

theorem declaring?_eq (h : AgreeFrom idx idx' t) (operation : Text) :
    idx'.declaring? t operation = idx.declaring? t operation :=
  h.search_eq (List.forall_mem_singleton.2 (.refl t)) h.leaveFrom_names

theorem ownMethod?_eq (h : AgreeFrom idx idx' t) (operation : Text) :
    idx'.ownMethod? t operation = idx.ownMethod? t operation := by
  rw [ownMethod?, ownMethod?, h t (.refl t)]

/-- As sources the indices agree on all types that are reached. -/
theorem agreeOn (hagree : AgreeFrom idx idx' t) (h : Hierarchy) :
    Source.AgreeOn (idx.Reaches t) id (idx.toSource h) (idx'.toSource h) where
  typeName _ := rfl
  declaring? hu operation := by
    rw [id, toSource_declaring?, toSource_declaring?, (hagree.of_reaches hu).declaring?_eq,
      Option.map_id, id]
  ownDoc {u} hu operation := by
    have hmethod := (hagree.of_reaches hu).ownMethod?_eq operation
    exact congrArg (fun m ↦ (m.map (·.doc)).getD []) hmethod
  ownParameters? hu operation := by
    rw [id, toSource_ownParameters?, toSource_ownParameters?,
      (hagree.of_reaches hu).ownMethod?_eq]
  of_declaring? hu hname := by
    obtain ⟨d, hd, rfl⟩ := Option.map_eq_some_iff.1 hname
    exact hu.trans (of_declaring? hd).1
  interfaces hu := by
    rw [List.map_id]
    exact (hagree.of_reaches hu).interfaces_eq
  parent? {u} hu := by
    rw [Option.map_id]
    exact congrArg (·.bind (·.parent)) (hagree u hu)
  of_mem_interfaces hu hi := hu.trans (mem_interfaces_iff.1 hi).reaches
  of_parent? hu hp := by
    obtain ⟨d, hd, hparent⟩ := Option.bind_eq_some_iff.1 hp
    exact hu.trans (.parent hd hparent)

end AgreeFrom

/-! ## Additions -/

/-- An addition shows only where references lead to its name. -/
theorem agreeFrom_add (hd : ¬idx.Reaches t d.name) : AgreeFrom idx (idx.add d) t := by
  intro u hu
  refine find?_add_of_ne ?_
  rintro rfl
  exact hd hu

/-- Adding a declaration of a name that references do not lead to from a type changes no answer
about the type, no failure, and nothing of where references lead from it. -/
theorem answers_add (idx : Declarations) (h : Hierarchy) {t : Text} {d : TypeDeclaration}
    (hd : ¬idx.Reaches t d.name) :
    ((idx.add d).toSource h).operations t = (idx.toSource h).operations t ∧
    ((idx.add d).toSource h).interfaces t = (idx.toSource h).interfaces t ∧
    ((idx.add d).toSource h).parent? t = (idx.toSource h).parent? t ∧
    (∀ operation,
      ((idx.add d).toSource h).hasOperation t operation =
        (idx.toSource h).hasOperation t operation ∧
      ((idx.add d).toSource h).declaring t operation = (idx.toSource h).declaring t operation ∧
      ((idx.add d).toSource h).ownDoc t operation = (idx.toSource h).ownDoc t operation ∧
      ((idx.add d).toSource h).parameters t operation = (idx.toSource h).parameters t operation ∧
      ((idx.add d).toSource h).resolve t operation = (idx.toSource h).resolve t operation) ∧
    ∀ u, (idx.add d).Reaches t u ↔ idx.Reaches t u := by
  have hagree := agreeFrom_add hd
  have hsources := hagree.agreeOn h
  have ht : idx.Reaches t t := .refl t
  refine ⟨hagree.operations_eq, hagree.interfaces_eq, ?_, fun operation ↦
    ⟨hsources.hasOperation ht operation, ?_, hsources.ownDoc ht operation,
      hsources.parameters ht operation, ?_⟩, fun u ↦ hagree.reaches_iff⟩
  · exact (hsources.parent? ht).trans (congrFun Option.map_id _)
  · exact (hsources.declaring ht operation).trans (congrFun Except.map_id _)
  · exact (hsources.resolve ht operation).trans (congrFun Except.map_id _)

/-- Types within some names that are closed under references lead to no other name. -/
theorem Reaches.mem_of_closed (names : List Text) (ht : t ∈ names)
    (hclosed : ∀ u ∈ names, ∀ d ∈ (idx.find? u).toList, references d ⊆ names)
    (hu : idx.Reaches t u) : u ∈ names := by
  induction hu with
  | refl => exact ht
  | step _ hd hv ih => exact hclosed _ ih _ (Option.mem_toList.2 hd) hv

/-- The types in circles, and one that has one of them as its parent. -/
def user : Declarations := circles.add { name := "U", parent := some "T" }

/-- Another declaration of its name, with a method that the others have and other references. -/
def otherUser : TypeDeclaration where
  name := "U"
  methods := [{ name := "far" }]
  interfaces := ["J"]
  parent := some "P"

/-- The types in circles do not refer to the name, and nothing about them changes. -/
theorem answers_add_otherUser : ¬user.Reaches "T" otherUser.name ∧
    ((user.add otherUser).toSource {}).operations "T" = (user.toSource {}).operations "T" ∧
    ((user.add otherUser).toSource {}).declaring "T" "far" =
      (user.toSource {}).declaring "T" "far" ∧
    ((user.add otherUser).toSource {}).resolve "T" "far" =
      (user.toSource {}).resolve "T" "far" := by
  have hd : ¬user.Reaches "T" otherUser.name := by
    intro hreached
    have hmem := hreached.mem_of_closed ["T", "P", "I", "J", "K"] (by decide) (by decide)
    exact absurd hmem (by decide)
  obtain ⟨hoperations, -, -, hanswers, -⟩ := answers_add user {} hd
  obtain ⟨-, hdeclaring, -, -, hresolve⟩ := hanswers "far"
  exact ⟨hd, hoperations, hdeclaring, hresolve⟩

end ActorFacade.Declarations
