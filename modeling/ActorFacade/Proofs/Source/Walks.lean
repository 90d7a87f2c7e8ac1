import ActorFacade.Source.Reachable
import Mathlib.Data.List.Chain
import Mathlib.Data.List.Nodup
import Mathlib.Logic.Basic

/-! # Walks through declared types

The lineage of a type is the chain of its parents, up to one that is not declared or was met before
(`isParentChain_lineage`).  The walk through interfaces lists what some declared type on its way
lists, and leaves nothing out (`mem_interfaces_iff`), however the references go in circles: what is
listed has its lineage visited or still to be visited, and what was visited has its interfaces
listed or still to be listed (`IsWalk`).
-/

namespace ActorFacade.Declarations

variable {idx : Declarations} {t u : Text} {d e : TypeDeclaration}

theorem mem_visit {n name : Text} {unvisited : List Text} :
    n ∈ visit name unvisited ↔ n ∈ unvisited ∧ n ≠ name := by
  simp [visit]

theorem mem_names_of_find? (h : idx.find? t = some d) : t ∈ idx.names := by
  rw [← name_of_find? h]
  exact List.mem_map_of_mem (List.mem_of_find?_eq_some h)

/-! ## Lineages -/

/-- A list is the chain of the parents of a type, from the type itself on: it ends with a type
whose parent is not declared or stands in the chain. -/
structure IsParentChain (idx : Declarations) (t : Text) (chain : List TypeDeclaration) : Prop where
  head : chain.head? = idx.find? t
  declared : ∀ d ∈ chain, idx.find? d.name = some d
  linked : chain.IsChain fun d e ↦ d.parent = some e.name
  nodup : (chain.map (·.name)).Nodup
  closed : ∀ d ∈ chain, ∀ p e, d.parent = some p → idx.find? p = some e → e ∈ chain

/-- A lineage goes on with the parent of the first declaration, if it has one. -/
theorem lineageFrom_eq_cons {unvisited : List Text} (h : t ∈ unvisited)
    (hd : idx.find? t = some d) :
    idx.lineageFrom unvisited t =
      d :: d.parent.toList.flatMap fun p ↦ idx.lineageFrom (visit t unvisited) p := by
  rw [lineageFrom, dif_pos h, hd]
  cases hparent : d.parent <;> simp [hparent]

theorem lineageFrom_eq_nil {unvisited : List Text} (h : t ∉ unvisited ∨ idx.find? t = none) :
    idx.lineageFrom unvisited t = [] := by
  rw [lineageFrom]
  split
  case isTrue hmem =>
    rw [h.resolve_left (not_not_intro hmem)]
  case isFalse => rfl

/-- What a lineage holds is its first declaration or in the lineage of the parent of that. -/
theorem mem_lineageFrom_iff {unvisited : List Text} :
    d ∈ idx.lineageFrom unvisited t ↔ t ∈ unvisited ∧ ∃ e, idx.find? t = some e ∧
      (d = e ∨ ∃ p, e.parent = some p ∧ d ∈ idx.lineageFrom (visit t unvisited) p) := by
  by_cases h : t ∈ unvisited
  · cases hfind : idx.find? t with
    | none => simp [lineageFrom_eq_nil (.inr hfind)]
    | some e => simp [lineageFrom_eq_cons h hfind, h]
  · simp [lineageFrom_eq_nil (.inl h), h]

theorem head?_lineageFrom {unvisited : List Text} (h : t ∈ unvisited) :
    (idx.lineageFrom unvisited t).head? = idx.find? t := by
  cases hfind : idx.find? t with
  | none => rw [lineageFrom_eq_nil (.inr hfind), List.head?_nil]
  | some d => rw [lineageFrom_eq_cons h hfind, List.head?_cons]

/-- What a lineage holds is declared and was not visited before. -/
theorem find?_of_mem_lineageFrom {unvisited : List Text} (h : d ∈ idx.lineageFrom unvisited t) :
    idx.find? d.name = some d ∧ d.name ∈ unvisited := by
  induction unvisited, t using lineageFrom.induct idx with
  | case1 unvisited t _ hfind => simp [lineageFrom_eq_nil (.inr hfind)] at h
  | case3 unvisited t hmem => simp [lineageFrom_eq_nil (.inl hmem)] at h
  | case2 unvisited t hmem e hfind ih =>
    obtain ⟨-, e, he, rfl | ⟨p, -, h⟩⟩ := mem_lineageFrom_iff.1 h
    · rw [name_of_find? he]
      exact ⟨he, hmem⟩
    · obtain ⟨hdeclared, hleft⟩ := ih p h
      exact ⟨hdeclared, (mem_visit.1 hleft).1⟩

theorem isChain_lineageFrom (idx : Declarations) (unvisited : List Text) (t : Text) :
    (idx.lineageFrom unvisited t).IsChain fun d e ↦ d.parent = some e.name := by
  induction unvisited, t using lineageFrom.induct idx with
  | case1 unvisited t _ hfind =>
    rw [lineageFrom_eq_nil (.inr hfind)]
    exact .nil
  | case3 unvisited t hmem =>
    rw [lineageFrom_eq_nil (.inl hmem)]
    exact .nil
  | case2 unvisited t hmem d hfind ih =>
    rw [lineageFrom_eq_cons hmem hfind]
    cases hparent : d.parent with
    | none => exact .singleton d
    | some p =>
      rw [Option.toList_some, List.flatMap_singleton, List.isChain_cons]
      refine ⟨?_, ih p⟩
      intro e he
      have hleft := (mem_lineageFrom_iff.1 (List.mem_of_head? he)).1
      rw [head?_lineageFrom hleft] at he
      rw [hparent, name_of_find? he]

theorem nodup_lineageFrom (idx : Declarations) (unvisited : List Text) (t : Text) :
    ((idx.lineageFrom unvisited t).map (·.name)).Nodup := by
  induction unvisited, t using lineageFrom.induct idx with
  | case1 unvisited t _ hfind => simp [lineageFrom_eq_nil (.inr hfind)]
  | case3 unvisited t hmem => simp [lineageFrom_eq_nil (.inl hmem)]
  | case2 unvisited t hmem d hfind ih =>
    rw [lineageFrom_eq_cons hmem hfind]
    cases hparent : d.parent with
    | none => exact List.nodup_singleton _
    | some p =>
      rw [Option.toList_some, List.flatMap_singleton, List.map_cons, List.nodup_cons]
      refine ⟨?_, ih p⟩
      intro hname
      obtain ⟨e, he, hsame⟩ := List.mem_map.1 hname
      refine (mem_visit.1 (find?_of_mem_lineageFrom he).2).2 ?_
      rw [hsame, name_of_find? hfind]

/-- A parent that was not visited before is in the lineage. -/
theorem parent_mem_lineageFrom {unvisited : List Text} (h : d ∈ idx.lineageFrom unvisited t)
    {p : Text} (hparent : d.parent = some p) (hp : idx.find? p = some e) (hleft : p ∈ unvisited) :
    e ∈ idx.lineageFrom unvisited t := by
  induction unvisited, t using lineageFrom.induct idx with
  | case1 unvisited t _ hfind => simp [lineageFrom_eq_nil (.inr hfind)] at h
  | case3 unvisited t hmem => simp [lineageFrom_eq_nil (.inl hmem)] at h
  | case2 unvisited t hmem f hfind ih =>
    obtain ⟨-, f', hf', h⟩ := mem_lineageFrom_iff.1 h
    cases hfind.symm.trans hf'
    refine mem_lineageFrom_iff.2 ⟨hmem, f, hfind, ?_⟩
    by_cases hsame : p = t
    · subst hsame
      exact .inl (Option.some.inj (hp.symm.trans hfind))
    have hleft : p ∈ visit t unvisited := mem_visit.2 ⟨hleft, hsame⟩
    rcases h with rfl | ⟨q, hq, h⟩
    · exact .inr ⟨p, hparent, List.mem_of_head? ((head?_lineageFrom hleft).trans hp)⟩
    · exact .inr ⟨q, hq, ih q h hleft⟩

/-- The lineage of a type is the chain of its parents. -/
theorem isParentChain_lineage (idx : Declarations) (t : Text) :
    idx.IsParentChain t (idx.lineage t) where
  head := by
    by_cases h : t ∈ idx.names
    · exact head?_lineageFrom h
    · rw [lineage, lineageFrom_eq_nil (.inl h)]
      cases hfind : idx.find? t with
      | none => rfl
      | some d => exact absurd (mem_names_of_find? hfind) h
  declared _ h := (find?_of_mem_lineageFrom h).1
  linked := isChain_lineageFrom ..
  nodup := nodup_lineageFrom ..
  closed _ h _ _ hparent hp := parent_mem_lineageFrom h hparent hp (mem_names_of_find? hp)

/-- A declared type begins its lineage. -/
theorem mem_lineage_self (h : idx.find? t = some d) : d ∈ idx.lineage t :=
  List.mem_of_head? ((isParentChain_lineage idx t).head.trans h)

theorem reaches_of_mem_lineageFrom {unvisited : List Text} (h : d ∈ idx.lineageFrom unvisited t) :
    idx.Reaches t d.name := by
  induction unvisited, t using lineageFrom.induct idx with
  | case1 unvisited t _ hfind => simp [lineageFrom_eq_nil (.inr hfind)] at h
  | case3 unvisited t hmem => simp [lineageFrom_eq_nil (.inl hmem)] at h
  | case2 unvisited t hmem e hfind ih =>
    obtain ⟨-, e, he, rfl | ⟨p, hp, h⟩⟩ := mem_lineageFrom_iff.1 h
    · rw [name_of_find? he]
      exact .refl t
    · exact (Reaches.parent he hp).trans (ih p h)

/-- The lineage of a type is reached from it. -/
theorem reaches_of_mem_lineage (h : d ∈ idx.lineage t) : idx.Reaches t d.name :=
  reaches_of_mem_lineageFrom h

/-! ## Interfaces -/

theorem mem_list {i name : Text} {listed : List Text} :
    i ∈ list name listed ↔ i = name ∨ i ∈ listed := by
  unfold list
  split
  case isTrue h => exact ⟨.inr, fun hi ↦ hi.elim (fun he ↦ he ▸ h) id⟩
  case isFalse => simp [or_comm]

/-- Some declared type that is reached lists an interface. -/
def ReachesLister (idx : Declarations) (t i : Text) : Prop :=
  ∃ u, idx.Reaches t u ∧ idx.Lists u i

theorem ReachesLister.reaches {i : Text} (h : idx.ReachesLister t i) : idx.Reaches t i := by
  obtain ⟨u, hu, d, hd, hi⟩ := h
  exact hu.trans (.interface hd hi)

/-- Where the walk through the interfaces of a type stands.  Nothing comes from elsewhere, and
nothing is left out: what is listed has its lineage visited or waiting, and what was visited has its
interfaces listed or waiting. -/
structure IsWalk (idx : Declarations) (root : Text) (unvisited listed : List Text)
    (tasks : List Task) : Prop where
  reached : ∀ d, .declaration d ∈ tasks → idx.find? d.name = some d ∧ idx.Reaches root d.name
  origin : ∀ i, i ∈ listed ∨ .interface i ∈ tasks → idx.ReachesLister root i
  lineages : ∀ i, i = root ∨ i ∈ listed → ∀ d ∈ idx.lineage i,
    d.name ∉ unvisited ∨ .declaration d ∈ tasks
  interfaces : ∀ d, idx.find? d.name = some d → d.name ∉ unvisited → ∀ i ∈ d.interfaces,
    i ∈ listed ∨ .interface i ∈ tasks

namespace IsWalk

variable {root : Text} {unvisited listed : List Text} {tasks : List Task}

theorem mem_lineageTasks {idx : Declarations} {name : Text} {d : TypeDeclaration} :
    Task.declaration d ∈ idx.lineageTasks name ↔ d ∈ idx.lineage name := by
  simp [lineageTasks]

theorem interface_notMem_lineageTasks (idx : Declarations) (name i : Text) :
    Task.interface i ∉ idx.lineageTasks name := by
  simp [lineageTasks]

/-- At first the lineage of the type is to be visited. -/
theorem init (idx : Declarations) (root : Text) :
    idx.IsWalk root idx.names [] (idx.lineageTasks root) where
  reached d hd := by
    rw [mem_lineageTasks] at hd
    exact ⟨(isParentChain_lineage idx root).declared d hd, reaches_of_mem_lineage hd⟩
  origin i hi := by
    rcases hi with hi | hi
    · cases hi
    · exact absurd hi (interface_notMem_lineageTasks idx root i)
  lineages i hi d hd := by
    rcases hi with rfl | hi
    · exact .inr (mem_lineageTasks.2 hd)
    · cases hi
  interfaces d hd hvisited := absurd (mem_names_of_find? hd) hvisited

/-- An interface is listed, and its lineage is to be visited. -/
theorem interface {name : Text}
    (h : idx.IsWalk root unvisited listed (.interface name :: tasks)) :
    idx.IsWalk root unvisited (list name listed) (idx.lineageTasks name ++ tasks) where
  reached d hd := by
    rcases List.mem_append.1 hd with hd | hd
    · rw [mem_lineageTasks] at hd
      have hname := (h.origin name (.inr List.mem_cons_self)).reaches
      exact ⟨(isParentChain_lineage idx name).declared d hd,
        hname.trans (reaches_of_mem_lineage hd)⟩
    · exact h.reached d (List.mem_cons_of_mem _ hd)
  origin i hi := by
    rw [mem_list, List.mem_append] at hi
    rcases hi with (rfl | hi) | hi | hi
    · exact h.origin i (.inr List.mem_cons_self)
    · exact h.origin i (.inl hi)
    · exact absurd hi (interface_notMem_lineageTasks idx name i)
    · exact h.origin i (.inr (List.mem_cons_of_mem _ hi))
  lineages i hi d hd := by
    rw [mem_list] at hi
    rw [List.mem_append]
    have hold : i = root ∨ i ∈ listed → d.name ∉ unvisited ∨ Task.declaration d ∈ tasks := by
      intro hi
      simpa using h.lineages i hi d hd
    rcases hi with hi | rfl | hi
    · exact (hold (.inl hi)).imp id .inr
    · exact .inr (.inl (mem_lineageTasks.2 hd))
    · exact (hold (.inr hi)).imp id .inr
  interfaces d hd hvisited i hi := by
    rw [mem_list, List.mem_append]
    rcases h.interfaces d hd hvisited i hi with hlisted | htask
    · exact .inl (.inr hlisted)
    · rcases List.mem_cons.1 htask with hname | htask
      · cases hname
        exact .inl (.inl rfl)
      · exact .inr (.inr htask)

/-- A type is visited, and its interfaces are to be listed. -/
theorem visit (h : idx.IsWalk root unvisited listed (.declaration d :: tasks)) :
    idx.IsWalk root (visit d.name unvisited) listed (d.interfaces.map .interface ++ tasks) where
  reached e he := by
    refine h.reached e (List.mem_cons_of_mem _ ?_)
    simpa using he
  origin i hi := by
    rcases hi with hi | hi
    · exact h.origin i (.inl hi)
    · rcases List.mem_append.1 hi with hi | hi
      · obtain ⟨hd, hreached⟩ := h.reached d List.mem_cons_self
        refine ⟨d.name, hreached, d, hd, ?_⟩
        simpa using hi
      · exact h.origin i (.inr (List.mem_cons_of_mem _ hi))
  lineages i hi e he := by
    rw [mem_visit, ne_eq, not_and_not_right, List.mem_append]
    rcases h.lineages i hi e he with hvisited | htask
    · exact .inl fun hleft ↦ absurd hleft hvisited
    · rcases List.mem_cons.1 htask with hsame | htask
      · cases hsame
        exact .inl fun _ ↦ rfl
      · exact .inr (.inr htask)
  interfaces e he hvisited i hi := by
    rw [mem_visit, ne_eq, not_and_not_right] at hvisited
    rw [List.mem_append]
    by_cases hleft : e.name ∈ unvisited
    · obtain ⟨hd, -⟩ := h.reached d List.mem_cons_self
      rw [hvisited hleft, hd] at he
      cases he
      exact .inr (.inl (List.mem_map_of_mem hi))
    · refine (h.interfaces e he hleft i hi).imp id fun htask ↦ .inr ?_
      simpa using htask

/-- A type that was visited before is passed over. -/
theorem skip (h : idx.IsWalk root unvisited listed (.declaration d :: tasks))
    (hvisited : d.name ∉ unvisited) : idx.IsWalk root unvisited listed tasks where
  reached e he := h.reached e (List.mem_cons_of_mem _ he)
  origin i hi := h.origin i (hi.imp id (List.mem_cons_of_mem _))
  lineages i hi e he := by
    rcases h.lineages i hi e he with hold | htask
    · exact .inl hold
    · rcases List.mem_cons.1 htask with hsame | htask
      · cases hsame
        exact .inl hvisited
      · exact .inr htask
  interfaces e he hold i hi := by
    simpa using h.interfaces e he hold i hi

/-- The walk as a whole ends without tasks. -/
theorem collect (h : idx.IsWalk root unvisited listed tasks) :
    ∃ unvisited', idx.IsWalk root unvisited' (idx.collect unvisited listed tasks) [] := by
  fun_induction Declarations.collect idx unvisited listed tasks with
  | case1 unvisited listed => exact ⟨unvisited, h⟩
  | case2 unvisited listed name tasks ih => exact ih h.interface
  | case3 unvisited listed d tasks hleft ih => simpa using ih (by simpa using h.visit)
  | case4 unvisited listed d tasks hvisited ih => exact ih (h.skip hvisited)

/-- A walk without tasks has gone through the lineages of what it lists, and so through everything
that is reached. -/
theorem exists_lineage (h : idx.IsWalk root unvisited listed []) (hu : idx.Reaches root u)
    (hd : idx.find? u = some d) : ∃ i, (i = root ∨ i ∈ listed) ∧ d ∈ idx.lineage i := by
  induction hu generalizing d with
  | refl => exact ⟨root, .inl rfl, mem_lineage_self hd⟩
  | step hu he hv ih =>
    rename_i u v e
    obtain ⟨i, hi, hmem⟩ := ih he
    rcases List.mem_append.1 hv with hparent | hinterface
    · have hparent : e.parent = some v := by simpa using hparent
      exact ⟨i, hi, (isParentChain_lineage idx i).closed e hmem v d hparent hd⟩
    · have hdeclared := (isParentChain_lineage idx i).declared e hmem
      have hvisited : e.name ∉ unvisited := by simpa using h.lineages i hi e hmem
      have hlisted : v ∈ listed := by simpa using h.interfaces e hdeclared hvisited v hinterface
      exact ⟨v, .inr hlisted, mem_lineage_self hd⟩

end IsWalk

/-- The walk through the interfaces of a type ends with its interfaces. -/
theorem exists_isWalk (idx : Declarations) (t : Text) :
    ∃ unvisited, idx.IsWalk t unvisited (idx.interfaces t) [] :=
  (IsWalk.init idx t).collect

/-- Every declared type that is reached stands in the lineage of the type or of an interface. -/
theorem exists_lineage_of_reaches (hu : idx.Reaches t u) (hd : idx.find? u = some d) :
    ∃ i, (i = t ∨ i ∈ idx.interfaces t) ∧ d ∈ idx.lineage i := by
  obtain ⟨unvisited, hwalk⟩ := exists_isWalk idx t
  exact hwalk.exists_lineage hu hd

/-- The interfaces of a type are those that some declared type it reaches lists. -/
theorem mem_interfaces_iff {i : Text} : i ∈ idx.interfaces t ↔ idx.ReachesLister t i := by
  obtain ⟨unvisited, hwalk⟩ := exists_isWalk idx t
  constructor
  · exact fun hi ↦ hwalk.origin i (.inl hi)
  · rintro ⟨u, hu, d, hd, hi⟩
    obtain ⟨j, hj, hmem⟩ := hwalk.exists_lineage hu hd
    have hvisited : d.name ∉ unvisited := by simpa using hwalk.lineages j hj d hmem
    have hdeclared := (isParentChain_lineage idx j).declared d hmem
    simpa using hwalk.interfaces d hdeclared hvisited i hi

end ActorFacade.Declarations
