import ActorFacade.Proofs.Source.Lookup

/-! # The order of interfaces

The interfaces of a type are listed by a walk, depth first: it goes through the chain of the
parents, and behind each interface that it lists through the chain of the interface in the same way.
Types that it has visited are passed over, and no name is listed again.  `WalksChain` says this
without tasks that wait.  Such a walk always comes to an end (`exists_walksChain`), and what it
lists are the interfaces (`WalksChain.collect`).
-/

namespace ActorFacade.Declarations

variable {idx : Declarations} {t : Text} {d : TypeDeclaration} {chain ds : List TypeDeclaration}

/-! ## Visited types -/

/-- The declared names that were not visited. -/
def left (idx : Declarations) (visited : List Text) : List Text :=
  idx.names.filter fun n ↦ n ∉ visited

@[simp] theorem left_nil (idx : Declarations) : idx.left [] = idx.names := by simp [left]

theorem mem_left {visited : List Text} (hd : idx.find? d.name = some d) :
    d.name ∈ idx.left visited ↔ d.name ∉ visited := by
  simp [left, mem_names_of_find? hd]

theorem visit_left (idx : Declarations) (name : Text) (visited : List Text) :
    visit name (idx.left visited) = idx.left (name :: visited) := by
  rw [visit, left, List.filter_filter, left]
  refine List.filter_congr fun n _ ↦ ?_
  rw [Bool.eq_iff_iff]
  simp

theorem length_left_lt {visited : List Text} (hd : idx.find? d.name = some d)
    (hnew : d.name ∉ visited) :
    (idx.left (d.name :: visited)).length < (idx.left visited).length := by
  rw [← visit_left]
  exact length_visit_lt ((mem_left hd).2 hnew)

theorem length_left_le {visited visited' : List Text} (h : visited ⊆ visited') :
    (idx.left visited').length ≤ (idx.left visited).length := by
  refine List.Sublist.length_le (List.monotone_filter_right _ fun n hn ↦ ?_)
  simp only [decide_eq_true_eq] at hn ⊢
  exact fun hmem ↦ hn (h hmem)

/-! ## Chains of parents -/

/-- A chain of parents that goes on to nothing new is the lineage of its first type. -/
theorem lineageFrom_left {visited : List Text}
    (hdeclared : ∀ e ∈ d :: ds, idx.find? e.name = some e)
    (hnew : ∀ e ∈ d :: ds, e.name ∉ visited) (hnodup : ((d :: ds).map (·.name)).Nodup)
    (hlinked : (d :: ds).IsChain fun d e ↦ d.parent = some e.name)
    (hclosed : ∀ e ∈ d :: ds, ∀ p f, e.parent = some p → idx.find? p = some f →
      f ∈ d :: ds ∨ f.name ∈ visited) :
    idx.lineageFrom (idx.left visited) d.name = d :: ds := by
  induction ds generalizing d visited with
  | nil =>
    have hd := hdeclared d List.mem_cons_self
    rw [lineageFrom_eq_cons ((mem_left hd).2 (hnew d List.mem_cons_self)) hd, visit_left]
    cases hparent : d.parent with
    | none => rfl
    | some p =>
      rw [Option.toList_some, List.flatMap_singleton, lineageFrom_eq_nil]
      cases hfind : idx.find? p with
      | none => exact .inr rfl
      | some f =>
        obtain rfl := name_of_find? hfind
        rw [mem_left hfind, not_not, List.mem_cons]
        refine .inl ((hclosed d List.mem_cons_self f.name f hparent hfind).imp_left ?_)
        exact fun hmem ↦ congrArg (·.name) (List.mem_singleton.1 hmem)
  | cons e ds ih =>
    obtain ⟨hd, hdeclared⟩ := List.forall_mem_cons.1 hdeclared
    obtain ⟨hdnew, hnew⟩ := List.forall_mem_cons.1 hnew
    obtain ⟨hparent, hlinked⟩ := List.isChain_cons_cons.1 hlinked
    rw [List.map_cons, List.nodup_cons] at hnodup
    rw [lineageFrom_eq_cons ((mem_left hd).2 hdnew) hd, visit_left, hparent, Option.toList_some,
      List.flatMap_singleton, ih hdeclared _ hnodup.2 hlinked]
    · intro f hf p g hp hg
      rcases hclosed f (List.mem_cons_of_mem _ hf) p g hp hg with hmem | hvisited
      · rcases List.mem_cons.1 hmem with rfl | hmem
        · exact .inr List.mem_cons_self
        · exact .inl hmem
      · exact .inr (List.mem_cons_of_mem _ hvisited)
    · intro f hf hmem
      rcases List.mem_cons.1 hmem with hsame | hmem
      · exact hnodup.1 (hsame ▸ List.mem_map_of_mem hf)
      · exact hnew f hf hmem

/-- A type has one chain of parents, its lineage. -/
theorem IsParentChain.eq_lineage (h : idx.IsParentChain t chain) : chain = idx.lineage t := by
  cases chain with
  | nil => rw [lineage, lineageFrom_eq_nil (.inr h.head.symm)]
  | cons d ds =>
    have ht : d.name = t := name_of_find? h.head.symm
    have hlineage : idx.lineageFrom (idx.left []) d.name = d :: ds :=
      lineageFrom_left h.declared (by simp) h.nodup h.linked
        fun e he p f hp hf ↦ .inl (h.closed e he p f hp hf)
    rw [left_nil, ht] at hlineage
    exact hlineage.symm

/-! ## Walks -/

/-- Where a walk through interfaces stands. -/
structure Walk where
  /-- The names of the types that were visited. -/
  visited : List Text := []
  /-- The interfaces that were listed, in order. -/
  listed : List Text := []

mutual
/-- A walk goes through some types: it passes over those that were visited, and goes through the
interfaces of the others. -/
inductive WalksChain (idx : Declarations) : List TypeDeclaration → Walk → Walk → Prop where
  | nil (w : Walk) : WalksChain idx [] w w
  | pass {d : TypeDeclaration} {ds : List TypeDeclaration} {w w' : Walk}
      (hvisited : d.name ∈ w.visited) (hds : WalksChain idx ds w w') : WalksChain idx (d :: ds) w w'
  | visit {d : TypeDeclaration} {ds : List TypeDeclaration} {w w₁ w' : Walk}
      (hnew : d.name ∉ w.visited)
      (hinterfaces : WalksInterfaces idx d.interfaces ⟨d.name :: w.visited, w.listed⟩ w₁)
      (hds : WalksChain idx ds w₁ w') : WalksChain idx (d :: ds) w w'

/-- A walk goes through some interfaces: it lists each of them, unless it is listed, and then goes
through the chain of its parents. -/
inductive WalksInterfaces (idx : Declarations) : List Text → Walk → Walk → Prop where
  | nil (w : Walk) : WalksInterfaces idx [] w w
  | list {i : Text} {is : List Text} {chain : List TypeDeclaration} {w w₁ w' : Walk}
      (hchain : idx.IsParentChain i chain)
      (hi : WalksChain idx chain ⟨w.visited, list i w.listed⟩ w₁)
      (his : WalksInterfaces idx is w₁ w') : WalksInterfaces idx (i :: is) w w'
end

variable {w w' : Walk} {is : List Text}

/-! ## Walks come to an end -/

/-- A walk through interfaces comes to an end if walks through chains from there on do. -/
theorem exists_walksInterfaces
    (hchains : ∀ {ds w'}, (∀ d ∈ ds, idx.find? d.name = some d) → w.visited ⊆ w'.visited →
      ∃ w'', idx.WalksChain ds w' w'' ∧ w'.visited ⊆ w''.visited) (is : List Text) :
    ∃ w', idx.WalksInterfaces is w w' ∧ w.visited ⊆ w'.visited := by
  induction is generalizing w with
  | nil => exact ⟨w, .nil w, List.Subset.refl _⟩
  | cons i is ih =>
    have hchain := isParentChain_lineage idx i
    obtain ⟨w₁, hi, hsub⟩ := @hchains _ ⟨w.visited, list i w.listed⟩ hchain.declared
      (List.Subset.refl _)
    obtain ⟨w', his, hsub'⟩ := ih fun hds h ↦ hchains hds (List.Subset.trans hsub h)
    exact ⟨w', .list hchain hi his, List.Subset.trans hsub hsub'⟩

/-- A walk through declared types comes to an end, as there are fewer and fewer left to visit. -/
theorem exists_walksChain (hds : ∀ d ∈ ds, idx.find? d.name = some d) (w : Walk) :
    ∃ w', idx.WalksChain ds w w' ∧ w.visited ⊆ w'.visited := by
  induction hleft : (idx.left w.visited).length using Nat.strong_induction_on
    generalizing ds w with
  | _ n ihleft =>
    induction ds generalizing w with
    | nil => exact ⟨w, .nil w, List.Subset.refl _⟩
    | cons d ds ih =>
      obtain ⟨hd, hds⟩ := List.forall_mem_cons.1 hds
      by_cases hvisited : d.name ∈ w.visited
      · obtain ⟨w', hwalk, hsub⟩ := ih hds w hleft
        exact ⟨w', .pass hvisited hwalk, hsub⟩
      -- Behind a type that is visited now, fewer types are left for all that follows.
      have hfewer : ∀ {v : Walk}, d.name :: w.visited ⊆ v.visited →
          (idx.left v.visited).length < n := fun hsub ↦
        hleft ▸ (length_left_le hsub).trans_lt (length_left_lt hd hvisited)
      obtain ⟨w₁, hinterfaces, hsub⟩ :=
        exists_walksInterfaces (w := ⟨d.name :: w.visited, w.listed⟩)
          (fun hds hsub ↦ ihleft _ (hfewer hsub) hds _ rfl) d.interfaces
      obtain ⟨w', hwalk, hsub'⟩ := ihleft _ (hfewer hsub) hds w₁ rfl
      refine ⟨w', .visit hvisited hinterfaces hwalk, ?_⟩
      exact List.Subset.trans (List.subset_cons_self _ _) (List.Subset.trans hsub hsub')

/-! ## What walks list -/

mutual
/-- The tasks for some types do what a walk through them does. -/
theorem WalksChain.collect : ∀ {ds : List TypeDeclaration} {w w' : Walk},
    idx.WalksChain ds w w' → (∀ d ∈ ds, idx.find? d.name = some d) → ∀ tasks : List Task,
      idx.collect (idx.left w.visited) w.listed (ds.map .declaration ++ tasks) =
        idx.collect (idx.left w'.visited) w'.listed tasks
  | _, _, _, .nil _, _, _ => rfl
  | _, _, _, .pass hvisited hwalk, hds, tasks => by
    obtain ⟨hd, hds⟩ := List.forall_mem_cons.1 hds
    rw [List.map_cons, List.cons_append, Declarations.collect,
      dif_neg (by simpa [mem_left hd] using hvisited), hwalk.collect hds]
  | _, _, _, .visit hnew hinterfaces hwalk, hds, tasks => by
    obtain ⟨hd, hds⟩ := List.forall_mem_cons.1 hds
    rw [List.map_cons, List.cons_append, Declarations.collect, dif_pos ((mem_left hd).2 hnew),
      visit_left, hinterfaces.collect, hwalk.collect hds]

/-- The tasks for some interfaces do what a walk through them does. -/
theorem WalksInterfaces.collect : ∀ {is : List Text} {w w' : Walk},
    idx.WalksInterfaces is w w' → ∀ tasks : List Task,
      idx.collect (idx.left w.visited) w.listed (is.map .interface ++ tasks) =
        idx.collect (idx.left w'.visited) w'.listed tasks
  | _, _, _, .nil _, _ => rfl
  | _, _, _, .list hchain hi his, tasks => by
    rw [List.map_cons, List.cons_append, Declarations.collect, lineageTasks,
      ← hchain.eq_lineage, hi.collect hchain.declared, his.collect]
end

/-- No interface is listed twice. -/
theorem nodup_collect {unvisited listed : List Text} {tasks : List Task} (h : listed.Nodup) :
    (idx.collect unvisited listed tasks).Nodup := by
  fun_induction Declarations.collect idx unvisited listed tasks with
  | case1 => exact h
  | case2 unvisited listed name tasks ih =>
    refine ih ?_
    unfold Declarations.list
    split
    case isTrue => exact h
    case isFalse hname =>
      rw [← List.concat_eq_append]
      exact h.concat hname
  | case3 unvisited listed d tasks hleft ih => simpa using ih h
  | case4 unvisited listed d tasks hvisited ih => exact ih h

/-- The interfaces of a type are those that some declared type which it reaches lists, each of them
once.  They are what a walk depth first through the chain of its parents lists, and no such walk
lists anything else. -/
theorem interfaces_iff_walks (idx : Declarations) (h : Hierarchy) (t : Text) :
    ((idx.toSource h).interfaces t).Nodup ∧
    (∀ i, i ∈ (idx.toSource h).interfaces t ↔ ∃ u, idx.Reaches t u ∧ idx.Lists u i) ∧
    ∃ chain, idx.IsParentChain t chain ∧
      ∀ listed, (idx.toSource h).interfaces t = listed ↔
        ∃ visited, idx.WalksChain chain {} ⟨visited, listed⟩ := by
  refine ⟨nodup_collect List.nodup_nil, fun i ↦ mem_interfaces_iff, idx.lineage t,
    isParentChain_lineage idx t, fun listed ↦ ?_⟩
  have hdeclared := (isParentChain_lineage idx t).declared
  have hlisted : ∀ {w : Walk}, idx.WalksChain (idx.lineage t) {} w →
      (idx.toSource h).interfaces t = w.listed := by
    intro w hwalk
    have hcollect := hwalk.collect hdeclared []
    rw [List.append_nil, left_nil] at hcollect
    exact hcollect.trans (by rw [Declarations.collect])
  constructor
  · rintro rfl
    obtain ⟨w, hwalk, -⟩ := exists_walksChain hdeclared {}
    exact ⟨w.visited, (hlisted hwalk) ▸ hwalk⟩
  · rintro ⟨visited, hwalk⟩
    exact hlisted hwalk

/-- Behind an interface come its own, and behind those the ones that are listed later. -/
example : circles.interfaces "T" = ["I", "J", "T"] := by cbv

end ActorFacade.Declarations
