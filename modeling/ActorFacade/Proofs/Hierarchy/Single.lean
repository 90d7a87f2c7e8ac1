import ActorFacade.Proofs.Hierarchy.Declaring

/-! # Classes with one base

A family in which every class has one base, `object` or an earlier class of the family, is one of
chains (`Hierarchy.IsSingle.isChained`): the lineage of a class is the class itself and the lineage
of its base, whatever members the classes have.  None of them has abstract names, so it is an
interface only where it is taken for a protocol (`Hierarchy.IsChained.isInterface_eq`).
-/

namespace ActorFacade

/-! ## Merging a chain -/

namespace Linear

variable {α : Type} [DecidableEq α]

/-- An item that no list has behind its head is taken where it is the first head. -/
theorem merge_of_next? {lists : List (List α)} {x : α} (h : next? lists = some x) :
    merge lists = (merge (dropHeads x lists)).map (x :: ·) := by
  have hsize : size lists ≠ 0 := by
    have := size_dropHead_lt (List.mem_of_find?_eq_some h)
    omega
  rw [merge, if_neg hsize]
  split
  case h_1 hnone => cases hnone.symm.trans h
  case h_2 y hy =>
    cases hy.symm.trans h
    rfl

theorem merge_nodup {l : List α} (h : l.Nodup) : merge [l, []] = .ok l := by
  induction l with
  | nil => simp [merge, size]
  | cons x l ih =>
    obtain ⟨hx, hl⟩ := List.nodup_cons.1 h
    have hnext : next? [x :: l, []] = some x := by simp [next?, isBehind, hx]
    have hdrop : dropHeads x [x :: l, []] = [l, []] := by simp [dropHeads, dropHead]
    rw [merge_of_next? hnext, hdrop, ih hl]
    rfl

/-- A chain merged with its head is the chain. -/
theorem merge_head {x : α} {l : List α} (h : (x :: l).Nodup) :
    merge [x :: l, [x]] = .ok (x :: l) := by
  obtain ⟨hx, hl⟩ := List.nodup_cons.1 h
  have hnext : next? [x :: l, [x]] = some x := by simp [next?, isBehind, hx]
  have hdrop : dropHeads x [x :: l, [x]] = [l, []] := by simp [dropHeads, dropHead]
  rw [merge_of_next? hnext, hdrop, merge_nodup hl]
  rfl

end Linear

namespace Hierarchy

variable {h h' : Hierarchy} {b c k : ClassRef} {e : ClassEntry}

/-! ## Families of chains -/

/-- Every class of a family continues the lineage of its only base, and has no abstract names. -/
structure IsChained (h : Hierarchy) : Prop where
  place : ∀ {c}, h.contains c = true → ∃ module qualified, c = .declared module qualified
  base : ∀ {c}, h.contains c = true → ∃ b, (b = .object ∨ h.contains b = true) ∧
    (h.get c).bases = [b] ∧ h.lineage c = c :: h.lineage b
  nodup : ∀ {c}, h.contains c = true → (h.lineage c).Nodup
  within : ∀ {c k}, h.contains c = true → k ∈ h.lineage c → k = .object ∨ h.contains k = true
  concrete : ∀ {c}, h.contains c = true → (h.get c).abstractNames = []

theorem contains_append (h : Hierarchy) (e : ClassEntry) (k : ClassRef) :
    (⟨h.classes ++ [e]⟩ : Hierarchy).contains k = (h.contains k || e.ref == k) := by
  simp [contains]

theorem get_append_of_ne (hk : e.ref ≠ k) :
    (⟨h.classes ++ [e]⟩ : Hierarchy).get k = h.get k := by
  simp [get, List.find?_append, hk]

theorem get_append_self (hnew : h.contains e.ref = false) :
    (⟨h.classes ++ [e]⟩ : Hierarchy).get e.ref = e := by
  have hnone : (h.classes.find? fun e' ↦ e'.ref == e.ref) = none := by
    simpa [contains] using hnew
  simp [get, List.find?_append, hnone]

theorem contains_setAttribute (h : Hierarchy) (o : ClassRef) (name : Text) (a : Attribute)
    (k : ClassRef) : (h.setAttribute o name a).contains k = h.contains k := by
  unfold contains setAttribute
  rw [List.any_map]
  refine List.any_congr rfl fun e ↦ ?_
  dsimp only [Function.comp]
  split <;> rfl

/-- An attribute that is set changes a class in its attributes only. -/
theorem get_setAttribute (h : Hierarchy) (o : ClassRef) (name : Text) (a : Attribute)
    (k : ClassRef) : (h.setAttribute o name a).get k = h.get k ∨
      (h.setAttribute o name a).get k = (h.get k).withAttribute name a := by
  have hfind : ∀ f : ClassEntry → ClassEntry, (∀ e, (f e).ref = e.ref) →
      (h.classes.map f).find? (fun e ↦ e.ref == k) =
        (h.classes.find? fun e ↦ e.ref == k).map f := by
    intro f hf
    simp only [List.find?_map, Function.comp_def, hf]
  unfold get setAttribute
  rw [hfind _ fun e ↦ by split <;> rfl]
  cases h.classes.find? fun e ↦ e.ref == k with
  | none => exact .inl rfl
  | some e =>
    rw [Option.map_some, Option.getD_some, Option.getD_some]
    split
    · exact .inr rfl
    · exact .inl rfl

/-- A declaration with a new name adds its class, which is an attribute of another one at most. -/
theorem exists_of_declare {module qualified : Text} {bases : List ClassRef} {members : List Member}
    (hnew : h.contains (.declared module qualified) = false)
    (hdeclare : h.declare module qualified bases members = .ok h') :
    ∃ e, h.entry (.declared module qualified) (basesOr bases) (body qualified members) = .ok e ∧
      (h' = ⟨h.classes ++ [e]⟩ ∨
        ∃ o name, h' = setAttribute ⟨h.classes ++ [e]⟩ o name
          (.nested (.declared module qualified))) := by
  unfold Hierarchy.declare at hdeclare
  dsimp only at hdeclare
  rw [hnew, if_neg Bool.false_ne_true] at hdeclare
  obtain ⟨e, he, hnest⟩ := bind_eq_ok_iff.1 hdeclare
  exact ⟨e, he, eq_or_setAttribute_of_nest hnest⟩

/-- The classes are the earlier ones and the declared one. -/
theorem contains_of_declare {module qualified : Text} {bases : List ClassRef}
    {members : List Member} (hnew : h.contains (.declared module qualified) = false)
    (hdeclare : h.declare module qualified bases members = .ok h') (k : ClassRef) :
    h'.contains k = (h.contains k || .declared module qualified == k) := by
  obtain ⟨e, he, hnext⟩ := exists_of_declare hnew hdeclare
  obtain ⟨-, e₀, -, -, href, -, -, he⟩ := exists_of_entry he
  obtain ⟨p, names, rfl⟩ := withAbstractNames_eq_ok he
  rcases hnext with rfl | ⟨o, name, rfl⟩
  · rw [contains_append, href]
  · rw [contains_setAttribute, contains_append, href]

namespace IsChained

theorem empty : IsChained {} where
  place := nofun
  base := nofun
  nodup := nofun
  within := nofun
  concrete := nofun

/-- What is only said about other things than attributes stays when an attribute is set. -/
theorem setAttribute (hchained : h.IsChained) (o : ClassRef) (name : Text) (a : Attribute) :
    (h.setAttribute o name a).IsChained := by
  have hkeep : ∀ k, ((h.setAttribute o name a).get k).bases = (h.get k).bases ∧
      ((h.setAttribute o name a).get k).lineage = (h.get k).lineage ∧
      ((h.setAttribute o name a).get k).abstractNames = (h.get k).abstractNames := by
    intro k
    rcases h.get_setAttribute o name a k with hk | hk
    · rw [hk]
      exact ⟨rfl, rfl, rfl⟩
    · rw [hk]
      exact ⟨rfl, rfl, rfl⟩
  constructor <;> simp only [lineage, hkeep, contains_setAttribute]
  · exact hchained.place
  · exact hchained.base
  · exact hchained.nodup
  · exact hchained.within
  · exact hchained.concrete

theorem not_contains_object (hchained : h.IsChained) : h.contains .object = false := by
  refine Bool.eq_false_iff.2 fun hobject ↦ ?_
  obtain ⟨module, qualified, hplace⟩ := hchained.place hobject
  cases hplace

theorem get_object (hchained : h.IsChained) : h.get .object = .standard .object := by
  have hnone : (h.classes.find? fun e ↦ e.ref == ClassRef.object) = none := by
    simpa [contains] using hchained.not_contains_object
  rw [get, hnone]
  rfl

theorem lineage_object (hchained : h.IsChained) : h.lineage .object = [.object] := by
  rw [lineage, hchained.get_object]
  rfl

/-- The lineage of a class or of `object`. -/
theorem lineage_spec (hchained : h.IsChained) (hb : b = .object ∨ h.contains b = true) :
    (h.lineage b).Nodup ∧ ∀ k ∈ h.lineage b, k = .object ∨ h.contains k = true := by
  rcases hb with rfl | hb
  · rw [hchained.lineage_object]
    exact ⟨List.nodup_singleton _, fun k hk ↦ .inl (List.mem_singleton.1 hk)⟩
  · exact ⟨hchained.nodup hb, fun k hk ↦ hchained.within hb hk⟩

/-- A class with a new name whose base is there continues a chain. -/
theorem append (hchained : h.IsChained) {module qualified : Text}
    (href : e.ref = .declared module qualified) (hnew : h.contains e.ref = false)
    (hb : b = .object ∨ h.contains b = true) (hbases : e.bases = [b])
    (hlineage : e.lineage = e.ref :: h.lineage b) (hnames : e.abstractNames = []) :
    IsChained ⟨h.classes ++ [e]⟩ := by
  -- The new class is none of those that others refer to, so nothing changes for these.
  have hother : ∀ {k}, k = .object ∨ h.contains k = true → e.ref ≠ k := by
    rintro k (rfl | hk) heq
    · cases href.symm.trans heq
    · rw [heq, hk] at hnew
      cases hnew
  have hget : ∀ {k}, k = .object ∨ h.contains k = true →
      (⟨h.classes ++ [e]⟩ : Hierarchy).get k = h.get k := fun hk ↦ get_append_of_ne (hother hk)
  have hkeep : ∀ {k}, k = .object ∨ h.contains k = true →
      (⟨h.classes ++ [e]⟩ : Hierarchy).lineage k = h.lineage k :=
    fun hk ↦ congrArg ClassEntry.lineage (hget hk)
  have hself := get_append_self hnew
  have hlineage' : (⟨h.classes ++ [e]⟩ : Hierarchy).lineage e.ref = e.ref :: h.lineage b :=
    (congrArg ClassEntry.lineage hself).trans hlineage
  have hmem : ∀ {k}, k = .object ∨ h.contains k = true →
      k = .object ∨ (⟨h.classes ++ [e]⟩ : Hierarchy).contains k = true :=
    fun hk ↦ hk.imp_right fun hk ↦ by rw [contains_append, hk, Bool.true_or]
  have hcases : ∀ {k}, (⟨h.classes ++ [e]⟩ : Hierarchy).contains k = true →
      h.contains k = true ∨ e.ref = k := by
    intro k hk
    rwa [contains_append, Bool.or_eq_true, beq_iff_eq] at hk
  obtain ⟨hnodup, hwithin⟩ := hchained.lineage_spec hb
  constructor
  case place =>
    intro c hc
    rcases hcases hc with hc | rfl
    · exact hchained.place hc
    · exact ⟨module, qualified, href⟩
  case base =>
    intro c hc
    rcases hcases hc with hc | rfl
    · obtain ⟨b', hb', hbases', hlineage'⟩ := hchained.base hc
      exact ⟨b', hmem hb', by rw [hget (.inr hc), hbases'],
        by rw [hkeep (.inr hc), hkeep hb', hlineage']⟩
    · exact ⟨b, hmem hb, by rw [hself, hbases], by rw [hlineage', hkeep hb]⟩
  case nodup =>
    intro c hc
    rcases hcases hc with hc | rfl
    · rw [hkeep (.inr hc)]
      exact hchained.nodup hc
    · rw [hlineage']
      exact List.nodup_cons.2 ⟨fun hmem ↦ hother (hwithin _ hmem) rfl, hnodup⟩
  case within =>
    intro c k hc hk
    rcases hcases hc with hc | rfl
    · rw [hkeep (.inr hc)] at hk
      exact hmem (hchained.within hc hk)
    · rw [hlineage'] at hk
      rcases List.mem_cons.1 hk with rfl | hk
      · exact .inr hc
      · exact hmem (hwithin k hk)
  case concrete =>
    intro c hc
    rcases hcases hc with hc | rfl
    · rw [hget (.inr hc), hchained.concrete hc]
    · rw [hself, hnames]

/-- The lineage that a class with one base gets. -/
theorem lineageOf_single (hchained : h.IsChained) (hb : b = .object ∨ h.contains b = true)
    {lineage : List ClassRef} (hlineage : h.lineageOf c [b] = .ok lineage) :
    lineage = c :: h.lineage b := by
  have hhead : ∃ behind, h.lineage b = b :: behind := by
    rcases hb with rfl | hb
    · exact ⟨[], hchained.lineage_object⟩
    · obtain ⟨_, -, -, hcons⟩ := hchained.base hb
      exact ⟨_, hcons⟩
  obtain ⟨behind, hcons⟩ := hhead
  have hnodup := (hchained.lineage_spec hb).1
  have hmerge : Linear.merge ([b].map h.lineage ++ [[b]]) = .ok (h.lineage b) := by
    rw [hcons] at hnodup
    rw [List.map_singleton, List.singleton_append, hcons]
    exact Linear.merge_head hnodup
  unfold lineageOf at hlineage
  rw [hmerge] at hlineage
  exact (Except.ok.inj hlineage).symm

/-- No lineage is that of a class with abstract names. -/
theorem hasAbstractNames_lineage (hchained : h.IsChained)
    (hb : b = .object ∨ h.contains b = true) (module qualified : Text) :
    hasAbstractNames (.declared module qualified :: h.lineage b) = false := by
  have hnot : ∀ k ∈ h.lineage b, k ≠ .abstractBase ∧ k ≠ .protocol := by
    intro k hk
    rcases (hchained.lineage_spec hb).2 k hk with rfl | hk
    · exact ⟨nofun, nofun⟩
    · obtain ⟨_, _, rfl⟩ := hchained.place hk
      exact ⟨nofun, nofun⟩
  simp only [hasAbstractNames, List.contains_eq_mem, Bool.or_eq_false_iff,
    decide_eq_false_iff_not, List.mem_cons, not_or]
  exact ⟨⟨nofun, fun hmem ↦ (hnot _ hmem).1 rfl⟩, nofun, fun hmem ↦ (hnot _ hmem).2 rfl⟩

/-- Declaring a class with one base keeps the family one of chains. -/
theorem declare (hchained : h.IsChained) {module qualified : Text} {bases : List ClassRef}
    {members : List Member} (hnew : h.contains (.declared module qualified) = false)
    (hbases : basesOr bases = [b]) (hb : b = .object ∨ h.contains b = true)
    (hdeclare : h.declare module qualified bases members = .ok h') : h'.IsChained := by
  obtain ⟨e', he, hnext⟩ := exists_of_declare hnew hdeclare
  rw [hbases] at he
  obtain ⟨parts, e, hlineage, -, href, hbases', hnames, he⟩ := exists_of_entry he
  have hlineage' := hchained.lineageOf_single hb hlineage
  rw [withAbstractNames, hlineage', hchained.hasAbstractNames_lineage hb,
    if_neg Bool.false_ne_true] at he
  cases he
  have happend := hchained.append href (href ▸ hnew) hb hbases' (href ▸ hlineage') hnames
  rcases hnext with rfl | ⟨o, name, rfl⟩
  · exact happend
  · exact happend.setAttribute o name _

end IsChained

/-- The families in which every class has one base, `object` or an earlier class. -/
inductive IsSingle : Hierarchy → Prop where
  | empty : IsSingle {}
  | declare {h h' : Hierarchy} {module qualified : Text} {bases : List ClassRef}
      {members : List Member} {b : ClassRef} (hsingle : IsSingle h)
      (hnew : h.contains (.declared module qualified) = false) (hbases : basesOr bases = [b])
      (hb : b = .object ∨ h.contains b = true)
      (hnext : h.declare module qualified bases members = .ok h') : IsSingle h'

theorem IsSingle.isDeclared (hsingle : h.IsSingle) : h.IsDeclared := by
  induction hsingle with
  | empty => exact .empty
  | declare _ _ _ _ hnext ih => exact .declare ih hnext

theorem IsSingle.isLawful (hsingle : h.IsSingle) : h.IsLawful := hsingle.isDeclared.isLawful

/-- A family of classes with one base each is one of chains. -/
theorem IsSingle.isChained (hsingle : h.IsSingle) : h.IsChained := by
  induction hsingle with
  | empty => exact .empty
  | declare _ hnew hbases hb hnext ih => exact ih.declare hnew hbases hb hnext

namespace IsChained

/-! ## Chains -/

/-- What goes from the base of a class over to the class holds for every class. -/
theorem induction (hchained : h.IsChained) {motive : ClassRef → Prop}
    (step : ∀ c b, h.contains c = true → (b = .object ∨ h.contains b = true ∧ motive b) →
      (h.get c).bases = [b] → h.lineage c = c :: h.lineage b → motive c) :
    ∀ c, h.contains c = true → motive c := by
  suffices ∀ n c, (h.lineage c).length = n → h.contains c = true → motive c from
    fun c ↦ this _ c rfl
  intro n
  induction n using Nat.strongRecOn with
  | ind n ih =>
    intro c hn hc
    obtain ⟨b, hb, hbases, hlineage⟩ := hchained.base hc
    refine step c b hc (hb.imp_right fun hb ↦ ⟨hb, ih _ ?_ b rfl hb⟩) hbases hlineage
    rw [← hn, hlineage, List.length_cons]
    exact Nat.lt_succ_self _

/-- A class of the family is no mark. -/
theorem isMarker_of_contains (hchained : h.IsChained) (hc : h.contains c = true) :
    isMarker c = false := by
  obtain ⟨module, qualified, rfl⟩ := hchained.place hc
  rfl

/-- What is behind a class of a lineage is behind the first class of the lineage too. -/
theorem lineage_subset (hchained : h.IsChained) (hc : h.contains c = true) :
    ∀ d ∈ h.lineage c, h.contains d = true → (h.lineage d).tail ⊆ (h.lineage c).tail := by
  refine hchained.induction (motive := fun c ↦ ∀ d ∈ h.lineage c, h.contains d = true →
    (h.lineage d).tail ⊆ (h.lineage c).tail) ?_ c hc
  intro c b hc hb _ hlineage d hd hcontains
  rw [hlineage] at hd ⊢
  rcases List.mem_cons.1 hd with rfl | hd
  · rw [hlineage]
    exact List.Subset.refl _
  · rcases hb with rfl | ⟨hb, ih⟩
    · rw [hchained.lineage_object, List.mem_singleton] at hd
      rw [hd, hchained.not_contains_object] at hcontains
      cases hcontains
    · exact fun k hk ↦ List.mem_of_mem_tail (ih d hd hcontains hk)

/-! ## Interfaces -/

/-- A class is an interface only where it is taken for a protocol. -/
theorem isInterface_eq (hchained : h.IsChained) (hc : h.contains c = true) :
    h.isInterface c = (h.isProtocol c && !h.isOfProtocols c) := by
  rw [isInterface, hchained.isMarker_of_contains hc, hchained.concrete hc]
  cases h.isProtocol c <;> rfl

end IsChained

end Hierarchy

end ActorFacade
