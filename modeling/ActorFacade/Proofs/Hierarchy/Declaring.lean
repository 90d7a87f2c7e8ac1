import ActorFacade.Proofs.Hierarchy.Lawful

/-! # Declarations make lawful classes

Whatever its bases and members are, the class that a declaration adds is lawful, and the others stay
so; hence all declared classes are lawful (`Hierarchy.IsDeclared.isLawful`).  Making instances keeps
them lawful (`Hierarchy.IsLawful.settle`).
-/

namespace ActorFacade.Hierarchy

variable {h h' : Hierarchy} {e e' : ClassEntry} {c : ClassRef} {bases lineage : List ClassRef}
  {attributes attributes' : List (Text × Attribute)}

/-! ## Bodies -/

theorem fst_wrapByName (a : Text × Attribute) : (wrapByName a).1 = a.1 := by
  unfold wrapByName
  split
  · split
    · rfl
    · split <;> rfl
  · rfl

theorem hasDistinctNames_body (qualified : Text) (members : List Member) :
    HasDistinctNames (body qualified members) := by
  refine HasDistinctNames.map ?_ fst_wrapByName
  refine HasDistinctNames.foldl members List.nodup_nil ?_
  intro attributes member hnames
  unfold addMember
  split
  case h_1 => exact hnames.set _ _
  case h_2 => exact hnames.set _ _
  case h_3 =>
    split
    · exact hnames.set _ _
    · exact hnames

/-! ## What bodies become -/

theorem hasDistinctNames_kept (hnames : HasDistinctNames attributes) (parts : List Text) :
    HasDistinctNames (kept attributes parts) :=
  (hnames.filter _).foldl parts fun _ name h ↦ h.setDefault name .part

theorem hasDistinctNames_withoutKeys (hnames : HasDistinctNames attributes) :
    HasDistinctNames (withoutKeys attributes) := by
  unfold withoutKeys
  split
  · exact hnames.setDefault _ _
  · exact hnames

theorem hasDistinctNames_withMark (bases : List ClassRef) (hnames : HasDistinctNames attributes) :
    HasDistinctNames (withMark bases attributes) := by
  unfold withMark
  split
  · exact hnames
  · exact hnames.set _ _

theorem hasDistinctNames_deriveProtocol (hnames : HasDistinctNames attributes)
    (hderive : h.deriveProtocol bases lineage attributes = .ok attributes') :
    HasDistinctNames attributes' := by
  have hmarked := (hasDistinctNames_withMark bases hnames).setDefault hookName
    (.function protocolHook)
  unfold deriveProtocol at hderive
  simp only at hderive
  split at hderive
  case isTrue =>
    cases hderive
    exact hmarked
  case isFalse =>
    obtain ⟨-, -, hderive⟩ := bind_eq_ok_iff.1 hderive
    split at hderive <;> cases hderive
    · exact hmarked
    · exact hmarked.setDefault _ _

/-- What the classes in a lineage say is to happen keeps the names distinct. -/
theorem hasDistinctNames_derive (hnames : HasDistinctNames attributes) {asked : List ClassRef}
    (hderive : h.derive bases lineage attributes asked = .ok attributes') :
    HasDistinctNames attributes' := by
  -- Only what `protocol` and `generic` say changes attributes; the others end the walk or pass on.
  fun_induction derive h bases lineage attributes asked generalizing attributes' with
  | case1 =>
    cases hderive
    exact hnames
  | case2 behind ih =>
    obtain ⟨made, hmade, hderive⟩ := bind_eq_ok_iff.1 hderive
    exact hasDistinctNames_deriveProtocol (ih hmade) hderive
  | case3 behind ih =>
    obtain ⟨made, hmade, hderive⟩ := bind_eq_ok_iff.1 hderive
    obtain ⟨-, -, hderive⟩ := bind_eq_ok_iff.1 hderive
    cases hderive
    exact (ih hmade).set _ _
  | case4 =>
    obtain ⟨-, -, rfl⟩ := map_eq_ok_iff.1 hderive
    exact hnames
  | case5 c behind _ _ hnone ih => exact ih hderive

/-- Abstract names change no class but for attributes that are left out. -/
theorem withAbstractNames_eq_ok (he : h.withAbstractNames e = .ok e') :
    ∃ p names, e' = { e with attributes := e.attributes.filter p, abstractNames := names } := by
  unfold withAbstractNames at he
  split at he
  case isTrue =>
    obtain ⟨inherited, -, he⟩ := bind_eq_ok_iff.1 he
    cases he
    exact ⟨_, _, rfl⟩
  case isFalse =>
    cases he
    exact ⟨fun _ ↦ true, e.abstractNames, by rw [List.filter_true]⟩

/-! ## Declaring -/

theorem head?_of_lineageOf (hlineage : h.lineageOf c bases = .ok lineage) :
    lineage.head? = some c := by
  unfold lineageOf at hlineage
  split at hlineage
  · cases hlineage
  · obtain ⟨rest, -, rfl⟩ := map_eq_ok_iff.1 (mapError_eq_ok_iff.1 hlineage)
    rfl

/-- The class that is made has the lineage of its bases and the attributes that are left of its
body; its abstract names come last. -/
theorem exists_of_entry (he : h.entry c bases attributes = .ok e) :
    ∃ parts e₀, h.lineageOf c bases = .ok e₀.lineage ∧
      h.derive bases e₀.lineage.tail (withoutKeys (kept attributes parts)) e₀.lineage.tail =
        .ok e₀.attributes ∧
      e₀.ref = c ∧ e₀.bases = bases ∧ e₀.abstractNames = [] ∧
      h.withAbstractNames e₀ = .ok e := by
  unfold entry at he
  obtain ⟨base, -, he⟩ := bind_eq_ok_iff.1 he
  obtain ⟨layout, -, he⟩ := bind_eq_ok_iff.1 he
  split at he
  case isTrue => cases he
  case isFalse =>
    obtain ⟨shown, -, he⟩ := bind_eq_ok_iff.1 he
    obtain ⟨-, -, he⟩ := bind_eq_ok_iff.1 he
    obtain ⟨-, -, he⟩ := bind_eq_ok_iff.1 he
    obtain ⟨lineage, hlineage, he⟩ := bind_eq_ok_iff.1 he
    obtain ⟨derived, hderive, he⟩ := bind_eq_ok_iff.1 he
    exact ⟨layout.parts, _, hlineage, hderive, rfl, rfl, rfl, he⟩

/-- The class that is made is lawful. -/
theorem isLawful_of_entry (hc : isMarker c = false) (hnames : HasDistinctNames attributes)
    (he : h.entry c bases attributes = .ok e) : e.IsLawful := by
  obtain ⟨parts, e₀, hlineage, hderive, rfl, -, -, he⟩ := exists_of_entry he
  obtain ⟨p, names, rfl⟩ := withAbstractNames_eq_ok he
  have hkept := hasDistinctNames_withoutKeys (hasDistinctNames_kept hnames parts)
  exact ⟨head?_of_lineageOf hlineage, hc, (hasDistinctNames_derive hkept hderive).filter p⟩

/-- A class that was made is an attribute of the class around it at most. -/
theorem eq_or_setAttribute_of_nest {outer : Option (ClassRef × Text)}
    (hnest : h.nest c outer = .ok h') :
    h' = h ∨ ∃ o name, h' = h.setAttribute o name (.nested c) := by
  unfold nest at hnest
  split at hnest
  case h_1 o name _ =>
    split at hnest
    · cases hnest
    · cases hnest
      exact .inr ⟨o, name, rfl⟩
  case h_2 =>
    split at hnest
    · cases hnest
    · cases hnest
      exact .inl rfl

namespace IsLawful

theorem nest (hlawful : h.IsLawful) {outer : Option (ClassRef × Text)}
    (hnest : h.nest c outer = .ok h') : h'.IsLawful := by
  rcases eq_or_setAttribute_of_nest hnest with rfl | ⟨o, name, rfl⟩
  · exact hlawful
  · exact hlawful.setAttribute o name _

variable {module qualified : Text} {members : List Member}

theorem add (hlawful : h.IsLawful) (hadd : h.add module qualified bases members = .ok h') :
    h'.IsLawful := by
  obtain ⟨e, he, hnest⟩ := bind_eq_ok_iff.1 hadd
  have hentry := isLawful_of_entry (c := .declared module qualified) rfl
    (hasDistinctNames_body qualified members) he
  exact (hlawful.append hentry).nest hnest

/-- Declaring a class keeps classes lawful. -/
theorem declare (hlawful : h.IsLawful)
    (hdeclare : h.declare module qualified bases members = .ok h') : h'.IsLawful := by
  unfold Hierarchy.declare at hdeclare
  simp only at hdeclare
  split at hdeclare
  case isTrue => exact (hlawful.rename _ rfl).add hdeclare
  case isFalse => exact hlawful.add hdeclare

end IsLawful

/-- The families of classes that declarations make. -/
inductive IsDeclared : Hierarchy → Prop where
  | empty : IsDeclared {}
  | declare {h h' : Hierarchy} {module qualified : Text} {bases : List ClassRef}
      {members : List Member} (hdeclared : IsDeclared h)
      (hnext : h.declare module qualified bases members = .ok h') : IsDeclared h'

/-- Declared classes are lawful. -/
theorem IsDeclared.isLawful (hdeclared : h.IsDeclared) : h.IsLawful := by
  induction hdeclared with
  | empty => exact .empty
  | declare _ hnext ih => exact ih.declare hnext

namespace IsLawful

/-! ## Making instances -/

theorem settleWithin (hlawful : h.IsLawful) (bound : Nat) (c : ClassRef) (given : Nat)
    (options : Entries) : (h.settleWithin bound c given options).IsLawful := by
  induction bound generalizing h c given with
  | zero => exact hlawful
  | succ bound ih =>
    unfold Hierarchy.settleWithin
    split
    case h_1 k _ => exact ih hlawful k _
    case h_2 => exact hlawful
    case h_3 =>
      have hown := hlawful.setAttribute c initName (h.ownInitialiser c)
      split
      case isTrue =>
        simp only
        split
        case h_1 k _ => exact ih hown k _
        case h_2 => exact hown
      case isFalse => exact hlawful
    case h_4 k _ _ =>
      split
      case isTrue => exact ih hlawful k _
      case isFalse => exact hlawful
    case h_5 => exact hlawful

/-- Making an instance keeps classes lawful. -/
theorem settle (hlawful : h.IsLawful) (c : ClassRef) (options : Entries) :
    (h.settle c options).IsLawful :=
  hlawful.settleWithin _ c 0 options

end IsLawful

end ActorFacade.Hierarchy
