import ActorFacade.Proofs.Source.Resolution

/-! # Resolving where an operation is declared

Everything about an operation is taken from the type that declares it.  In a coherent source this
type is found again from itself, so an operation resolves for a type as it does for the type that
declares it (`Source.IsCoherent.isAnchored`), whatever the first one has for interfaces or a parent.
Declared types and lawful classes are such sources (`Source.isAnchored_of_isLawful`).
-/

namespace ActorFacade

namespace Source

variable {ρ : Type} {s : Source ρ} {t d : ρ} {operation : Text}

/-! ## Documentation -/

/-- Where the first interface of a type with an operation has it declared. -/
def interfaceDeclaring? (s : Source ρ) (t : ρ) (operation : Text) : Option ρ :=
  ((s.interfaces t).find? (s.hasOperation · operation)).bind (s.declaring? · operation)

/-- The documentations of an operation where it is declared, in the order in which they count: the
own one, the one of its first interface with the operation, and the own one of its parent. -/
def docs (s : Source ρ) (d : ρ) (operation : Text) : List Text :=
  [d] ++ (s.interfaceDeclaring? d operation).toList ++ (s.parent? d).toList |>.map
    (s.ownDoc · operation)

theorem interfaceDoc_eq (s : Source ρ) (t : ρ) (operation : Text) :
    s.interfaceDoc t operation =
      ((s.interfaceDeclaring? t operation).map (s.ownDoc · operation)).getD [] := by
  unfold interfaceDoc interfaceDeclaring?
  cases (s.interfaces t).find? fun i ↦ s.hasOperation i operation with
  | none => rfl
  | some i =>
    dsimp only [declaredDoc, Option.bind_some]
    cases s.declaring? i operation <;> rfl

theorem parentDoc_eq (s : Source ρ) (t : ρ) (operation : Text) :
    s.parentDoc t operation = ((s.parent? t).map (s.ownDoc · operation)).getD [] := by
  unfold parentDoc
  cases s.parent? t <;> rfl

/-- A text in front of others counts unless it is missing or empty. -/
theorem find?_toList_append (doc? : Option Text) (rest : List Text) :
    ((doc?.toList ++ rest).find? (!·.isEmpty)).getD [] =
      if doc?.getD [] = [] then (rest.find? (!·.isEmpty)).getD [] else doc?.getD [] := by
  rcases doc? with _ | _ | ⟨c, doc⟩ <;> rfl

/-- The first documentation that is not empty counts. -/
theorem docOf_eq (s : Source ρ) (d : ρ) (operation : Text) :
    s.docOf d operation = ((s.docs d operation).find? (!·.isEmpty)).getD [] := by
  have hparent := find?_toList_append ((s.parent? d).map (s.ownDoc · operation)) []
  rw [List.append_nil, ← parentDoc_eq] at hparent
  have hcounts : (if s.parentDoc d operation = [] then [] else s.parentDoc d operation) =
      s.parentDoc d operation := ite_eq_right_iff.2 Eq.symm
  rw [docs, List.append_assoc, List.map_append, List.map_append, List.map_singleton,
    ← Option.toList_map, ← Option.toList_map, ← Option.toList_some, find?_toList_append,
    find?_toList_append, ← interfaceDoc_eq, hparent, List.find?_nil, Option.getD_none, hcounts,
    Option.getD_some]
  unfold docOf
  cases s.ownDoc d operation with
  | cons => rfl
  | nil => cases s.interfaceDoc d operation <;> rfl

/-! ## Anchored sources -/

/-- All about an operation of a type is what it is where the operation is declared. -/
structure IsAnchored (s : Source ρ) : Prop where
  /-- The declaring type declares the operation for itself. -/
  again : ∀ {t operation d}, s.declaring t operation = .ok d → s.declaring d operation = .ok d
  /-- An operation resolves as it does for the declaring type; without one it fails alike. -/
  anchor : ∀ t operation,
    s.resolve t operation = s.declaring t operation >>= fun d ↦ s.resolve d operation
  /-- Types with the same declaring type share parameters and documentation. -/
  shared : ∀ {t t' operation d}, s.declaring t operation = .ok d →
    s.declaring t' operation = .ok d → ∃ m, s.resolve t operation = .ok m ∧
      s.resolve t' operation = .ok m ∧ s.parameters t operation = .ok m.parameters ∧
      s.parameters t' operation = .ok m.parameters
  /-- The first documentation of the declaring type that is not empty counts. -/
  doc : ∀ {t operation m}, s.resolve t operation = .ok m →
    s.declaring t operation = .ok m.declaring ∧
      m.doc = ((s.docs m.declaring operation).find? (!·.isEmpty)).getD []

namespace IsCoherent

/-- The declaring type has the parameters. -/
theorem parameters_of_declaring (hs : s.IsCoherent) (hd : s.declaring t operation = .ok d) :
    s.parameters t operation = s.parameters d operation := by
  have hagain := s.declaring_eq_ok_iff.2 (hs.again (s.declaring_eq_ok_iff.1 hd))
  unfold parameters
  rw [hd, hagain]

/-- An operation resolves for a type as it does for the one that declares it. -/
theorem resolve_of_declaring (hs : s.IsCoherent) (hd : s.declaring t operation = .ok d) :
    s.resolve t operation = s.resolve d operation := by
  have hagain := s.declaring_eq_ok_iff.2 (hs.again (s.declaring_eq_ok_iff.1 hd))
  unfold resolve
  rw [hd, hagain]

/-- An operation that is declared resolves, with the parameters of the type. -/
theorem exists_resolve_of_declaring (hs : s.IsCoherent) (hd : s.declaring t operation = .ok d) :
    ∃ ps, s.parameters t operation = .ok ps ∧
      s.resolve t operation = .ok ⟨operation, d, s.typeName d, ps, s.docOf d operation⟩ := by
  obtain ⟨ps, hps⟩ := hs.exists_parameters (s.declaring_eq_ok_iff.1 hd)
  refine ⟨ps, hps, bind_eq_ok_iff.2 ⟨d, hd, bind_eq_ok_iff.2 ⟨ps, ?_, rfl⟩⟩⟩
  rw [← hs.parameters_of_declaring hd, hps]

theorem isAnchored (hs : s.IsCoherent) : s.IsAnchored where
  again hd := s.declaring_eq_ok_iff.2 (hs.again (s.declaring_eq_ok_iff.1 hd))
  anchor t operation := by
    cases hd : s.declaring t operation with
    | ok d => exact hs.resolve_of_declaring hd
    | error e =>
      unfold resolve
      rw [hd]
      rfl
  shared hd hd' := by
    obtain ⟨ps, hps, hm⟩ := hs.exists_resolve_of_declaring hd
    refine ⟨_, hm, ?_, hps, ?_⟩
    · rw [hs.resolve_of_declaring hd', ← hs.resolve_of_declaring hd, hm]
    · rw [hs.parameters_of_declaring hd', ← hs.parameters_of_declaring hd, hps]
  doc hm := by
    obtain ⟨d, hd, -⟩ := bind_eq_ok_iff.1 hm
    obtain ⟨ps, -, hm'⟩ := hs.exists_resolve_of_declaring hd
    cases hm.symm.trans hm'
    exact ⟨hd, s.docOf_eq d _⟩

end IsCoherent

end Source

/-- Operations of declared types, and of lawful classes, resolve where they are declared. -/
theorem Source.isAnchored_of_isLawful :
    (∀ (idx : Declarations) (h : Hierarchy), (idx.toSource h).IsAnchored) ∧
      ∀ h : Hierarchy, h.IsLawful → h.toSource.IsAnchored :=
  ⟨fun idx h ↦ (idx.isCoherent h).isAnchored, fun _ hlawful ↦ hlawful.isCoherent.isAnchored⟩

namespace Hierarchy

/-- A class with a function that is not documented. -/
def openerClass : ClassRef := .declared "m" "Opener"

/-- A class that describes the function. -/
def describingClass : ClassRef := .declared "m" "Describing"

/-- A class that derives from the first one only. -/
def quietClass : ClassRef := .declared "m" "Quiet"

/-- A class that derives from both. -/
def describedClass : ClassRef := .declared "m" "Described"

/-- The four classes, as they are declared. -/
def openers : Except DeclarationError Hierarchy := do
  let h ← declare {} "m" "Opener" [] [.function .plain "open" [{ name := "self" }] none false]
  let h ← h.declare "m" "Describing" [.abstractBase]
    [.function .plain "open" [{ name := "self" }] (some "Opens.") true]
  let h ← h.declare "m" "Quiet" [openerClass] []
  h.declare "m" "Described" [openerClass, describingClass] []

end Hierarchy

/-- Two classes have their function from a third one.  The interface that one of them has does not
document it. -/
theorem Source.isAnchored_of_isLawful_openers : ∃ h, Hierarchy.openers = .ok h ∧ h.IsLawful ∧
    h.toSource.interfaces Hierarchy.describedClass = [Hierarchy.describingClass] ∧
    h.toSource.ownDoc Hierarchy.describingClass "open" = Text.ofString "Opens." ∧
    ∃ m, h.toSource.resolve Hierarchy.quietClass "open" = .ok m ∧
      h.toSource.resolve Hierarchy.describedClass "open" = .ok m ∧
      m.declaring = Hierarchy.openerClass ∧ m.doc = [] := by
  have hany : Hierarchy.openers.toOption.any (fun h ↦ decide (h.IsLawful ∧
      h.toSource.interfaces Hierarchy.describedClass = [Hierarchy.describingClass] ∧
      h.toSource.ownDoc Hierarchy.describingClass "open" = Text.ofString "Opens." ∧
      h.declaring? Hierarchy.quietClass "open" = some Hierarchy.openerClass ∧
      h.declaring? Hierarchy.describedClass "open" = some Hierarchy.openerClass ∧
      h.toSource.docs Hierarchy.openerClass "open" = [[]])) = true := by
    decide +kernel
  obtain ⟨h, hok, hall⟩ := (Option.any_eq_true _ _).1 hany
  obtain ⟨hlawful, hinterfaces, hown, hquiet, hdescribed, hdocs⟩ := of_decide_eq_true hall
  have hquiet := Hierarchy.declaring_eq_ok_iff.2 hquiet
  have hanchored := isAnchored_of_isLawful.2 h hlawful
  obtain ⟨m, hm, hm', -⟩ :=
    hanchored.shared hquiet (Hierarchy.declaring_eq_ok_iff.2 hdescribed)
  obtain ⟨hd, hdoc⟩ := hanchored.doc hm
  have hopener : m.declaring = Hierarchy.openerClass := Except.ok.inj (hd.symm.trans hquiet)
  rw [hopener, hdocs] at hdoc
  exact ⟨h, toOption_eq_some_iff.1 hok, hlawful, hinterfaces, hown, m, hm, hm', hopener, hdoc⟩

end ActorFacade
