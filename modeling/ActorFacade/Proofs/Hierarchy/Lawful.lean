import ActorFacade.Hierarchy.Declaring
import ActorFacade.Proofs.Except
import ActorFacade.Proofs.FirstPlaces

/-! # Lawful classes

A class is the first one of its lineage, is no mark, and has one attribute of a name.  All classes
are like this (`Hierarchy.IsLawful`): a declaration makes such classes only, whatever bases and
members it has (`Hierarchy.IsLawful.declare`), and making instances keeps them so
(`Hierarchy.IsLawful.settle`).
-/

namespace ActorFacade

/-! ## Attributes of different names -/

/-- No two attributes have one name. -/
def HasDistinctNames (attributes : List (Text × Attribute)) : Prop :=
  (attributes.map (·.1)).Nodup

instance : DecidablePred HasDistinctNames := fun attributes ↦
  inferInstanceAs (Decidable (attributes.map (·.1)).Nodup)

namespace HasDistinctNames

variable {attributes : List (Text × Attribute)}

theorem filter (h : HasDistinctNames attributes) (p : Text × Attribute → Bool) :
    HasDistinctNames (attributes.filter p) :=
  h.sublist (List.filter_sublist.map _)

/-- Attributes that change keep their names. -/
theorem map (h : HasDistinctNames attributes) {f : Text × Attribute → Text × Attribute}
    (hf : ∀ a, (f a).1 = a.1) : HasDistinctNames (attributes.map f) := by
  have hnames : (attributes.map f).map (·.1) = attributes.map (·.1) := by
    rw [List.map_map]
    exact List.map_congr_left fun a _ ↦ hf a
  unfold HasDistinctNames
  rwa [hnames]

theorem setDefault (h : HasDistinctNames attributes) (name : Text) (a : Attribute) :
    HasDistinctNames (Hierarchy.setDefault name a attributes) := by
  unfold Hierarchy.setDefault
  split
  case isTrue => exact h
  case isFalse hnone =>
    refine nodup_map_append_single h ?_
    intro hmem
    obtain ⟨b, hb, hname⟩ := List.mem_map.1 hmem
    exact hnone (List.any_eq_true.2 ⟨b, hb, beq_iff_eq.2 hname⟩)

theorem foldl {α : Type} {f : List (Text × Attribute) → α → List (Text × Attribute)} (xs : List α)
    (h : HasDistinctNames attributes)
    (hf : ∀ attributes x, HasDistinctNames attributes → HasDistinctNames (f attributes x)) :
    HasDistinctNames (xs.foldl f attributes) := by
  induction xs generalizing attributes with
  | nil => exact h
  | cons x xs ih => exact ih (hf _ x h)

end HasDistinctNames

/-- Setting an attribute adds its name at most. -/
theorem Attribute.map_fst_set (name : Text) (a : Attribute) (attributes : List (Text × Attribute)) :
    (Attribute.set name a attributes).map (·.1) =
      if name ∈ attributes.map (·.1) then attributes.map (·.1)
      else attributes.map (·.1) ++ [name] := by
  induction attributes with
  | nil => rfl
  | cons b rest ih =>
    rw [Attribute.set]
    by_cases hb : b.1 = name
    · simp [hb]
    · rw [if_neg hb, List.map_cons, ih]
      by_cases hrest : name ∈ rest.map (·.1)
      · simp [hrest]
      · rw [if_neg hrest, if_neg (by simpa [Ne.symm hb] using hrest)]
        rfl

theorem HasDistinctNames.set {attributes : List (Text × Attribute)}
    (h : HasDistinctNames attributes) (name : Text) (a : Attribute) :
    HasDistinctNames (Attribute.set name a attributes) := by
  unfold HasDistinctNames
  rw [Attribute.map_fst_set]
  split
  case isTrue => exact h
  case isFalse hname =>
    rw [← List.concat_eq_append]
    exact h.concat hname

/-! ## Classes -/

namespace ClassEntry

/-- A class is the first one of its lineage, no mark, and has one attribute of a name. -/
structure IsLawful (e : ClassEntry) : Prop where
  head : e.lineage.head? = some e.ref
  unmarked : Hierarchy.isMarker e.ref = false
  names : HasDistinctNames e.attributes

instance : DecidablePred IsLawful := fun e ↦
  decidable_of_iff (e.lineage.head? = some e.ref ∧ Hierarchy.isMarker e.ref = false ∧
    HasDistinctNames e.attributes)
    ⟨fun ⟨head, unmarked, names⟩ ↦ ⟨head, unmarked, names⟩,
      fun ⟨head, unmarked, names⟩ ↦ ⟨head, unmarked, names⟩⟩

variable {e : ClassEntry} {name : Text}

/-- The attribute of a name is the only one with it. -/
theorem attribute?_eq_some_iff (h : HasDistinctNames e.attributes) {a : Attribute} :
    e.attribute? name = some a ↔ (name, a) ∈ e.attributes := by
  simp only [attribute?, Option.map_eq_some_iff, find?_fst_eq_some_iff h]
  constructor
  · rintro ⟨b, ⟨hb, rfl⟩, rfl⟩
    exact hb
  · intro ha
    exact ⟨(name, a), ⟨ha, rfl⟩, rfl⟩

/-- The names of the plain functions are those under which one is found. -/
theorem mem_functionNames_iff (h : HasDistinctNames e.attributes) :
    name ∈ e.functionNames ↔ (e.function? name).isSome = true := by
  rw [functionNames, List.mem_filterMap, function?, Option.isSome_bind]
  simp only [Option.map_eq_some_iff, Option.any_eq_true, attribute?_eq_some_iff h,
    Option.isSome_iff_exists]
  constructor
  · rintro ⟨⟨n, a⟩, ha, f, hf, rfl⟩
    exact ⟨a, ha, f, hf⟩
  · rintro ⟨a, ha, f, hf⟩
    exact ⟨(name, a), ha, f, hf, rfl⟩

/-! ## Standard classes -/

theorem head?_standard (c : ClassRef) : (standard c).lineage.head? = some c := by
  cases c <;> rfl

theorem names_standard (c : ClassRef) : HasDistinctNames (standard c).attributes := by
  unfold HasDistinctNames standard standardAttributes
  split <;> simp

end ClassEntry

namespace Hierarchy

/-- All classes are lawful. -/
def IsLawful (h : Hierarchy) : Prop := ∀ e ∈ h.classes, e.IsLawful

instance : DecidablePred IsLawful := fun h ↦
  inferInstanceAs (Decidable (∀ e ∈ h.classes, e.IsLawful))

variable {h : Hierarchy}

/-- A class is one of the family or a standard one. -/
theorem get_eq_or (h : Hierarchy) (c : ClassRef) :
    (h.get c ∈ h.classes ∧ (h.get c).ref = c) ∨ h.get c = .standard c := by
  unfold get
  cases hfind : h.classes.find? fun e ↦ e.ref == c with
  | none => exact .inr rfl
  | some e =>
    exact .inl ⟨List.mem_of_find?_eq_some hfind, by simpa using List.find?_some hfind⟩

namespace IsLawful

/-- A class is the first one of its lineage. -/
theorem head?_lineage (hlawful : h.IsLawful) (c : ClassRef) : (h.lineage c).head? = some c := by
  rcases h.get_eq_or c with ⟨hmem, hc⟩ | hc
  · rw [lineage, (hlawful _ hmem).head, hc]
  · rw [lineage, hc, ClassEntry.head?_standard]

theorem mem_lineage (hlawful : h.IsLawful) (c : ClassRef) : c ∈ h.lineage c :=
  List.mem_of_head? (hlawful.head?_lineage c)

theorem names_get (hlawful : h.IsLawful) (c : ClassRef) :
    HasDistinctNames (h.get c).attributes := by
  rcases h.get_eq_or c with ⟨hmem, -⟩ | hc
  · exact (hlawful _ hmem).names
  · rw [hc]
    exact ClassEntry.names_standard c

/-- Marks have no attributes. -/
theorem attributes_of_isMarker (hlawful : h.IsLawful) {c : ClassRef} (hc : isMarker c = true) :
    (h.get c).attributes = [] := by
  rcases h.get_eq_or c with ⟨hmem, href⟩ | hstandard
  · have hunmarked := (hlawful _ hmem).unmarked
    rw [href, hc] at hunmarked
    cases hunmarked
  · rw [hstandard]
    cases c <;> first | rfl | cases hc

/-! ## Changing classes -/

theorem empty : IsLawful {} := List.forall_mem_nil _

theorem append {e : ClassEntry} (hlawful : h.IsLawful) (he : e.IsLawful) :
    IsLawful ⟨h.classes ++ [e]⟩ := by
  intro e' he'
  rcases List.mem_append.1 he' with he' | he'
  · exact hlawful _ he'
  · exact List.mem_singleton.1 he' ▸ he

theorem setAttribute (hlawful : h.IsLawful) (c : ClassRef) (name : Text) (a : Attribute) :
    (h.setAttribute c name a).IsLawful := by
  intro e he
  obtain ⟨e, hmem, rfl⟩ := List.mem_map.1 he
  have hold := hlawful e hmem
  split
  case isTrue => exact ⟨hold.head, hold.unmarked, hold.names.set name a⟩
  case isFalse => exact hold

theorem rename (hlawful : h.IsLawful) (old : ClassRef) {new : ClassRef}
    (hnew : isMarker new = false) : (h.rename old new).IsLawful := by
  intro e he
  obtain ⟨e, hmem, rfl⟩ := List.mem_map.1 he
  have hold := hlawful e hmem
  refine ⟨?_, ?_, hold.names.map fun _ ↦ rfl⟩
  · simp only [List.head?_map, hold.head, Option.map_some]
  · simp only
    split
    · exact hnew
    · exact hold.unmarked

end IsLawful

end Hierarchy

end ActorFacade
