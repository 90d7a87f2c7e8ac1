import ActorFacade.Proofs.Hierarchy.Declaring
import ActorFacade.Provider.Attributes
import ActorFacade.Source.Inspected

/-! # Looking up operations of classes

The operations of a class are listed and looked up by the plain functions in its lineage.  Where
the first attribute of a name in the lineage is a plain function, this is the lookup of attributes
(`declaring_of_holder?`).  Where it is something else, it should hide the functions of its name
further back, as it does from a lookup of attributes, but these are still listed and found
(`operations_iff_not_hides`).
-/

namespace ActorFacade.Hierarchy

variable {h : Hierarchy} {c d k : ClassRef} {name : Text}

/-- A class itself has a plain function of a name. -/
def HasFunction (h : Hierarchy) (c : ClassRef) (name : Text) : Prop :=
  ((h.get c).function? name).isSome = true

instance : Decidable (h.HasFunction c name) := inferInstanceAs (Decidable (_ = true))

/-- The first class of a lineage, marks aside, that itself has an attribute of a name. -/
def holder? (h : Hierarchy) (c : ClassRef) (name : Text) : Option ClassRef :=
  (h.lineage c).find? fun k ↦ !isMarker k && (h.ownSlot? k name).isSome

/-- The first attribute of a name in the lineage of a class is no plain function, and a class
further back has one. -/
def Hides (h : Hierarchy) (c : ClassRef) (name : Text) : Prop :=
  ∃ k d, h.holder? c name = some k ∧ ¬h.HasFunction k name ∧ d ∈ h.lineage c ∧ h.HasFunction d name

/-! ## Listing and finding -/

theorem toSource_declaring? (h : Hierarchy) (c : ClassRef) (name : Text) :
    h.toSource.declaring? c name = h.declaring? c name := rfl

theorem declaring_eq_ok_iff : h.toSource.declaring c name = .ok d ↔ h.declaring? c name = some d :=
  h.toSource.declaring_eq_ok_iff

/-- The first class with a function is found. -/
theorem declaring?_eq_some_iff :
    h.declaring? c name = some d ↔ ∃ before after, h.lineage c = before ++ d :: after ∧
      h.HasFunction d name ∧ ∀ k ∈ before, ¬h.HasFunction k name := by
  simp only [declaring?, List.find?_eq_some_iff_append, HasFunction, Bool.not_eq_true',
    Bool.not_eq_true]
  constructor
  · rintro ⟨hd, before, after, hlineage, hbefore⟩
    exact ⟨before, after, hlineage, hd, hbefore⟩
  · rintro ⟨before, after, hlineage, hd, hbefore⟩
    exact ⟨hd, before, after, hlineage, hbefore⟩

theorem hasOperation_iff :
    h.toSource.hasOperation c name = true ↔ ∃ d ∈ h.lineage c, h.HasFunction d name := by
  rw [Source.hasOperation, toSource_declaring?, declaring?, List.find?_isSome]
  rfl

namespace IsLawful

/-- A function is an attribute of a class that is no mark. -/
theorem holds_of_hasFunction (hlawful : h.IsLawful) (hk : h.HasFunction k name) :
    (!isMarker k && (h.ownSlot? k name).isSome) = true := by
  obtain ⟨f, hf⟩ := Option.isSome_iff_exists.1 hk
  obtain ⟨a, ha, -⟩ := Option.bind_eq_some_iff.1 hf
  cases hmarker : isMarker k with
  | true =>
    rw [ClassEntry.attribute?, hlawful.attributes_of_isMarker hmarker] at ha
    cases ha
  | false => simp [ownSlot?, ha]

theorem mem_operations_iff (hlawful : h.IsLawful) :
    name ∈ h.operations c ↔ ∃ d ∈ h.lineage c, h.HasFunction d name := by
  rw [operations, List.mem_eraseDups, List.mem_flatMap]
  constructor
  · rintro ⟨d, hd, hname⟩
    exact ⟨d, (List.mem_filter.1 hd).1,
      (ClassEntry.mem_functionNames_iff (hlawful.names_get d)).1 hname⟩
  · rintro ⟨d, hd, hfunction⟩
    have hunmarked := (Bool.and_eq_true_iff.1 (hlawful.holds_of_hasFunction hfunction)).1
    exact ⟨d, List.mem_filter.2 ⟨hd, hunmarked⟩,
      (ClassEntry.mem_functionNames_iff (hlawful.names_get d)).2 hfunction⟩

/-- A class with a function is behind the first one with an attribute of the name, or is that. -/
theorem exists_holder? (hlawful : h.IsLawful) (hd : d ∈ h.lineage c)
    (hfunction : h.HasFunction d name) : ∃ k, h.holder? c name = some k := by
  refine Option.isSome_iff_exists.1 ?_
  rw [holder?, List.find?_isSome]
  exact ⟨d, hd, hlawful.holds_of_hasFunction hfunction⟩

/-- In front of the first class with an attribute of a name none has a function. -/
theorem exists_lineage_of_holder? (hlawful : h.IsLawful) (hk : h.holder? c name = some k) :
    ∃ before after, h.lineage c = before ++ k :: after ∧
      ∀ k' ∈ before, ¬h.HasFunction k' name := by
  obtain ⟨-, before, after, hlineage, hbefore⟩ := List.find?_eq_some_iff_append.1 hk
  refine ⟨before, after, hlineage, ?_⟩
  intro k' hk' hfunction
  have hnone := hbefore k' hk'
  rw [hlawful.holds_of_hasFunction hfunction] at hnone
  cases hnone

/-- The first class with an attribute of a name is found if the attribute is a function. -/
theorem declaring_of_holder? (hlawful : h.IsLawful) (hk : h.holder? c name = some k)
    (hfunction : h.HasFunction k name) : h.toSource.declaring c name = .ok k := by
  obtain ⟨before, after, hlineage, hbefore⟩ := hlawful.exists_lineage_of_holder? hk
  apply declaring_eq_ok_iff.2
  apply declaring?_eq_some_iff.2
  exact ⟨before, after, hlineage, hfunction, hbefore⟩

/-- Otherwise the class that is found is behind. -/
theorem exists_declaring_of_hides (hlawful : h.IsLawful) (hhides : h.Hides c name) :
    ∃ before k between d after, h.lineage c = before ++ k :: (between ++ d :: after) ∧
      h.holder? c name = some k ∧ ¬h.HasFunction k name ∧ h.HasFunction d name ∧
      h.toSource.declaring c name = .ok d := by
  obtain ⟨k, d, hk, hother, hd, hfunction⟩ := hhides
  obtain ⟨before, behind, hlineage, hbefore⟩ := hlawful.exists_lineage_of_holder? hk
  have hsome : (h.declaring? c name).isSome = true := hasOperation_iff.2 ⟨d, hd, hfunction⟩
  obtain ⟨d, hfound⟩ := Option.isSome_iff_exists.1 hsome
  -- Neither the classes in front of the holder nor the holder itself have the function.
  have hbehind : behind.find? (fun k ↦ ((h.get k).function? name).isSome) = some d := by
    rw [declaring?, hlineage, List.find?_append, List.find?_eq_none.2 hbefore, Option.none_or,
      List.find?_cons, Bool.eq_false_iff.2 hother] at hfound
    exact hfound
  obtain ⟨hd, between, after, rfl, -⟩ := List.find?_eq_some_iff_append.1 hbehind
  exact ⟨before, k, between, d, after, hlineage, hk, hother, hd, declaring_eq_ok_iff.2 hfound⟩

/-- Some class of a lineage has a function if the first class with an attribute of the name has it
as a function, or hides it. -/
theorem exists_hasFunction_iff (hlawful : h.IsLawful) :
    (∃ d ∈ h.lineage c, h.HasFunction d name) ↔
      (∃ k, h.holder? c name = some k ∧ h.HasFunction k name) ∨ h.Hides c name := by
  constructor
  · rintro ⟨d, hd, hfunction⟩
    obtain ⟨k, hk⟩ := hlawful.exists_holder? hd hfunction
    by_cases hself : h.HasFunction k name
    · exact .inl ⟨k, hk, hself⟩
    · exact .inr ⟨k, d, hk, hself, hd, hfunction⟩
  · rintro (⟨k, hk, hfunction⟩ | ⟨k, d, hk, hself, hd, hfunction⟩)
    · exact ⟨k, List.mem_of_find?_eq_some hk, hfunction⟩
    · exact ⟨d, hd, hfunction⟩

end IsLawful

/-- An operation is listed if and only if it is found, which is so if and only if some class of the
lineage has a function of its name; the first one of these is the declaring class.  It is the first
class with any attribute of the name if this attribute is a function.  Listing and finding are what
a lookup of attributes says, unless it would find something else that hides a function; then the
declaring class is further back. -/
theorem operations_iff_not_hides (hlawful : h.IsLawful) (c : ClassRef) (name : Text) :
    (name ∈ h.toSource.operations c ↔ h.toSource.hasOperation c name = true) ∧
    (∀ d, h.toSource.declaring c name = .ok d ↔ ∃ before after,
      h.lineage c = before ++ d :: after ∧ h.HasFunction d name ∧
        ∀ k ∈ before, ¬h.HasFunction k name) ∧
    (∀ k, h.holder? c name = some k → h.HasFunction k name →
      h.toSource.declaring c name = .ok k) ∧
    ((name ∈ h.toSource.operations c ↔ ∃ k, h.holder? c name = some k ∧ h.HasFunction k name) ↔
      ¬h.Hides c name) ∧
    (h.Hides c name → ∃ before k between d after,
      h.lineage c = before ++ k :: (between ++ d :: after) ∧ h.holder? c name = some k ∧
        ¬h.HasFunction k name ∧ h.HasFunction d name ∧ h.toSource.declaring c name = .ok d) := by
  have hlisted : name ∈ h.toSource.operations c ↔ ∃ d ∈ h.lineage c, h.HasFunction d name :=
    hlawful.mem_operations_iff
  refine ⟨hlisted.trans hasOperation_iff.symm,
    fun d ↦ declaring_eq_ok_iff.trans declaring?_eq_some_iff,
    fun k hk hfunction ↦ hlawful.declaring_of_holder? hk hfunction, ?_,
    hlawful.exists_declaring_of_hides⟩
  rw [hlisted, hlawful.exists_hasFunction_iff]
  constructor
  · rintro hiff ⟨k, d, hk, hother, hd, hfunction⟩
    obtain ⟨k', hk', hfunction'⟩ := hiff.1 (.inr ⟨k, d, hk, hother, hd, hfunction⟩)
    cases hk.symm.trans hk'
    exact hother hfunction'
  · intro hnot
    rw [or_iff_left hnot]

/-- A class with a function. -/
def baseClass : ClassRef := .declared "m" "Base"

/-- A class that derives from it, with a value of the same name. -/
def replacingClass : ClassRef := .declared "m" "Sub"

/-- Both, as they are declared. -/
def replaced : Except DeclarationError Hierarchy := do
  let h ← declare {} "m" "Base" [] [.function .plain "login" [{ name := "self" }] none false]
  h.declare "m" "Sub" [baseClass] [.value "login" .null]

/-- The first attributes of the name are the own ones. -/
theorem exists_replaced : ∃ h, replaced = .ok h ∧ h.IsDeclared ∧
    h.holder? baseClass "login" = some baseClass ∧ h.HasFunction baseClass "login" ∧
    h.holder? replacingClass "login" = some replacingClass ∧
    ¬h.HasFunction replacingClass "login" ∧ baseClass ∈ h.lineage replacingClass ∧
    h.declaring? replacingClass "login" = some baseClass := by
  have hany : replaced.toOption.any (fun h ↦
      decide (h.holder? baseClass "login" = some baseClass ∧ h.HasFunction baseClass "login" ∧
        h.holder? replacingClass "login" = some replacingClass ∧
        ¬h.HasFunction replacingClass "login" ∧ baseClass ∈ h.lineage replacingClass ∧
        h.declaring? replacingClass "login" = some baseClass)) = true := by
    decide +kernel
  obtain ⟨h, hok, hall⟩ := (Option.any_eq_true _ _).1 hany
  have hreplaced := toOption_eq_some_iff.1 hok
  obtain ⟨h₁, hbase, hsub⟩ := bind_eq_ok_iff.1 hreplaced
  exact ⟨h, hreplaced, (IsDeclared.empty.declare hbase).declare hsub, of_decide_eq_true hall⟩

/-- The value hides the function where attributes are looked up, but the class has the operation,
and the class that is said to declare it is the other one. -/
theorem operations_replaced : ∃ h, replaced = .ok h ∧
    h.holder? replacingClass "login" = some replacingClass ∧
    ¬h.HasFunction replacingClass "login" ∧
    Text.ofString "login" ∈ h.toSource.operations replacingClass ∧
    h.toSource.hasOperation replacingClass "login" = true ∧
    h.toSource.declaring replacingClass "login" = .ok baseClass := by
  obtain ⟨h, hok, hdeclared, -, hfunction, hholder, hother, hmem, hfound⟩ := exists_replaced
  exact ⟨h, hok, hholder, hother, hdeclared.isLawful.mem_operations_iff.2 ⟨_, hmem, hfunction⟩,
    hasOperation_iff.2 ⟨_, hmem, hfunction⟩, declaring_eq_ok_iff.2 hfound⟩

/-- The class with the function hides nothing and is found from itself; the other one hides the
function, and a class behind it is found. -/
theorem operations_iff_not_hides_replaced : ∃ h, replaced = .ok h ∧ h.IsLawful ∧
    ¬h.Hides baseClass "login" ∧ h.toSource.declaring baseClass "login" = .ok baseClass ∧
    h.Hides replacingClass "login" ∧
    ∃ d, h.toSource.declaring replacingClass "login" = .ok d ∧ h.HasFunction d "login" := by
  obtain ⟨h, hok, hdeclared, hbase, hfunction, hholder, hother, hmem, -⟩ := exists_replaced
  have hlawful := hdeclared.isLawful
  have hhides : h.Hides replacingClass "login" := ⟨_, _, hholder, hother, hmem, hfunction⟩
  obtain ⟨-, -, hself, hiff, -⟩ := operations_iff_not_hides hlawful baseClass "login"
  obtain ⟨-, -, -, -, hbehind⟩ := operations_iff_not_hides hlawful replacingClass "login"
  obtain ⟨-, -, -, d, -, -, -, -, hd, hfound⟩ := hbehind hhides
  refine ⟨h, hok, hlawful, hiff.1 ⟨?_, ?_⟩, hself _ hbase hfunction, hhides, d, hfound, hd⟩
  · exact fun _ ↦ ⟨_, hbase, hfunction⟩
  · exact fun _ ↦ hlawful.mem_operations_iff.2 ⟨_, hlawful.mem_lineage _, hfunction⟩

end ActorFacade.Hierarchy
