import ActorFacade.Proofs.Source.Classes
import ActorFacade.Source.Described

/-! # Parameters behind the instance

A function of a class is called with an instance in front of its other arguments: the first formal
parameter takes the instance if it takes arguments by their places, and so does one that takes all
positional arguments (`exists_of_takesInstance`).  `Function.bound` has the formal parameters that
are left, and these take the other arguments as the function does behind the instance
(`callError?_succ_of_positional`, `callError?_succ_of_variadic`).  The parameters of an operation
describe what is left if the first one takes arguments by their places, and otherwise lack this one
(`parameters_iff_positional`).
-/

namespace ActorFacade

/-! ## What parameters say -/

namespace Formal

variable {p : Formal} {q : Parameter}

/-- A formal parameter takes one argument. -/
def TakesOne (p : Formal) : Prop := p.kind.isPositional = true ∨ p.kind = .keywordOnly

/-- What a parameter of an operation says about a formal parameter. -/
inductive Describes (p : Formal) : Parameter → Prop where
  | variadic (hkind : ¬p.TakesOne) : Describes p ⟨p.name, true, .atom .absent, none⟩
  | required (hkind : p.TakesOne) (hdefault : p.default = none) :
    Describes p ⟨p.name, false, .atom .absent, none⟩
  | constant {c : Text} (hkind : p.TakesOne) (hdefault : p.default = some (.atom (.constant c))) :
    Describes p ⟨p.name, true, .atom .absent, some c⟩
  | value {v : Value} (hkind : p.TakesOne) (hdefault : p.default = some v)
    (hvalue : ∀ c, v ≠ .atom (.constant c)) : Describes p ⟨p.name, true, v, none⟩

theorem toParameter_of_not_takesOne (hkind : ¬p.TakesOne) :
    p.toParameter = ⟨p.name, true, .atom .absent, none⟩ := by
  obtain ⟨name, kind, default⟩ := p
  cases kind <;> simp_all [TakesOne, FormalKind.isPositional, toParameter]

theorem toParameter_of_required (hkind : p.TakesOne) (hdefault : p.default = none) :
    p.toParameter = ⟨p.name, false, .atom .absent, none⟩ := by
  obtain ⟨name, kind, default⟩ := p
  cases kind <;> simp_all [TakesOne, FormalKind.isPositional, toParameter]

theorem toParameter_of_constant {c : Text} (hkind : p.TakesOne)
    (hdefault : p.default = some (.atom (.constant c))) :
    p.toParameter = ⟨p.name, true, .atom .absent, some c⟩ := by
  obtain ⟨name, kind, default⟩ := p
  cases kind <;> simp_all [TakesOne, FormalKind.isPositional, toParameter]

theorem toParameter_of_value {v : Value} (hkind : p.TakesOne) (hdefault : p.default = some v)
    (hvalue : ∀ c, v ≠ .atom (.constant c)) : p.toParameter = ⟨p.name, true, v, none⟩ := by
  obtain ⟨name, kind, default⟩ := p
  cases kind <;> simp_all [TakesOne, FormalKind.isPositional, toParameter]

/-- A formal parameter becomes the only parameter that describes it. -/
theorem describes_iff : p.Describes q ↔ q = p.toParameter := by
  constructor
  · rintro (hkind | ⟨hkind, hdefault⟩ | ⟨hkind, hdefault⟩ | ⟨hkind, hdefault, hvalue⟩)
    · exact (toParameter_of_not_takesOne hkind).symm
    · exact (toParameter_of_required hkind hdefault).symm
    · exact (toParameter_of_constant hkind hdefault).symm
    · exact (toParameter_of_value hkind hdefault hvalue).symm
  · rintro rfl
    by_cases hkind : p.TakesOne
    · cases hdefault : p.default with
      | none =>
        rw [toParameter_of_required hkind hdefault]
        exact .required hkind hdefault
      | some v =>
        by_cases hv : ∃ c, v = .atom (.constant c)
        · obtain ⟨c, rfl⟩ := hv
          rw [toParameter_of_constant hkind hdefault]
          exact .constant hkind hdefault
        · rw [toParameter_of_value hkind hdefault (not_exists.1 hv)]
          exact .value hkind hdefault (not_exists.1 hv)
    · rw [toParameter_of_not_takesOne hkind]
      exact .variadic hkind

/-- A parameter that takes arguments by their places is given by no keyword if it takes them by its
place only, or if none is its name. -/
theorem isGivenBy_eq_false {keywords : List Text} (hkind : p.kind.isPositional = true)
    (hname : p.kind = .positional → p.name ∉ keywords) :
    ∀ keyword ∈ keywords, p.isGivenBy keyword = false := by
  intro keyword hkeyword
  rw [isGivenBy, Bool.and_eq_false_iff]
  cases hp : p.kind <;> rw [hp] at hkind hname
  case positionalOnly => exact .inl rfl
  case positional => exact .inr (beq_false_of_ne fun he ↦ hname rfl (he ▸ hkeyword))
  all_goals cases hkind

/-- Formal parameters become the only parameters that describe them in order. -/
theorem forall₂_describes_iff {ps : List Formal} {qs : List Parameter} :
    List.Forall₂ Describes ps qs ↔ qs = ps.map toParameter := by
  constructor
  · intro h
    induction h with
    | nil => rfl
    | cons hpq _ ih => rw [describes_iff.1 hpq, ih, List.map_cons]
  · rintro rfl
    exact List.forall₂_map_right_iff.2 (List.forall₂_same.2 fun p _ ↦ describes_iff.2 rfl)

end Formal

/-! ## Calls on instances -/

/-- Where the formal parameters of a kind stand among those of a function. -/
def FormalKind.rank : FormalKind → Nat
  | .positionalOnly => 0
  | .positional => 1
  | .variadic => 2
  | .keywordOnly => 3
  | .keywordVariadic => 4

theorem FormalKind.rank_le_two_iff {kind : FormalKind} :
    kind.rank ≤ 2 ↔ kind.isPositional = true ∨ kind = .variadic := by
  cases kind <;> decide

namespace Function

variable {f : Function} {p : Formal} {rest : List Formal} {given : Nat} {keywords : List Text}

/-- The formal parameters stand in the order of their kinds. -/
def IsOrdered (f : Function) : Prop := f.formals.Pairwise fun p q ↦ p.kind.rank ≤ q.kind.rank

instance : DecidablePred IsOrdered := fun f ↦
  inferInstanceAs (Decidable (f.formals.Pairwise fun p q ↦ p.kind.rank ≤ q.kind.rank))

/-- Some call that has an instance in front of its other arguments suits the function. -/
def TakesInstance (f : Function) : Prop :=
  ∃ given keywords, f.callError? (given + 1) keywords = none

/-- The function of the other arguments, once the instance has its place. -/
def behindInstance (f : Function) : Function := { f with formals := f.bound }

/-- A keyword suits a function if no argument is there yet for the parameter that it names, and there
is such a parameter or the function takes all keywords. -/
theorem keywordError?_eq_none_iff {keyword : Text} :
    f.keywordError? given keywords keyword = none ↔
      (∀ p ∈ f.positionals.take given, p.isGivenBy keyword = false) ∧
      ((∃ p ∈ f.formals, p.isGivenBy keyword = true) ∨ f.hasFormal .keywordVariadic = true) := by
  unfold keywordError?
  simp only [List.any_eq_true]
  split
  case isTrue h =>
    obtain ⟨p, hp, hgiven⟩ := h
    simp only [reduceCtorEq, false_iff]
    exact fun h ↦ Bool.false_ne_true ((h.1 p hp).symm.trans hgiven)
  case isFalse h =>
    have hfree : ∀ p ∈ f.positionals.take given, p.isGivenBy keyword = false :=
      fun p hp ↦ Bool.eq_false_iff.2 fun hgiven ↦ h ⟨p, hp, hgiven⟩
    rw [and_iff_right hfree]
    split
    case isTrue hnamed => exact iff_of_true rfl (.inl hnamed)
    case isFalse hnamed =>
      rw [or_iff_right hnamed]
      split
      case isTrue hvariadic => exact iff_of_true rfl hvariadic
      case isFalse hvariadic => split <;> exact iff_of_false nofun hvariadic

/-- A call suits a function if all keywords do, the positional arguments have places, and no
parameter lacks its argument. -/
theorem callError?_eq_none_iff :
    f.callError? given keywords = none ↔
      (∀ keyword ∈ keywords, f.keywordError? given keywords keyword = none) ∧
      (given ≤ f.positionals.length ∨ f.hasFormal .variadic = true) ∧
      unfilled (f.positionals.drop given) keywords = [] ∧
      unfilled (f.formalsOf .keywordOnly) keywords = [] := by
  unfold callError?
  simp only [Option.or_eq_none_iff, List.findSome?_eq_none_iff]
  refine and_congr_right fun _ ↦ ?_
  simp only [Bool.and_eq_true, decide_eq_true_eq, Bool.not_eq_true']
  split
  case isTrue h =>
    refine iff_of_false nofun ?_
    rintro ⟨hle | hvariadic, -⟩
    · omega
    · exact Bool.false_ne_true (h.2.symm.trans hvariadic)
  case isFalse h =>
    have hplaces : given ≤ f.positionals.length ∨ f.hasFormal .variadic = true := by
      rw [not_and_or, Nat.not_lt, Bool.not_eq_false] at h
      exact h
    rw [and_iff_right hplaces]
    split <;> simp_all

/-- What takes an instance is the first formal parameter, one that takes arguments by their places or
one that takes all positional arguments. -/
theorem exists_of_takesInstance (hordered : f.IsOrdered) (htakes : f.TakesInstance) :
    ∃ p rest, f.formals = p :: rest ∧ (p.kind.isPositional = true ∨ p.kind = .variadic) := by
  obtain ⟨given, keywords, hcall⟩ := htakes
  obtain ⟨-, hplaces, -⟩ := callError?_eq_none_iff.1 hcall
  obtain ⟨q, hq, hkind⟩ :
      ∃ q ∈ f.formals, q.kind.isPositional = true ∨ q.kind = .variadic := by
    rcases hplaces with hplaces | hvariadic
    · obtain ⟨q, hq⟩ := List.exists_mem_of_length_pos (Nat.lt_of_lt_of_le given.succ_pos hplaces)
      obtain ⟨hq, hkind⟩ := List.mem_filter.1 hq
      exact ⟨q, hq, .inl hkind⟩
    · obtain ⟨q, hq, hkind⟩ := List.any_eq_true.1 hvariadic
      exact ⟨q, hq, .inr (beq_iff_eq.1 hkind)⟩
  unfold IsOrdered at hordered
  cases hformals : f.formals with
  | nil =>
    rw [hformals] at hq
    cases hq
  | cons p rest =>
    rw [hformals] at hordered hq
    -- the first parameter is of no later kind than the one that takes positional arguments
    have hrank : p.kind.rank ≤ q.kind.rank := by
      rcases List.mem_cons.1 hq with rfl | hq
      · exact Nat.le_refl _
      · exact List.rel_of_pairwise_cons hordered hq
    have hle := Nat.le_trans hrank (FormalKind.rank_le_two_iff.2 hkind)
    exact ⟨p, rest, rfl, FormalKind.rank_le_two_iff.1 hle⟩

/-- A first parameter that takes arguments by their places takes the instance, and the others take
the other arguments as the function does, unless a keyword names the first one. -/
theorem callError?_succ_of_positional (hformals : f.formals = p :: rest)
    (hkind : p.kind.isPositional = true)
    (hname : ∀ keyword ∈ keywords, p.isGivenBy keyword = false) :
    f.callError? (given + 1) keywords = none ↔
      f.behindInstance.callError? given keywords = none := by
  have hbound : f.behindInstance.formals = rest := by
    simp [behindInstance, bound, hformals, hkind]
  have hpositional : f.positionals = p :: f.behindInstance.positionals := by
    simp [positionals, hbound, hformals, hkind]
  have hformal : ∀ kind : FormalKind, kind.isPositional = false →
      f.formalsOf kind = f.behindInstance.formalsOf kind ∧
        f.hasFormal kind = f.behindInstance.hasFormal kind := by
    intro kind hother
    have hne : (p.kind == kind) = false := by
      refine beq_false_of_ne fun he ↦ ?_
      rw [he, hother] at hkind
      cases hkind
    simp [formalsOf, hasFormal, hbound, hformals, hne]
  have hkeywords : ∀ keyword ∈ keywords, f.keywordError? (given + 1) keywords keyword = none ↔
      f.behindInstance.keywordError? given keywords keyword = none := by
    intro keyword hkeyword
    have hfree := hname keyword hkeyword
    have hgiven : ¬p.isGivenBy keyword = true := Bool.eq_false_iff.1 hfree
    rw [keywordError?_eq_none_iff, keywordError?_eq_none_iff, hpositional,
      (hformal .keywordVariadic rfl).2, List.take_succ_cons, List.forall_mem_cons,
      and_iff_right hfree, hformals, List.exists_mem_cons_iff, or_iff_right hgiven, hbound]
  rw [callError?_eq_none_iff, callError?_eq_none_iff, forall₂_congr hkeywords, hpositional,
    (hformal .keywordOnly rfl).1, (hformal .variadic rfl).2, List.length_cons,
    Nat.add_le_add_iff_right, List.drop_succ_cons]

/-- A first parameter that takes all positional arguments takes the instance as one more of them. -/
theorem callError?_succ_of_variadic (hordered : f.IsOrdered) (hformals : f.formals = p :: rest)
    (hkind : p.kind = .variadic) :
    f.callError? (given + 1) keywords = none ↔
      f.behindInstance.callError? given keywords = none := by
  have hbound : f.bound = f.formals := by
    simp [bound, hformals, hkind, FormalKind.isPositional]
  have hvariadic : f.hasFormal .variadic = true := by
    simp [hasFormal, hformals, hkind]
  have hpositional : f.positionals = [] := by
    unfold IsOrdered at hordered
    rw [hformals, List.pairwise_cons] at hordered
    rw [positionals, hformals, List.filter_eq_nil_iff]
    intro q hq hpositional
    have hrank : p.kind.rank ≤ q.kind.rank := by
      rcases List.mem_cons.1 hq with rfl | hq
      · exact Nat.le_refl _
      · exact hordered.1 q hq
    rw [hkind] at hrank
    cases hq : q.kind <;> rw [hq] at hrank hpositional
    case positionalOnly | positional => exact absurd hrank (by decide)
    all_goals cases hpositional
  rw [behindInstance, hbound]
  simp only [callError?_eq_none_iff, keywordError?_eq_none_iff, hpositional, hvariadic,
    List.take_nil, List.drop_nil, or_true]

end Function

/-! ## Parameters of operations -/

namespace Hierarchy

variable {h : Hierarchy} {c d : ClassRef} {operation : Text} {f : Function}
  {before after : List ClassRef}

/-- An operation has the parameters of the nearest function of its name. -/
theorem parameters_of_nearest (hlineage : h.lineage c = before ++ d :: after)
    (hbefore : ∀ k ∈ before, ¬h.HasFunction k operation)
    (hf : (h.get d).function? operation = some f) :
    h.toSource.parameters c operation = .ok f.parameters := by
  have hfunction : h.HasFunction d operation := Option.isSome_iff_exists.2 ⟨f, hf⟩
  have hd : h.toSource.declaring c operation = .ok d :=
    declaring_eq_ok_iff.2 (declaring?_eq_some_iff.2 ⟨before, after, hlineage, hfunction, hbefore⟩)
  have hown : h.toSource.ownParameters? d operation = some f.parameters :=
    congrArg (Option.map Function.parameters) hf
  refine bind_eq_ok_iff.2 ⟨d, hd, ?_⟩
  rw [hown]
  rfl

/-- A function that a lookup of attributes finds is the nearest one of its name. -/
theorem eq_of_lookup? (hlineage : h.lineage c = before ++ d :: after)
    (hbefore : ∀ k ∈ before, ¬h.HasFunction k operation)
    (hf : (h.get d).function? operation = some f) {a : Attribute} {g : Function}
    (ha : h.lookup? c operation = some a) (hg : a.function? = some g) : g = f := by
  obtain ⟨own, hown, hf⟩ := Option.bind_eq_some_iff.1 hf
  rw [lookup?, hlineage, List.findSome?_append, List.findSome?_cons, hown] at ha
  cases hfirst : before.findSome? fun k ↦ (h.get k).attribute? operation with
  | none =>
    rw [hfirst] at ha
    cases ha
    exact Option.some.inj (hg.symm.trans hf)
  | some b =>
    rw [hfirst] at ha
    cases ha
    obtain ⟨k, hk, hb⟩ := List.exists_of_findSome?_eq_some hfirst
    have hfunction : h.HasFunction k operation := by
      rw [HasFunction, ClassEntry.function?, hb, Option.bind_some, hg]
      rfl
    exact absurd hfunction (hbefore k hk)

/-- The parameters of an operation describe all formal parameters of its function but the first; the
function is the nearest one of its name, which a lookup of attributes finds unless it finds something
that is no function.  They describe those that are left when the instance has its place, if and only
if the first one takes arguments by their places: one that takes all of them is left too.  What is
left takes the other arguments as the function does behind the instance. -/
theorem parameters_iff_positional (hlineage : h.lineage c = before ++ d :: after)
    (hbefore : ∀ k ∈ before, ¬h.HasFunction k operation)
    (hf : (h.get d).function? operation = some f) (hordered : f.IsOrdered)
    (htakes : f.TakesInstance) :
    ∃ p rest ps, f.formals = p :: rest ∧ (p.kind.isPositional = true ∨ p.kind = .variadic) ∧
      h.toSource.parameters c operation = .ok ps ∧
      List.Forall₂ Formal.Describes rest ps ∧
      (List.Forall₂ Formal.Describes f.bound ps ↔ p.kind.isPositional = true) ∧
      (∀ given keywords, (p.kind = .positional → p.name ∉ keywords) →
        (f.callError? (given + 1) keywords = none ↔
          f.behindInstance.callError? given keywords = none)) ∧
      ∀ a g, h.lookup? c operation = some a → a.function? = some g → g = f := by
  obtain ⟨p, rest, hformals, hkind⟩ := Function.exists_of_takesInstance hordered htakes
  have hparameters : f.parameters = rest.map Formal.toParameter := by
    rw [Function.parameters, hformals, List.drop_succ_cons, List.drop_zero]
  have hrest : List.Forall₂ Formal.Describes rest f.parameters :=
    Formal.forall₂_describes_iff.2 hparameters
  refine ⟨p, rest, f.parameters, hformals, hkind, parameters_of_nearest hlineage hbefore hf, hrest,
    ⟨?_, ?_⟩, ?_, fun a g ↦ eq_of_lookup? hlineage hbefore hf⟩
  · intro hbound
    refine hkind.resolve_right fun hvariadic ↦ ?_
    have hall : f.bound = p :: rest := by
      simp [Function.bound, hformals, hvariadic, FormalKind.isPositional]
    have hlength := hbound.length_eq.trans hrest.length_eq.symm
    rw [hall, List.length_cons] at hlength
    omega
  · intro hpositional
    have hall : f.bound = rest := by simp [Function.bound, hformals, hpositional]
    rw [hall]
    exact hrest
  · intro given keywords hname
    rcases hkind with hpositional | hvariadic
    · exact Function.callError?_succ_of_positional hformals hpositional
        (Formal.isGivenBy_eq_false hpositional hname)
    · exact Function.callError?_succ_of_variadic hordered hformals hvariadic

/-- A function whose parameter for all positional arguments takes the instance. -/
def gathering : Function where
  qualified := "Binding.gather"
  formals := [{ name := "args", kind := .variadic },
    { name := "flag", kind := .keywordOnly, default := some (.bool true) }]

/-- A function with a parameter for the instance, which has no name for callers, and all sorts of
others. -/
def grabbing : Function where
  qualified := "Binding.grab"
  formals := [{ name := "self", kind := .positionalOnly }, { name := "table" },
    { name := "limit", default := some (.atom (.constant "self::LIMIT")) },
    { name := "rest", kind := .variadic }, { name := "options", kind := .keywordVariadic }]

/-- A class with both functions. -/
def bindingClass : ClassRef := .declared "m" "Binding"

/-- A class that derives from it and has nothing of its own. -/
def inheritingClass : ClassRef := .declared "m" "Inheriting"

/-- Both classes, as they are declared. -/
def binding : Except DeclarationError Hierarchy := do
  let h ← declare {} "m" "Binding" []
    [.function .plain "gather" gathering.formals none false,
      .function .plain "grab" grabbing.formals none false]
  h.declare "m" "Inheriting" [bindingClass] []

theorem exists_binding : ∃ h, binding = .ok h ∧
    h.lineage bindingClass = [] ++ bindingClass :: [.object] ∧
    h.lineage inheritingClass = [inheritingClass] ++ bindingClass :: [.object] ∧
    ¬h.HasFunction inheritingClass "grab" ∧
    (h.get bindingClass).function? "gather" = some gathering ∧
    (h.get bindingClass).function? "grab" = some grabbing := by
  have hany : binding.toOption.any (fun h ↦ decide (
      h.lineage bindingClass = [] ++ bindingClass :: [.object] ∧
        h.lineage inheritingClass = [inheritingClass] ++ bindingClass :: [.object] ∧
        ¬h.HasFunction inheritingClass "grab" ∧
        (h.get bindingClass).function? "gather" = some gathering ∧
        (h.get bindingClass).function? "grab" = some grabbing)) = true := by
    decide +kernel
  obtain ⟨h, hok, hall⟩ := (Option.any_eq_true _ _).1 hany
  exact ⟨h, toOption_eq_some_iff.1 hok, of_decide_eq_true hall⟩

/-- The inherited function is called with an instance and a table. -/
theorem parameters_iff_positional_inherited : ∃ h, binding = .ok h ∧
    h.lineage inheritingClass = [inheritingClass] ++ bindingClass :: [.object] ∧
    (∀ k ∈ [inheritingClass], ¬h.HasFunction k "grab") ∧
    (h.get bindingClass).function? "grab" = some grabbing ∧ grabbing.IsOrdered ∧
    grabbing.TakesInstance ∧
    ∃ ps, h.toSource.parameters inheritingClass "grab" = .ok ps ∧
      List.Forall₂ Formal.Describes grabbing.bound ps := by
  obtain ⟨h, hok, -, hlineage, hnone, -, hf⟩ := exists_binding
  have hbefore : ∀ k ∈ [inheritingClass], ¬h.HasFunction k "grab" :=
    List.forall_mem_singleton.2 hnone
  have hordered : grabbing.IsOrdered := by decide
  have htakes : grabbing.TakesInstance := ⟨1, [], by decide⟩
  obtain ⟨p, rest, ps, hformals, -, hparameters, -, hiff, -⟩ :=
    parameters_iff_positional hlineage hbefore hf hordered htakes
  have hp : p.kind.isPositional = true := by
    cases hformals
    rfl
  exact ⟨h, hok, hlineage, hbefore, hf, hordered, htakes, ps, hparameters, hiff.2 hp⟩

/-- The parameter that takes the instance and more is left, but it is no parameter of the operation.
-/
theorem parameters_gathering : ∃ h, binding = .ok h ∧
    (h.get bindingClass).function? "gather" = some gathering ∧ gathering.IsOrdered ∧
    gathering.TakesInstance ∧ gathering.bound = gathering.formals ∧
    h.toSource.parameters bindingClass "gather" =
      .ok [{ name := "flag", optional := true, default := .bool true }] ∧
    ¬List.Forall₂ Formal.Describes gathering.bound
      [{ name := "flag", optional := true, default := .bool true }] := by
  obtain ⟨h, hok, hlineage, -, -, hf, -⟩ := exists_binding
  refine ⟨h, hok, hf, by decide, ⟨0, [], by decide⟩, rfl,
    parameters_of_nearest hlineage (List.forall_mem_nil _) hf, ?_⟩
  intro hbound
  exact absurd hbound.length_eq (by decide)

end Hierarchy

end ActorFacade
