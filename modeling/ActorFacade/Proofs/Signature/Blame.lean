import ActorFacade.Proofs.Literal.Refusal
import ActorFacade.Proofs.Signature

/-! # Parameters to blame

A parameter is to blame for a signature that cannot be written if its default has to be written and
has a part of a type without literals.  Where no integer has too many digits, the first such
parameter is the one that the failure names (`ofParameters_eq_error_iff_of_short`).  Such an integer
keeps what stands behind it from being looked at.
-/

namespace ActorFacade.Signature

/-- The first type without literals in the default of a parameter, if this has to be written. -/
def blamed? (p : Parameter) : Option Text :=
  if p.optional && (constant? p).isNone then p.default.unsupported? else none

/-- A default that has to be written has no integer with too many digits. -/
def IsShort (p : Parameter) : Prop :=
  p.optional = true → constant? p = none → ∀ x ∈ p.default.leaves, x.isTooLong = false

theorem refusal?_of_short {p : Parameter} (h : IsShort p) :
    refusal? p = (blamed? p).map .unsupported := by
  unfold refusal? blamed?
  split
  case isTrue hwritten =>
    rw [Bool.and_eq_true, Option.isNone_iff_eq_none] at hwritten
    exact Literal.failure?_write_of_short (h hwritten.1 hwritten.2)
  case isFalse => rfl

/-- A signature without integers with too many digits fails with the first parameter to blame. -/
theorem ofParameters_eq_error_iff_of_short {ps : List Parameter} (h : ∀ p ∈ ps, IsShort p)
    {declaringType : Text} {f : Failure} :
    ofParameters ps declaringType = .error f ↔ ∃ before p after typeName,
      ps = before ++ p :: after ∧ blamed? p = some typeName ∧ f = .unsupported p.name typeName ∧
        ∀ q ∈ before, blamed? q = none := by
  have hfirst : failure? (ofParameters ps declaringType) =
      ps.findSome? fun p ↦ (blamed? p).map (.unsupported p.name) := by
    rw [failure?_ofParameters]
    refine findSome?_congr ?_
    intro p hp
    rw [refusal?_of_short (h p hp), Option.map_map]
    rfl
  rw [← failure?_eq_some_iff, hfirst, List.findSome?_eq_some_iff]
  simp only [Option.map_eq_some_iff, Option.map_eq_none_iff]
  constructor
  · rintro ⟨before, p, after, hps, ⟨typeName, hp, rfl⟩, hbefore⟩
    exact ⟨before, p, after, typeName, hps, hp, rfl, hbefore⟩
  · rintro ⟨before, p, after, typeName, hps, hp, rfl, hbefore⟩
    exact ⟨before, p, after, hps, ⟨typeName, hp, rfl⟩, hbefore⟩

/-- A signature fails with a type without literals if and only if a parameter is reached whose
default has to be written and has a leaf of this type, and no leaf without a literal before it. -/
theorem ofParameters_eq_unsupported_iff {ps : List Parameter} {declaringType name typeName : Text} :
    ofParameters ps declaringType = .error (.unsupported name typeName) ↔
      ∃ p, IsReached ps p ∧ p.name = name ∧ p.optional = true ∧ constant? p = none ∧
        ∃ before x after, p.default.leaves = before ++ x :: after ∧
          x.unsupported? = some typeName ∧
            ∀ y ∈ before, y.isTooLong = false ∧ y.unsupported? = none := by
  rw [ofParameters_eq_error_iff]
  refine exists_congr fun p ↦ ?_
  rw [← Literal.write_eq_unsupported_iff]
  constructor
  · rintro ⟨cause, hreached, hrefusal, hf⟩
    obtain ⟨hoptional, hconstant, hwrite⟩ := refusal?_eq_some_iff.1 hrefusal
    cases cause with
    | unsupported found =>
      cases hf
      exact ⟨hreached, rfl, hoptional, hconstant, hwrite⟩
    | limit e => cases hf
  · rintro ⟨hreached, rfl, hoptional, hconstant, hwrite⟩
    exact ⟨.unsupported typeName, hreached,
      refusal?_eq_some_iff.2 ⟨hoptional, hconstant, hwrite⟩, rfl⟩

/-- A parameter that is required or has a constant is written whatever its default is. -/
theorem exists_parameterText {p : Parameter} (h : p.optional = false ∨ constant? p ≠ none)
    (declaringType : Text) : ∃ t, parameterText declaringType p = .ok t := by
  rcases h with hrequired | hconstant
  · rw [parameterText, hrequired, if_neg Bool.false_ne_true]
    exact ⟨_, rfl⟩
  · obtain ⟨constant, hconstant⟩ := Option.ne_none_iff_exists'.1 hconstant
    unfold parameterText defaultText
    rw [hconstant]
    split
    · exact ⟨_, rfl⟩
    · exact ⟨_, rfl⟩

/-- Which defaults cannot be written, and which parameter is named.  Where no integer has too many
digits, a value fails to be written if and only if a part of it is of a type without literals, and a
signature if and only if a parameter is to blame; the failure names the first such part, and the
first such parameter.  In general a parameter is named if the ones before it can be written, and so
can all leaves of its default before the first one of a type without literals.  Parameters that are
required or have a constant never fail. -/
theorem failure_of_blame :
    (∀ v : Value, (∀ x ∈ v.leaves, x.isTooLong = false) → ∀ e, Literal.write v = .error e ↔
      ∃ typeName, v.unsupported? = some typeName ∧ e = .unsupported typeName) ∧
    (∀ ps declaringType name typeName,
      ofParameters ps declaringType = .error (.unsupported name typeName) ↔
        ∃ p, IsReached ps p ∧ p.name = name ∧ p.optional = true ∧ constant? p = none ∧
          ∃ before x after, p.default.leaves = before ++ x :: after ∧
            x.unsupported? = some typeName ∧
              ∀ y ∈ before, y.isTooLong = false ∧ y.unsupported? = none) ∧
    (∀ ps, (∀ p ∈ ps, IsShort p) → ∀ declaringType f,
      ofParameters ps declaringType = .error f ↔ ∃ before p after typeName,
        ps = before ++ p :: after ∧ blamed? p = some typeName ∧
          f = .unsupported p.name typeName ∧ ∀ q ∈ before, blamed? q = none) ∧
    ∀ p, p.optional = false ∨ constant? p ≠ none →
      ∀ declaringType, ∃ t, parameterText declaringType p = .ok t := by
  refine ⟨?_, fun _ _ _ _ ↦ ofParameters_eq_unsupported_iff,
    fun _ hshort _ _ ↦ ofParameters_eq_error_iff_of_short hshort,
    fun _ h declaringType ↦ exists_parameterText h declaringType⟩
  intro v hshort e
  rw [← failure?_eq_some_iff, Literal.failure?_write_of_short hshort, Option.map_eq_some_iff]
  exact exists_congr fun typeName ↦ and_congr_right fun _ ↦ eq_comm

/-- A list with bytes among short numbers is blamed on the second of three parameters. -/
theorem failure_of_blame_second :
    let ps : List Parameter := [⟨"a", true, .int 1, none⟩,
      ⟨"b", true, .list [.int 2, .atom (.bytes [])], none⟩, ⟨"c", true, .set [], none⟩]
    (∀ p ∈ ps, IsShort p) ∧ ofParameters ps [] = .error (.unsupported "b" "bytes") := by
  intro ps
  have hleaves : ∀ p ∈ ps, ∀ x ∈ p.default.leaves, x.isTooLong = false := by decide +kernel
  have hshort : ∀ p ∈ ps, IsShort p := fun p hp _ _ ↦ hleaves p hp
  refine ⟨hshort, (failure_of_blame.2.2.1 ps hshort [] _).2 ?_⟩
  exact ⟨[⟨"a", true, .int 1, none⟩], _, _, "bytes", rfl, rfl, rfl, by decide⟩

/-- Where an integer in front has too many digits a parameter is to blame and is not named.  A
constant without a name does not keep a default from being written. -/
theorem not_named_of_long :
    let x : Parameter := ⟨"x", true, .int (Int.ofNat (Nat.pow 10 4300)), none⟩
    let y : Parameter := ⟨"y", true, .atom (.bytes []), none⟩
    let z : Parameter := ⟨"z", true, .atom (.bytes []), some ""⟩
    (blamed? x = none ∧ blamed? y = some "bytes" ∧
      ofParameters [x, y] [] = .error (.limit .write)) ∧
    z.constant ≠ none ∧ ofParameters [z] [] = .error (.unsupported "z" "bytes") := by
  decide +kernel

end ActorFacade.Signature
