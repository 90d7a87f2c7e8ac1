import ActorFacade.Number.Integer
import ActorFacade.Value.Key

/-! # Normal values

A literal does not tell everything about the value that it was written for: a tuple looks like a
list, and a mapping from the integers from zero on looks like one too.  `normal` is the value that
is left.
`IsWritable` says which values have a literal that is read back as their normal value, and
`unsupported?` names the first part of a value that keeps it from having a literal.
-/

namespace ActorFacade

/-! ## Atoms -/

namespace Atom

/-- The plain form of an atom: members of enumerations become what they are members of. -/
def normal : Atom → Atom
  | .absent => .null
  | .intMember n => .int n
  | .doubleMember x => .double x
  | .textMember t => .text t
  | a => a

/-- Atoms whose literals are read back. -/
def IsWritable : Atom → Prop
  | .null | .absent | .bool _ => True
  | .int n | .intMember n => Integer.isTooLong n = false
  | .double x | .doubleMember x => x.IsCanonical
  | .text t | .textMember t => t.IsScalar
  | _ => False

/-- Atoms of the kinds that keys with literals have. -/
def IsPlainKey : Atom → Prop
  | .null | .bool _ | .int _ | .double _ | .text _ => True
  | .intMember _ | .doubleMember _ | .textMember _ => True
  | _ => False

/-- The name of the type of an atom that has no literal. -/
def unsupported? (a : Atom) : Option Text :=
  match a with
  | .bytes _ | .constant _ | .date .. | .moment _ | .enclosing _ | .other _ =>
    some (Value.atomTypeName a)
  | _ => none

@[simp] theorem normal_normal (a : Atom) : a.normal.normal = a.normal := by cases a <;> rfl

end Atom

namespace Value

/-! ## Normal values -/

mutual
/-- The value that the literal of a value tells. -/
def normal : Value → Value
  | .atom a => .atom a.normal
  | .list xs | .tuple xs => .list (normalAll xs)
  | .set xs => .set xs
  | .dict es | .mapping es =>
    if Entries.isSequence es then .list (normalValues es) else .dict (normalEntries es)

/-- The normal values of some values. -/
def normalAll : List Value → List Value
  | [] => []
  | x :: xs => normal x :: normalAll xs

/-- The normal values of the values of entries. -/
def normalValues : List (Value × Value) → List Value
  | [] => []
  | (_, v) :: es => normal v :: normalValues es

/-- Entries with normal keys and values. -/
def normalEntries : List (Value × Value) → List (Value × Value)
  | [] => []
  | (k, v) :: es => (normal k, normal v) :: normalEntries es
end

theorem normalAll_eq_map (xs : List Value) : normalAll xs = xs.map normal := by
  induction xs with
  | nil => rfl
  | cons x xs ih => simp [normalAll, ih]

theorem normalEntries_eq_map (es : Entries) :
    normalEntries es = es.map fun e ↦ (normal e.1, normal e.2) := by
  induction es with
  | nil => rfl
  | cons e es ih => simp [normalEntries, ih]

/-! ## Values with literals -/

/-- Values of the kinds that keys with literals have. -/
def IsPlainKey : Value → Prop
  | .atom a => a.IsPlainKey
  | _ => False

/-- No two entries have the same key; at most one key is no number. -/
def HasDistinctKeys (es : Entries) : Prop := es.Pairwise fun e f ↦ e.1.sameKey f.1 = false

mutual
/-- Values whose literals are read back. -/
def IsWritable : Value → Prop
  | .atom a => a.IsWritable
  | .list xs | .tuple xs => AreWritable xs
  | .set _ => False
  | .dict es | .mapping es => HasDistinctKeys es ∧ EntriesAreWritable es

/-- All of some values are writable. -/
def AreWritable : List Value → Prop
  | [] => True
  | x :: xs => IsWritable x ∧ AreWritable xs

/-- All keys and values of some entries are writable, and all keys are plain. -/
def EntriesAreWritable : List (Value × Value) → Prop
  | [] => True
  | (k, v) :: es => k.IsPlainKey ∧ IsWritable k ∧ IsWritable v ∧ EntriesAreWritable es
end

/-! ## Values without literals -/

mutual
/-- The name of the type of the first part of a value that has no literal; keys come before their
values. -/
def unsupported? : Value → Option Text
  | .atom a => a.unsupported?
  | .list xs | .tuple xs => unsupportedIn? xs
  | .set xs => some (typeName (.set xs))
  | .dict es | .mapping es => unsupportedAmong? es

/-- The name of the type of the first part without a literal of some values. -/
def unsupportedIn? : List Value → Option Text
  | [] => none
  | x :: xs => (unsupported? x).or (unsupportedIn? xs)

/-- The name of the type of the first part without a literal of some entries. -/
def unsupportedAmong? : List (Value × Value) → Option Text
  | [] => none
  | (k, v) :: es => (unsupported? k).or ((unsupported? v).or (unsupportedAmong? es))
end

end Value

end ActorFacade
