import ActorFacade.Calendar
import ActorFacade.Number.Double

/-! # Values

Default values of parameters, configuration data and decoded literals are all `Value`s: atoms and
five kinds of containers.  Entries of a mapping keep the order in which they were made.
`DecidableEq` is structural equality; equality of keys, which identifies `1` with `true`, is defined
elsewhere.
-/

namespace ActorFacade

/-- The kinds of containers that can lie within themselves. -/
inductive Enclosure where
  | list
  | tuple
  | dict
deriving DecidableEq, Repr, Inhabited

/-- Values without parts. -/
inductive Atom where
  | null
  /-- The marker for a default that is not known. -/
  | absent
  | bool (b : Bool)
  | int (n : Int)
  | double (x : Double)
  | text (t : Text)
  | bytes (bs : List UInt8)
  /-- A reference to a named constant. -/
  | constant (name : Text)
  | date (year month day : Nat)
  /-- A date with a time of day. -/
  | moment (m : Moment)
  /-- A member of an enumeration of integers. -/
  | intMember (n : Int)
  /-- A number of a more special kind than `double`. -/
  | doubleMember (x : Double)
  /-- A member of an enumeration of texts. -/
  | textMember (t : Text)
  /-- A container around this place. -/
  | enclosing (kind : Enclosure)
  /-- Anything else, known by the name of its type. -/
  | other (typeName : Text)
deriving DecidableEq, Repr, Inhabited

/-- A value is an atom or a container of values; `mapping` is a mapping that cannot be changed. -/
inductive Value where
  | atom (a : Atom)
  | list (xs : List Value)
  | tuple (xs : List Value)
  | set (xs : List Value)
  | dict (es : List (Value × Value))
  | mapping (es : List (Value × Value))
deriving Repr, Inhabited

/-- The entries of a mapping in order. -/
abbrev Entries := List (Value × Value)

instance : Coe Atom Value := ⟨.atom⟩

namespace Value

/-! ## Structural equality -/

mutual
/-- Structural equality as a test. -/
def same : Value → Value → Bool
  | .atom a, .atom b => a == b
  | .list xs, .list ys => sameAll xs ys
  | .tuple xs, .tuple ys => sameAll xs ys
  | .set xs, .set ys => sameAll xs ys
  | .dict es, .dict fs => sameEntries es fs
  | .mapping es, .mapping fs => sameEntries es fs
  | _, _ => false

/-- Structural equality of lists. -/
def sameAll : List Value → List Value → Bool
  | [], [] => true
  | x :: xs, y :: ys => same x y && sameAll xs ys
  | _, _ => false

/-- Structural equality of entries. -/
def sameEntries : List (Value × Value) → List (Value × Value) → Bool
  | [], [] => true
  | (k, v) :: es, (l, w) :: fs => same k l && same v w && sameEntries es fs
  | _, _ => false
end

mutual
theorem eq_of_same : ∀ (x y : Value), same x y = true → x = y
  | .atom a, y, h => by cases y <;> simp_all [same]
  | .list xs, y, h => by
    cases y <;> simp_all only [same, Bool.false_eq_true, list.injEq]
    exact eq_of_sameAll xs _ h
  | .tuple xs, y, h => by
    cases y <;> simp_all only [same, Bool.false_eq_true, tuple.injEq]
    exact eq_of_sameAll xs _ h
  | .set xs, y, h => by
    cases y <;> simp_all only [same, Bool.false_eq_true, set.injEq]
    exact eq_of_sameAll xs _ h
  | .dict es, y, h => by
    cases y <;> simp_all only [same, Bool.false_eq_true, dict.injEq]
    exact eq_of_sameEntries es _ h
  | .mapping es, y, h => by
    cases y <;> simp_all only [same, Bool.false_eq_true, mapping.injEq]
    exact eq_of_sameEntries es _ h

theorem eq_of_sameAll : ∀ (xs ys : List Value), sameAll xs ys = true → xs = ys
  | [], ys, h => by cases ys <;> simp_all [sameAll]
  | x :: xs, ys, h => by
    cases ys with
    | nil => simp [sameAll] at h
    | cons y ys =>
      simp only [sameAll, Bool.and_eq_true] at h
      rw [eq_of_same x y h.1, eq_of_sameAll xs ys h.2]

theorem eq_of_sameEntries : ∀ (es fs : List (Value × Value)), sameEntries es fs = true → es = fs
  | [], fs, h => by cases fs <;> simp_all [sameEntries]
  | (k, v) :: es, fs, h => by
    cases fs with
    | nil => simp [sameEntries] at h
    | cons f fs =>
      obtain ⟨l, w⟩ := f
      simp only [sameEntries, Bool.and_eq_true] at h
      rw [eq_of_same k l h.1.1, eq_of_same v w h.1.2, eq_of_sameEntries es fs h.2]
end

mutual
theorem same_self : ∀ x : Value, same x x = true
  | .atom _ => by simp [same]
  | .list xs | .tuple xs | .set xs => by simpa only [same] using sameAll_self xs
  | .dict es | .mapping es => by simpa only [same] using sameEntries_self es

theorem sameAll_self : ∀ xs : List Value, sameAll xs xs = true
  | [] => rfl
  | x :: xs => by simp [sameAll, same_self x, sameAll_self xs]

theorem sameEntries_self : ∀ es : List (Value × Value), sameEntries es es = true
  | [] => rfl
  | (k, v) :: es => by simp [sameEntries, same_self k, same_self v, sameEntries_self es]
end

theorem same_iff {x y : Value} : same x y = true ↔ x = y :=
  ⟨eq_of_same x y, fun h ↦ h ▸ same_self x⟩

instance : DecidableEq Value := fun _ _ ↦ decidable_of_iff _ same_iff

/-! ## Kinds -/

/-- A null value. -/
abbrev null : Value := .atom .null

/-- A truth value. -/
abbrev bool (b : Bool) : Value := .atom (.bool b)

/-- An integer. -/
abbrev int (n : Int) : Value := .atom (.int n)

/-- A binary number. -/
abbrev double (x : Double) : Value := .atom (.double x)

/-- A text. -/
abbrev text (t : Text) : Value := .atom (.text t)

/-- The text of a text or of a member of an enumeration of texts. -/
def text? : Value → Option Text
  | .atom (.text t) | .atom (.textMember t) => some t
  | _ => none

/-- The entries of either kind of mapping. -/
def entries? : Value → Option Entries
  | .dict es | .mapping es => some es
  | _ => none

/-- The items of a sequence that is not text. -/
def items? : Value → Option (List Value)
  | .list xs | .tuple xs => some xs
  | _ => none

/-- The name of the type of a container of a kind. -/
def enclosureTypeName : Enclosure → Text
  | .list => "list"
  | .tuple => "tuple"
  | .dict => "dict"

/-- The name of the type of an atom. -/
def atomTypeName : Atom → Text
  | .null => "NoneType"
  | .absent => "_NoDefault"
  | .bool _ => "bool"
  | .int _ => "int"
  | .double _ => "float"
  | .text _ => "str"
  | .bytes _ => "bytes"
  | .constant _ => "ConstantRef"
  | .date .. => "date"
  | .moment _ => "datetime"
  | .intMember _ => "IntEnum"
  | .doubleMember _ => "float"
  | .textMember _ => "StrEnum"
  | .enclosing kind => enclosureTypeName kind
  | .other name => name

/-- The name of the type of a value. -/
def typeName : Value → Text
  | .atom a => atomTypeName a
  | .list _ => "list"
  | .tuple _ => "tuple"
  | .set _ => "set"
  | .dict _ => "dict"
  | .mapping _ => "mappingproxy"

/-- Whether a value counts as true: null, false, zero and everything empty do not. -/
def isTrue : Value → Bool
  | .atom .null => false
  | .atom (.bool b) => b
  | .atom (.int n) | .atom (.intMember n) => n != 0
  | .atom (.double x) | .atom (.doubleMember x) => !x.isZero
  | .atom (.text t) | .atom (.textMember t) => !t.isEmpty
  | .atom (.bytes bs) => !bs.isEmpty
  | .atom _ => true
  | .list xs | .tuple xs | .set xs => !xs.isEmpty
  | .dict es | .mapping es => !es.isEmpty

end Value

end ActorFacade
