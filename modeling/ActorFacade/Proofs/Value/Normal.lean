import ActorFacade.Value.Normal
import Mathlib.Data.List.Basic

/-! # Keys of normal values

Plain keys are the same if and only if their normal forms are (`sameKey_normal`), so the entries of
a mapping keep distinct keys, and a mapping keeps being a sequence or not.  `IsMadeOf` says of all
atoms of a value what is said of one.
-/

namespace ActorFacade

namespace Atom

@[simp] theorem integer?_normal (a : Atom) : a.normal.integer? = a.integer? := by cases a <;> rfl

@[simp] theorem double?_normal (a : Atom) : a.normal.double? = a.double? := by cases a <;> rfl

@[simp] theorem text?_normal (a : Atom) : a.normal.text? = a.text? := by cases a <;> rfl

/-- Plain keys are the same if and only if their normal forms are. -/
theorem sameKey_normal {a b : Atom} (ha : a.IsPlainKey) (hb : b.IsPlainKey) :
    a.normal.sameKey b.normal = a.sameKey b := by
  unfold sameKey
  rw [integer?_normal, integer?_normal, double?_normal, double?_normal, text?_normal, text?_normal]
  cases a <;> first | exact ha.elim | skip
  all_goals cases b <;> first | exact hb.elim | rfl

end Atom

namespace Value

theorem IsPlainKey.exists_atom {v : Value} (h : v.IsPlainKey) :
    ∃ a, v = .atom a ∧ a.IsPlainKey := by
  cases v with
  | atom a => exact ⟨a, rfl, h⟩
  | list | tuple | set | dict | mapping => exact h.elim

theorem sameKey_normal {v w : Value} (hv : v.IsPlainKey) (hw : w.IsPlainKey) :
    v.normal.sameKey w.normal = v.sameKey w := by
  obtain ⟨a, rfl, ha⟩ := hv.exists_atom
  obtain ⟨b, rfl, hb⟩ := hw.exists_atom
  simp only [normal, sameKey]
  exact Atom.sameKey_normal ha hb

theorem index?_normal (v : Value) : v.normal.index? = v.index? := by
  cases v with
  | atom a => cases a <;> simp [normal, Atom.normal, index?]
  | list | tuple | set => simp [normal, index?]
  | dict | mapping =>
    simp only [normal]
    split <;> rfl

/-- A mapping is a sequence if and only if its normal entries are. -/
theorem isSequence_normalEntries (es : Entries) :
    Entries.isSequence (normalEntries es) = Entries.isSequence es := by
  unfold Entries.isSequence
  generalize 0 = n
  induction es generalizing n with
  | nil => rfl
  | cons e es ih =>
    obtain ⟨k, v⟩ := e
    rw [normalEntries, Entries.isSequenceFrom, Entries.isSequenceFrom, ih, index?_normal]

/-- Normal entries have distinct keys if the entries do. -/
theorem HasDistinctKeys.normalEntries {es : Entries} (h : HasDistinctKeys es)
    (hplain : ∀ e ∈ es, e.1.IsPlainKey) : HasDistinctKeys (normalEntries es) := by
  rw [normalEntries_eq_map]
  refine List.pairwise_map.2 (h.imp_of_mem ?_)
  intro e f he hf hkey
  rw [sameKey_normal (hplain e he) (hplain f hf), hkey]

/-! ## Values made of atoms of a kind -/

mutual
/-- Values without sets whose atoms have a property; the keys of a mapping are plain and distinct.
-/
def IsMadeOf (p : Atom → Prop) : Value → Prop
  | .atom a => p a
  | .list xs | .tuple xs => AreMadeOf p xs
  | .set _ => False
  | .dict es | .mapping es => HasDistinctKeys es ∧ EntriesAreMadeOf p es

/-- All of some values are made of atoms of a kind. -/
def AreMadeOf (p : Atom → Prop) : List Value → Prop
  | [] => True
  | x :: xs => IsMadeOf p x ∧ AreMadeOf p xs

/-- All keys and values of some entries are made of atoms of a kind, and all keys are plain. -/
def EntriesAreMadeOf (p : Atom → Prop) : List (Value × Value) → Prop
  | [] => True
  | (k, v) :: es => k.IsPlainKey ∧ IsMadeOf p k ∧ IsMadeOf p v ∧ EntriesAreMadeOf p es
end

theorem areMadeOf_iff {p : Atom → Prop} {xs : List Value} :
    AreMadeOf p xs ↔ ∀ x ∈ xs, x.IsMadeOf p := by
  induction xs with
  | nil => simp [AreMadeOf]
  | cons x xs ih => rw [AreMadeOf, ih, List.forall_mem_cons]

theorem entriesAreMadeOf_iff {p : Atom → Prop} {es : Entries} : EntriesAreMadeOf p es ↔
    ∀ e ∈ es, e.1.IsPlainKey ∧ e.1.IsMadeOf p ∧ e.2.IsMadeOf p := by
  induction es with
  | nil => simp [EntriesAreMadeOf]
  | cons e es ih => rw [EntriesAreMadeOf, ih, List.forall_mem_cons, and_assoc, and_assoc]

section

variable {p : Atom → Prop}

mutual
/-- A writable value is made of writable atoms. -/
theorem IsWritable.isMadeOf (hp : ∀ {a : Atom}, a.IsWritable → p a) :
    ∀ {v : Value}, v.IsWritable → v.IsMadeOf p
  | .atom _, h => hp h
  | .list _, h | .tuple _, h => AreWritable.areMadeOf hp h
  | .dict _, ⟨hkeys, hes⟩ | .mapping _, ⟨hkeys, hes⟩ =>
    ⟨hkeys, EntriesAreWritable.areMadeOf hp hes⟩

theorem AreWritable.areMadeOf (hp : ∀ {a : Atom}, a.IsWritable → p a) :
    ∀ {xs : List Value}, AreWritable xs → AreMadeOf p xs
  | [], _ => trivial
  | _ :: _, ⟨hx, hxs⟩ => ⟨hx.isMadeOf hp, AreWritable.areMadeOf hp hxs⟩

theorem EntriesAreWritable.areMadeOf (hp : ∀ {a : Atom}, a.IsWritable → p a) :
    ∀ {es : List (Value × Value)}, EntriesAreWritable es → EntriesAreMadeOf p es
  | [], _ => trivial
  | (_, _) :: _, ⟨hplain, hk, hv, hes⟩ =>
    ⟨hplain, hk.isMadeOf hp, hv.isMadeOf hp, EntriesAreWritable.areMadeOf hp hes⟩
end

end

end Value

namespace Entries

/-- What is stored under a new key is the last entry. -/
theorem insert_of_new {es : Entries} {k : Value} (h : ∀ e ∈ es, e.1.sameKey k = false) (v : Value) :
    insert k v es = es ++ [(k, v)] := by
  induction es with
  | nil => rfl
  | cons e es ih =>
    obtain ⟨he, hes⟩ := List.forall_mem_cons.1 h
    rw [insert, if_neg (by simp [he]), ih hes, List.cons_append]

end Entries

end ActorFacade
