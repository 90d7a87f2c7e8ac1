import ActorFacade.Literal.Writer
import ActorFacade.Proofs.Except
import ActorFacade.Proofs.FirstPlaces
import ActorFacade.Proofs.Value.Display
import ActorFacade.Proofs.Value.Normal

/-! # Values without literals

A value has no literal if and only if one of its leaves has none, however deep it lies, and the
first such leaf is what writing the value fails with (`failure?_write`).
-/

namespace ActorFacade

mutual
/-- The parts of a value that have no parts themselves, in the order in which they are written; the
keys of a sequence are not written. -/
def Value.leaves : Value → List Value
  | .list xs | .tuple xs => leavesOfAll xs
  | .dict es | .mapping es =>
    if Entries.isSequence es then leavesOfValues es else leavesOfEntries es
  | v => [v]

/-- The leaves of some values. -/
def Value.leavesOfAll : List Value → List Value
  | [] => []
  | x :: xs => x.leaves ++ leavesOfAll xs

/-- The leaves of the values of some entries. -/
def Value.leavesOfValues : List (Value × Value) → List Value
  | [] => []
  | (_, v) :: es => v.leaves ++ leavesOfValues es

/-- The leaves of the keys and the values of some entries. -/
def Value.leavesOfEntries : List (Value × Value) → List Value
  | [] => []
  | (k, v) :: es => k.leaves ++ (v.leaves ++ leavesOfEntries es)
end

namespace Value

/-- Whether a value is an integer with too many digits. -/
def isTooLong (v : Value) : Bool := v.index?.any Integer.isTooLong

theorem isTooLong_of_index? {v : Value} {n : Int} (h : v.index? = some n) :
    v.isTooLong = Integer.isTooLong n := by
  rw [isTooLong, h, Option.any_some]

variable {p : Atom → Prop}

mutual
/-- The leaves of a value that is made of atoms of a kind are such atoms. -/
theorem exists_atom_of_mem_leaves : ∀ {v : Value}, v.IsMadeOf p → ∀ x ∈ v.leaves,
    ∃ a, x = .atom a ∧ p a
  | .atom a, h, _, hx => ⟨a, List.mem_singleton.1 hx, h⟩
  | .list _, h, _, hx | .tuple _, h, _, hx => exists_atom_of_mem_leavesOfAll h _ hx
  | .set _, h, _, _ => h.elim
  | .dict es, ⟨_, hes⟩, x, hx | .mapping es, ⟨_, hes⟩, x, hx => by
    rw [leaves] at hx
    cases hseq : Entries.isSequence es with
    | true =>
      rw [hseq, if_pos rfl] at hx
      exact exists_atom_of_mem_leavesOfValues hes x hx
    | false =>
      rw [hseq, if_neg Bool.false_ne_true] at hx
      exact exists_atom_of_mem_leavesOfEntries hes x hx

theorem exists_atom_of_mem_leavesOfAll : ∀ {xs : List Value}, AreMadeOf p xs →
    ∀ x ∈ leavesOfAll xs, ∃ a, x = .atom a ∧ p a
  | [], _, _, hx => absurd hx List.not_mem_nil
  | _ :: _, ⟨hy, hys⟩, x, hx => (List.mem_append.1 hx).elim
    (exists_atom_of_mem_leaves hy x) (exists_atom_of_mem_leavesOfAll hys x)

theorem exists_atom_of_mem_leavesOfValues : ∀ {es : List (Value × Value)}, EntriesAreMadeOf p es →
    ∀ x ∈ leavesOfValues es, ∃ a, x = .atom a ∧ p a
  | [], _, _, hx => absurd hx List.not_mem_nil
  | (_, _) :: _, ⟨_, _, hv, hes⟩, x, hx => (List.mem_append.1 hx).elim
    (exists_atom_of_mem_leaves hv x) (exists_atom_of_mem_leavesOfValues hes x)

theorem exists_atom_of_mem_leavesOfEntries : ∀ {es : List (Value × Value)}, EntriesAreMadeOf p es →
    ∀ x ∈ leavesOfEntries es, ∃ a, x = .atom a ∧ p a
  | [], _, _, hx => absurd hx List.not_mem_nil
  | (_, _) :: _, ⟨_, hk, hv, hes⟩, x, hx => (List.mem_append.1 hx).elim
    (exists_atom_of_mem_leaves hk x) fun hx ↦ (List.mem_append.1 hx).elim
      (exists_atom_of_mem_leaves hv x) (exists_atom_of_mem_leavesOfEntries hes x)
end

section

variable {P : Value → Prop}

mutual
/-- What holds of atoms and of sets holds of leaves. -/
theorem forall_mem_leaves (hatom : ∀ a, P (.atom a)) (hset : ∀ xs, P (.set xs)) :
    ∀ v : Value, ∀ x ∈ v.leaves, P x
  | .atom a => List.forall_mem_singleton.2 (hatom a)
  | .set xs => List.forall_mem_singleton.2 (hset xs)
  | .list xs | .tuple xs => forall_mem_leavesOfAll hatom hset xs
  | .dict es | .mapping es => by
    rw [leaves]
    split
    case isTrue => exact forall_mem_leavesOfValues hatom hset es
    case isFalse => exact forall_mem_leavesOfEntries hatom hset es

theorem forall_mem_leavesOfAll (hatom : ∀ a, P (.atom a)) (hset : ∀ xs, P (.set xs)) :
    ∀ xs : List Value, ∀ x ∈ leavesOfAll xs, P x
  | [] => List.forall_mem_nil _
  | y :: ys => List.forall_mem_append.2
    ⟨forall_mem_leaves hatom hset y, forall_mem_leavesOfAll hatom hset ys⟩

theorem forall_mem_leavesOfValues (hatom : ∀ a, P (.atom a)) (hset : ∀ xs, P (.set xs)) :
    ∀ es : List (Value × Value), ∀ x ∈ leavesOfValues es, P x
  | [] => List.forall_mem_nil _
  | (_, v) :: es => List.forall_mem_append.2
    ⟨forall_mem_leaves hatom hset v, forall_mem_leavesOfValues hatom hset es⟩

theorem forall_mem_leavesOfEntries (hatom : ∀ a, P (.atom a)) (hset : ∀ xs, P (.set xs)) :
    ∀ es : List (Value × Value), ∀ x ∈ leavesOfEntries es, P x
  | [] => List.forall_mem_nil _
  | (k, v) :: es => List.forall_mem_append.2 ⟨forall_mem_leaves hatom hset k,
      List.forall_mem_append.2
        ⟨forall_mem_leaves hatom hset v, forall_mem_leavesOfEntries hatom hset es⟩⟩
end

end

/-! ## Parts of types without literals -/

theorem unsupported?_of_index? {v : Value} {n : Int} (h : v.index? = some n) :
    v.unsupported? = none := by
  cases v with
  | atom a => cases a <;> first | rfl | cases h
  | list | tuple | set | dict | mapping => cases h

/-- An integer with too many digits is of a type with literals. -/
theorem unsupported?_of_isTooLong {v : Value} (h : v.isTooLong = true) : v.unsupported? = none := by
  rw [isTooLong, Option.any_eq_true] at h
  obtain ⟨n, hn, -⟩ := h
  exact unsupported?_of_index? hn

mutual
/-- The first part of a value that is of a type without literals is a leaf. -/
theorem findSome?_leaves : ∀ v : Value, v.leaves.findSome? unsupported? = v.unsupported?
  | .atom a => by simp [leaves]
  | .set xs => by simp [leaves, unsupported?]
  | .list xs | .tuple xs => findSome?_leavesOfAll xs
  | .dict es | .mapping es => by
    rw [leaves, unsupported?]
    cases hseq : Entries.isSequence es with
    | true => exact findSome?_leavesOfValues es hseq
    | false => exact findSome?_leavesOfEntries es

theorem findSome?_leavesOfAll : ∀ xs : List Value,
    (leavesOfAll xs).findSome? unsupported? = unsupportedIn? xs
  | [] => rfl
  | x :: xs => by
    rw [leavesOfAll, unsupportedIn?, List.findSome?_append, findSome?_leaves,
      findSome?_leavesOfAll]

theorem findSome?_leavesOfValues : ∀ {n : Nat} (es : List (Value × Value)),
    Entries.isSequenceFrom n es = true →
      (leavesOfValues es).findSome? unsupported? = unsupportedAmong? es
  | _, [], _ => rfl
  | n, (k, v) :: es, h => by
    rw [Entries.isSequenceFrom, Bool.and_eq_true, beq_iff_eq] at h
    obtain ⟨hkey, hes⟩ := h
    rw [leavesOfValues, unsupportedAmong?, List.findSome?_append, findSome?_leaves,
      findSome?_leavesOfValues es hes, unsupported?_of_index? hkey, Option.none_or]

theorem findSome?_leavesOfEntries : ∀ es : List (Value × Value),
    (leavesOfEntries es).findSome? unsupported? = unsupportedAmong? es
  | [] => rfl
  | (k, v) :: es => by
    rw [leavesOfEntries, unsupportedAmong?, List.findSome?_append, List.findSome?_append,
      findSome?_leaves, findSome?_leaves, findSome?_leavesOfEntries]
end

end Value

namespace Literal

open Value (leavesOfAll leavesOfValues leavesOfEntries)

/-- Why a leaf has no literal, if it has none. -/
def refusal? : Value → Option WriteError
  | .atom a => failure? (writeAtom a)
  | v => some (.unsupported v.typeName)

/-- An integer has no literal if it has too many digits. -/
theorem refusal?_int (n : Int) :
    refusal? (.int n) = if Integer.isTooLong n then some (.limit .write) else none := by
  have hwrite : failure? (writeInt n) = (failure? (Integer.write n)).map .limit := by
    unfold writeInt
    cases Integer.write n <;> rfl
  have hint : refusal? (.int n) = failure? (writeInt n) := rfl
  rw [hint, hwrite, Integer.failure?_write]
  cases Integer.isTooLong n <;> rfl

mutual
theorem failure?_write : ∀ v, failure? (write v) = v.leaves.findSome? refusal?
  | .atom a => by simp [write, Value.leaves, refusal?]
  | .list xs | .tuple xs => by
    rw [write, Value.leaves, ← failure?_writeAll]
    exact failure?_bind_ok _ _
  | .set xs => by simp [write, Value.leaves, refusal?]
  | .dict es | .mapping es => by
    rw [write, Value.leaves]
    cases Entries.isSequence es with
    | true => exact (failure?_bind_ok _ _).trans (failure?_writeValues es)
    | false => exact (failure?_bind_ok _ _).trans (failure?_writeEntries es)

theorem failure?_writeAll : ∀ xs, failure? (writeAll xs) = (leavesOfAll xs).findSome? refusal?
  | [] => rfl
  | x :: xs => by
    rw [writeAll, leavesOfAll, List.findSome?_append, ← failure?_write, ← failure?_writeAll]
    exact failure?_bind_bind _ _ List.cons

theorem failure?_writeValues : ∀ es,
    failure? (writeValues es) = (leavesOfValues es).findSome? refusal?
  | [] => rfl
  | (_, v) :: es => by
    rw [writeValues, leavesOfValues, List.findSome?_append, ← failure?_write,
      ← failure?_writeValues]
    exact failure?_bind_bind _ _ List.cons

theorem failure?_writeEntries : ∀ es,
    failure? (writeEntries es) = (leavesOfEntries es).findSome? refusal?
  | [] => rfl
  | (k, v) :: es => by
    rw [writeEntries, leavesOfEntries, List.findSome?_append, List.findSome?_append,
      ← failure?_write, ← failure?_write, ← failure?_writeEntries]
    cases write k with
    | error e => rfl
    | ok key => exact failure?_bind_bind _ _ fun value rest ↦ (key ++ " => " ++ value) :: rest
end

/-- A value has a literal if all its leaves do. -/
theorem exists_write_of_leaves {v : Value} (h : ∀ x ∈ v.leaves, refusal? x = none) :
    ∃ t, write v = .ok t := by
  have hnone : failure? (write v) = none := by
    rw [failure?_write]
    exact List.findSome?_eq_none_iff.2 h
  cases hwrite : write v with
  | ok t => exact ⟨t, rfl⟩
  | error e => simp [hwrite] at hnone

/-! ## Causes -/

/-- A leaf has no literal if it is an integer with too many digits or is of a type without literals.
-/
theorem refusal?_of_mem_leaves {v : Value} : ∀ x ∈ v.leaves, refusal? x =
    if x.isTooLong then some (.limit .write) else x.unsupported?.map .unsupported := by
  have hint (n : Int) (x : Value) (hx : x.index? = some n) (hnone : x.unsupported? = none) :
      (if Integer.isTooLong n then some (WriteError.limit .write) else none) =
        if x.isTooLong then some (.limit .write) else x.unsupported?.map .unsupported := by
    rw [Value.isTooLong_of_index? hx, hnone, Option.map_none]
  refine Value.forall_mem_leaves ?_ (fun _ ↦ rfl) v
  intro a
  cases a with
  | int n => exact (refusal?_int n).trans (hint n (.int n) rfl rfl)
  | intMember n => exact (refusal?_int n).trans (hint n (.atom (.intMember n)) rfl rfl)
  | bool b => cases b <;> rfl
  | _ => rfl

/-- A value without integers with too many digits fails to be written if and only if a part of it is
of a type without literals, and the first such part is what it fails with. -/
theorem failure?_write_of_short {v : Value} (h : ∀ x ∈ v.leaves, x.isTooLong = false) :
    failure? (write v) = v.unsupported?.map .unsupported := by
  rw [failure?_write, ← Value.findSome?_leaves, List.map_findSome?]
  refine findSome?_congr ?_
  intro x hx
  rw [refusal?_of_mem_leaves x hx, h x hx, if_neg Bool.false_ne_true, Function.comp_apply]

theorem refusal?_eq_none_iff {v x : Value} (hx : x ∈ v.leaves) :
    refusal? x = none ↔ x.isTooLong = false ∧ x.unsupported? = none := by
  rw [refusal?_of_mem_leaves x hx]
  cases x.isTooLong with
  | true => simp
  | false => simp

theorem refusal?_eq_unsupported_iff {v x : Value} (hx : x ∈ v.leaves) {typeName : Text} :
    refusal? x = some (.unsupported typeName) ↔ x.unsupported? = some typeName := by
  rw [refusal?_of_mem_leaves x hx]
  cases hlong : x.isTooLong with
  | true => simp [Value.unsupported?_of_isTooLong hlong]
  | false => simp

/-- A value fails to be written with a type without literals if and only if its first leaf without a
literal is of this type. -/
theorem write_eq_unsupported_iff {v : Value} {typeName : Text} :
    write v = .error (.unsupported typeName) ↔ ∃ before x after, v.leaves = before ++ x :: after ∧
      x.unsupported? = some typeName ∧
        ∀ y ∈ before, y.isTooLong = false ∧ y.unsupported? = none := by
  rw [← failure?_eq_some_iff, failure?_write, List.findSome?_eq_some_iff]
  refine exists_congr fun before ↦ exists_congr fun x ↦ exists_congr fun after ↦
    and_congr_right fun hleaves ↦ ?_
  have hx : x ∈ v.leaves := hleaves ▸ List.mem_append_right _ List.mem_cons_self
  have hbefore : ∀ y ∈ before, y ∈ v.leaves := fun y hy ↦ hleaves ▸ List.mem_append_left _ hy
  exact and_congr (refusal?_eq_unsupported_iff hx)
    (forall₂_congr fun y hy ↦ refusal?_eq_none_iff (hbefore y hy))

end Literal

end ActorFacade
