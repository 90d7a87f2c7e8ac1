import ActorFacade.Proofs.Except
import ActorFacade.Value.Display

/-! # Values that cannot be shown

A value can be shown in messages unless an integer in it has too many digits, wherever it is
(`failure?_shown`).
-/

namespace ActorFacade

namespace Integer

theorem failure?_write (n : Int) :
    failure? (write n) = if isTooLong n then some .write else none := by
  unfold write
  cases isTooLong n <;> rfl

theorem write_eq_error_iff {n : Int} {e : LimitError} :
    write n = .error e ↔ isTooLong n = true ∧ e = .write := by
  rw [← failure?_eq_some_iff, failure?_write, Option.ite_none_right_eq_some, Option.some_inj,
    eq_comm (a := e)]

end Integer

namespace Value

mutual
/-- The integers in a value in the order in which they are shown. -/
def integers : Value → List Int
  | .atom (.int n) | .atom (.intMember n) => [n]
  | .atom _ => []
  | .list xs | .tuple xs | .set xs => integersOfAll xs
  | .dict es | .mapping es => integersOfEntries es

/-- The integers in some values. -/
def integersOfAll : List Value → List Int
  | [] => []
  | x :: xs => x.integers ++ integersOfAll xs

/-- The integers in some entries. -/
def integersOfEntries : List (Value × Value) → List Int
  | [] => []
  | (k, v) :: es => k.integers ++ (v.integers ++ integersOfEntries es)
end

/-- Why the first of some integers that cannot be written cannot be. -/
def limit? (ns : List Int) : Option Integer.LimitError :=
  ns.findSome? fun n ↦ failure? (Integer.write n)

theorem limit?_append (ns ms : List Int) : limit? (ns ++ ms) = (limit? ns).or (limit? ms) :=
  List.findSome?_append

theorem limit?_singleton (n : Int) : limit? [n] = failure? (Integer.write n) := by
  rw [limit?, List.findSome?_singleton]

/-- Integers cannot be written if and only if one of them has too many digits. -/
theorem limit?_eq_some_iff {ns : List Int} {e : Integer.LimitError} :
    limit? ns = some e ↔ (∃ n ∈ ns, Integer.isTooLong n = true) ∧ e = .write := by
  constructor
  · intro h
    obtain ⟨n, hn, hwrite⟩ := List.exists_of_findSome?_eq_some h
    obtain ⟨hlong, rfl⟩ := Integer.write_eq_error_iff.1 (failure?_eq_some_iff.1 hwrite)
    exact ⟨⟨n, hn, hlong⟩, rfl⟩
  · rintro ⟨⟨n, hn, hlong⟩, rfl⟩
    have hwrite := failure?_eq_some_iff.2 (Integer.write_eq_error_iff.2 ⟨hlong, rfl⟩)
    cases hlimit : limit? ns with
    | none =>
      rw [List.findSome?_eq_none_iff.1 hlimit n hn] at hwrite
      cases hwrite
    | some e =>
      obtain ⟨m, -, hm⟩ := List.exists_of_findSome?_eq_some hlimit
      rw [(Integer.write_eq_error_iff.1 (failure?_eq_some_iff.1 hm)).2]

mutual
theorem failure?_shown : ∀ v, failure? (shown v) = limit? v.integers
  | .atom a => by
    cases a with
    | int n | intMember n => exact (limit?_singleton n).symm
    | bool b => cases b <;> rfl
    | enclosing kind => cases kind <;> rfl
    | _ => rfl
  | .list xs => by
    rw [shown, integers, ← failure?_shownAll]
    exact failure?_bind_ok _ _
  | .tuple [x] => by
    rw [shown, integers, integersOfAll, integersOfAll, List.append_nil, ← failure?_shown]
    exact failure?_bind_ok _ _
  | .tuple [] => rfl
  | .tuple (x :: y :: xs) => by
    rw [shown, integers, ← failure?_shownAll]
    · exact failure?_bind_ok _ _
    · nofun
  | .set [] => rfl
  | .set (x :: xs) => by
    rw [shown, integers, ← failure?_shownAll]
    · exact failure?_bind_ok _ _
    · nofun
  | .dict es | .mapping es => by
    rw [shown, integers, ← failure?_shownEntries]
    exact failure?_bind_ok _ _

theorem failure?_shownAll : ∀ xs, failure? (shownAll xs) = limit? (integersOfAll xs)
  | [] => rfl
  | x :: xs => by
    rw [shownAll, integersOfAll, limit?_append, ← failure?_shown, ← failure?_shownAll]
    exact failure?_bind_bind _ _ List.cons

theorem failure?_shownEntries : ∀ es, failure? (shownEntries es) = limit? (integersOfEntries es)
  | [] => rfl
  | (k, v) :: es => by
    rw [shownEntries, integersOfEntries, limit?_append, limit?_append, ← failure?_shown,
      ← failure?_shown, ← failure?_shownEntries]
    cases shown k with
    | error e => rfl
    | ok key => exact failure?_bind_bind _ _ fun value rest ↦ (key ++ ": " ++ value) :: rest
end

/-- A value on its own can be shown if and only if it can be shown inside other values. -/
theorem failure?_display (v : Value) : failure? v.display = limit? v.integers := by
  unfold display
  split
  case h_1 | h_2 | h_3 | h_4 => rfl
  case h_5 es =>
    have hintegers : integers (.mapping es) = integers (.dict es) := by rw [integers, integers]
    rw [failure?_shown, hintegers]
  case h_6 => exact failure?_shown _

theorem shown_eq_error_iff {v : Value} {e : Integer.LimitError} : shown v = .error e ↔
    (∃ n ∈ v.integers, Integer.isTooLong n = true) ∧ e = .write := by
  rw [← failure?_eq_some_iff, failure?_shown, limit?_eq_some_iff]

theorem display_eq_error_iff {v : Value} {e : Integer.LimitError} : v.display = .error e ↔
    (∃ n ∈ v.integers, Integer.isTooLong n = true) ∧ e = .write := by
  rw [← failure?_eq_some_iff, failure?_display, limit?_eq_some_iff]

end Value

end ActorFacade
