import ActorFacade.Operation
import ActorFacade.Registry

/-! # Expansion

The methods that a table stands for: every operation has its variants, and of the variants with one
action name the first is kept.
-/

namespace ActorFacade.Actor

/-- What identifies a method of an actor. -/
structure MethodKey where
  /-- The name of the method. -/
  action : Text
  /-- The operation. -/
  operation : Text
  /-- The kind of step that it takes. -/
  role : Role
  /-- The module. -/
  module : Text
deriving DecidableEq, Repr

namespace MethodKey

/-- The methods that one row of a table stands for. -/
def ofRow (row : Text × Text) : List MethodKey :=
  (Operation.variants row.1).map fun v ↦ ⟨v.action, row.1, v.role, row.2⟩

/-- Keeps the first method of each name; `taken` names are left out. -/
def keepFirst (taken : List Text) : List MethodKey → List MethodKey
  | [] => []
  | m :: ms =>
    if m.action ∈ taken then keepFirst taken ms else m :: keepFirst (m.action :: taken) ms

/-- The methods that a table stands for. -/
def ofTable (table : ActionTable) : List MethodKey := keepFirst [] (table.flatMap ofRow)

/-- Names that are taken are left out. -/
theorem notMem_of_mem_keepFirst {taken : List Text} {ms : List MethodKey} {m : MethodKey}
    (h : m ∈ keepFirst taken ms) : m.action ∉ taken := by
  induction ms generalizing taken with
  | nil => simp [keepFirst] at h
  | cons n ms ih =>
    unfold keepFirst at h
    split at h
    · exact ih h
    · rcases List.mem_cons.1 h with rfl | h
      · assumption
      · exact fun hm ↦ ih h (List.mem_cons_of_mem _ hm)

/-- No two methods that are kept share a name. -/
theorem nodup_keepFirst (taken : List Text) (ms : List MethodKey) :
    ((keepFirst taken ms).map (·.action)).Nodup := by
  induction ms generalizing taken with
  | nil => simp [keepFirst]
  | cons m ms ih =>
    unfold keepFirst
    split
    · exact ih taken
    · simp only [List.map_cons, List.nodup_cons, List.mem_map, not_exists, not_and]
      refine ⟨fun n hn he ↦ ?_, ih _⟩
      exact notMem_of_mem_keepFirst hn (he ▸ List.mem_cons_self)

end MethodKey

end ActorFacade.Actor
