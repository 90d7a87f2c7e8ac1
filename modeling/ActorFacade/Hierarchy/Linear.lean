/-! # Merging orders

Several lists, each an order that has to be kept, are merged into one: again and again the first
head that no list still has further back is taken.  Where every head stands further back in some
list there is no common order, and these heads are in conflict.
-/

namespace ActorFacade.Linear

-- The empty sum is the built-in zero.
attribute [local instance (high)] Zero.ofOfNat0

variable {α : Type} [DecidableEq α]

/-- Whether an item stands in one of the lists behind its head. -/
def isBehind (x : α) (lists : List (List α)) : Bool := lists.any fun l ↦ l.tail.contains x

/-- The item that a merge takes first. -/
def next? (lists : List (List α)) : Option α :=
  (lists.filterMap List.head?).find? fun x ↦ !isBehind x lists

/-- A list without its head, if that is a given item. -/
def dropHead (x : α) : List α → List α
  | [] => []
  | y :: l => if y = x then l else y :: l

/-- Lists without their heads, where those are a given item. -/
def dropHeads (x : α) (lists : List (List α)) : List (List α) := lists.map (dropHead x)

/-- The number of items in some lists. -/
def size (lists : List (List α)) : Nat := (lists.map List.length).sum

theorem length_dropHead_le (x : α) (l : List α) : (dropHead x l).length ≤ l.length := by
  cases l with
  | nil => simp [dropHead]
  | cons y l =>
    simp only [dropHead]
    split <;> simp

theorem size_dropHead_le (x : α) (lists : List (List α)) :
    size (dropHeads x lists) ≤ size lists := by
  induction lists with
  | nil => simp [size, dropHeads]
  | cons l lists ih =>
    have := length_dropHead_le x l
    simp only [size, dropHeads, List.map_cons, List.sum_cons] at ih ⊢
    omega

theorem size_dropHead_lt {x : α} {lists : List (List α)}
    (h : x ∈ lists.filterMap List.head?) : size (dropHeads x lists) < size lists := by
  induction lists with
  | nil => simp at h
  | cons l lists ih =>
    have hle := size_dropHead_le x lists
    have hl := length_dropHead_le x l
    simp only [size, dropHeads, List.map_cons, List.sum_cons] at ih hle ⊢
    cases l with
    | nil =>
      simp only [List.filterMap_cons, List.head?_nil] at h
      have := ih h
      omega
    | cons y l =>
      simp only [List.filterMap_cons, List.head?_cons, List.mem_cons] at h
      rcases h with rfl | h
      · simp only [dropHead, if_true, List.length_cons]
        omega
      · have := ih h
        omega

/-- One list that has the items of all lists and keeps their orders, or the heads in conflict. -/
def merge (lists : List (List α)) : Except (List α) (List α) :=
  if size lists = 0 then .ok []
  else
    match _h : next? lists with
    | none => .error (lists.filterMap List.head?).eraseDups
    | some x => (merge (dropHeads x lists)).map (x :: ·)
termination_by size lists
decreasing_by exact size_dropHead_lt (List.mem_of_find?_eq_some _h)

end ActorFacade.Linear
