import ActorFacade.Text.Basic
import Mathlib.Data.List.Infix

/-! # Joined texts

Behind the first of some joined texts every other one stands behind the separator.
-/

namespace ActorFacade.Text

@[simp] theorem join_singleton (sep t : Text) : join sep [t] = t := by simp [join]

theorem join_cons_cons (sep t u : Text) (ts : List Text) :
    join sep (t :: u :: ts) = t ++ sep ++ join sep (u :: ts) :=
  List.intercalate_cons_cons

theorem join_cons (sep t : Text) (ts : List Text) :
    join sep (t :: ts) = t ++ ts.flatMap (sep ++ ·) := by
  induction ts generalizing t with
  | nil => simp [join]
  | cons u ts ih =>
    rw [join_cons_cons, ih, List.flatMap_cons, List.append_assoc, List.append_assoc]

/-- One more text at the end stands behind the separator. -/
theorem join_concat {sep : Text} {ts : List Text} (hne : ts ≠ []) (t : Text) :
    join sep (ts ++ [t]) = join sep ts ++ sep ++ t := by
  obtain ⟨u, ts, rfl⟩ := List.exists_cons_of_ne_nil hne
  rw [List.cons_append, join_cons, join_cons, List.flatMap_append, List.flatMap_singleton,
    List.append_assoc, List.append_assoc]

/-- Separators behind some texts and one in front of all are separators in front of them and one
behind all. -/
theorem append_flatMap (sep : Text) (ts : List Text) :
    sep ++ ts.flatMap (· ++ sep) = ts.flatMap (sep ++ ·) ++ sep := by
  induction ts with
  | nil => rw [List.flatMap_nil, List.flatMap_nil, List.append_nil, List.nil_append]
  | cons t ts ih =>
    rw [List.flatMap_cons, List.flatMap_cons, List.append_assoc, ih, List.append_assoc,
      List.append_assoc]

/-- The beginning of some joined texts is the beginning of the whole. -/
theorem join_prefix (sep : Text) (ts us : List Text) : join sep ts <+: join sep (ts ++ us) := by
  cases ts with
  | nil => exact List.nil_prefix
  | cons t ts =>
    rw [List.cons_append, join_cons, join_cons, List.flatMap_append, ← List.append_assoc]
    exact List.prefix_append _ _

/-- Each of some joined texts is a part of the whole. -/
theorem infix_join {sep t : Text} {ts : List Text} (h : t ∈ ts) : t <:+: join sep ts := by
  cases ts with
  | nil => cases h
  | cons u ts =>
    rw [join_cons]
    rcases List.mem_cons.1 h with rfl | h
    · exact (List.prefix_append _ _).isInfix
    · obtain ⟨before, after, rfl⟩ := List.append_of_mem h
      refine ⟨u ++ before.flatMap (sep ++ ·) ++ sep, after.flatMap (sep ++ ·), ?_⟩
      simp [List.append_assoc]

end ActorFacade.Text
