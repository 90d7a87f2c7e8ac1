import ActorFacade.Text.Basic
import Mathlib.Data.List.Infix

/-! # Replacement

A text without an occurrence stays as it is, and a code point that does not belong to what is
replaced cuts a text into parts that are replaced by themselves (`replaceAll_append`).
-/

namespace ActorFacade.Text

/-! ## Occurrences -/

theorem cut?_isSome_iff {t part : Text} : (t.cut? part).isSome = true ↔ part <:+: t := by
  induction t with
  | nil =>
    cases part with
    | nil => exact ⟨fun _ ↦ List.nil_infix, fun _ ↦ rfl⟩
    | cons p part => simp [cut?]
  | cons c t ih =>
    rw [List.infix_cons_iff, ← ih, cut?]
    cases hlead : part.isPrefixOf (c :: t) with
    | true => simp [List.isPrefixOf_iff_prefix.1 hlead]
    | false =>
      have hnot : ¬part <+: c :: t := by
        rw [← List.isPrefixOf_iff_prefix, hlead]
        exact Bool.false_ne_true
      simp [hnot]

/-- A text occurs in another if and only if it is a part of it. -/
theorem occursIn_iff {part t : Text} : occursIn part t = true ↔ part <:+: t := cut?_isSome_iff

theorem occursIn_eq_false_iff {part t : Text} : occursIn part t = false ↔ ¬part <:+: t := by
  rw [← occursIn_iff, Bool.not_eq_true]

/-- A text that lacks the first code point of another does not hold it. -/
theorem occursIn_cons_eq_false {c : CodePoint} {old t : Text} (h : c ∉ t) :
    occursIn (c :: old) t = false := by
  rw [occursIn_eq_false_iff]
  exact fun hwithin ↦ h (hwithin.subset List.mem_cons_self)

/-! ## Steps -/

variable {old new : Text}

theorem replaceFrom_skip (s t : Text) :
    replaceFrom old new s.length (s ++ t) = replaceFrom old new 0 t := by
  induction s with
  | nil => rfl
  | cons c s ih => exact ih

/-- An occurrence at the beginning is replaced. -/
theorem replaceAll_of_prefix (hold : old ≠ []) (t : Text) :
    replaceAll (old ++ t) old new = new ++ replaceAll t old new := by
  obtain ⟨c, s, rfl⟩ := List.exists_cons_of_ne_nil hold
  have hlead : (c :: s).isPrefixOf (c :: (s ++ t)) = true :=
    List.isPrefixOf_iff_prefix.2 (List.prefix_append (c :: s) t)
  rw [replaceAll, List.cons_append, replaceFrom, if_pos hlead, List.length_cons,
    Nat.add_sub_cancel, replaceFrom_skip]
  rfl

/-- A code point with which no occurrence begins is kept. -/
theorem replaceAll_cons {c : CodePoint} {t : Text} (h : ¬old <+: c :: t) :
    replaceAll (c :: t) old new = c :: replaceAll t old new := by
  rw [← List.isPrefixOf_iff_prefix] at h
  rw [replaceAll, replaceFrom, if_neg h]
  rfl

/-- A code point that does not belong to what is replaced is kept. -/
theorem replaceAll_cons_of_notMem (hold : old ≠ []) {c : CodePoint} (hc : c ∉ old) (t : Text) :
    replaceAll (c :: t) old new = c :: replaceAll t old new := by
  refine replaceAll_cons ?_
  intro hlead
  obtain ⟨d, s, rfl⟩ := List.exists_cons_of_ne_nil hold
  obtain ⟨rest, hrest⟩ := hlead
  exact hc ((List.cons.inj hrest).1 ▸ List.mem_cons_self)

/-! ## Texts as a whole -/

/-- A text without an occurrence stays as it is. -/
theorem replaceAll_eq_self {t : Text} (h : ¬old <:+: t) : replaceAll t old new = t := by
  induction t with
  | nil => rfl
  | cons c t ih =>
    rw [List.infix_cons_iff, not_or] at h
    rw [replaceAll_cons h.1, ih h.2]

/-- No occurrence reaches over a code point that does not belong to it. -/
theorem prefix_of_prefix_append {a b : Text} (h : ∀ c, b.head? = some c → c ∉ old)
    (hlead : old <+: a ++ b) : old <+: a := by
  obtain ⟨t, ht⟩ := hlead
  rcases List.append_eq_append_iff.1 ht with ⟨rest, ha, -⟩ | ⟨rest, hold, hb⟩
  · exact ⟨rest, ha.symm⟩
  · cases rest with
    | nil => exact ⟨[], by simpa using hold⟩
    | cons c rest =>
      refine absurd ?_ (h c (by simp [hb]))
      simp [hold]

/-- Texts are replaced by themselves where the second one begins with a code point that does not
belong to what is replaced. -/
theorem replaceAll_append {a b : Text} (hold : old ≠ [])
    (h : ∀ c, b.head? = some c → c ∉ old) :
    replaceAll (a ++ b) old new = replaceAll a old new ++ replaceAll b old new := by
  induction hlength : a.length using Nat.strong_induction_on generalizing a with
  | _ n ih =>
    cases a with
    | nil => rfl
    | cons c a =>
      by_cases hlead : old <+: c :: a
      · obtain ⟨rest, hrest⟩ := hlead
        have hshort : rest.length < n := by
          have hpos := List.length_pos_iff.2 hold
          rw [← hlength, ← hrest, List.length_append]
          omega
        rw [← hrest, List.append_assoc, replaceAll_of_prefix hold, replaceAll_of_prefix hold,
          ih _ hshort rfl, List.append_assoc]
      · have hnot : ¬old <+: c :: (a ++ b) := fun hp ↦ hlead (prefix_of_prefix_append h hp)
        rw [List.cons_append, replaceAll_cons hnot, replaceAll_cons hlead,
          ih a.length (by rw [← hlength]; exact Nat.lt_succ_self _) rfl, List.cons_append]

/-- Texts are replaced by themselves where the first one ends with a code point that does not belong
to what is replaced. -/
theorem replaceAll_concat_append (hold : old ≠ []) {c : CodePoint} (hc : c ∉ old) (a b : Text) :
    replaceAll (a ++ [c] ++ b) old new =
      replaceAll (a ++ [c]) old new ++ replaceAll b old new := by
  have hhead : ∀ {t : Text} (d : CodePoint), (c :: t).head? = some d → d ∉ old := by
    rintro t _ ⟨⟩
    exact hc
  rw [List.append_assoc, List.singleton_append, replaceAll_append hold hhead,
    replaceAll_append hold hhead, replaceAll_cons_of_notMem hold hc,
    replaceAll_cons_of_notMem hold hc, replaceAll_nil, List.append_assoc, List.singleton_append]

end ActorFacade.Text
