import Mathlib.Data.List.Nodup

/-! # First places

Keeping each element of a list once, where it stands first, is said without a function:
`AreFirsts kept all` determines `kept`, and `List.eraseDups` does it (`areFirsts_eraseDups`).  Where
no two elements have one key, the first element of a key is any element of it
(`find?_key_eq_some_iff`).
-/

namespace ActorFacade

variable {α : Type} [BEq α] [LawfulBEq α]

/-- Some elements are those of a list, each once and in the order of their first places. -/
structure AreFirsts (kept all : List α) : Prop where
  nodup : kept.Nodup
  mem_iff : ∀ x, x ∈ kept ↔ x ∈ all
  order : kept.Pairwise fun x y ↦ all.idxOf x < all.idxOf y

theorem idxOf_cons_of_ne {c x : α} (h : c ≠ x) (xs : List α) :
    (c :: xs).idxOf x = xs.idxOf x + 1 := by
  rw [List.idxOf_cons, beq_eq_false_iff_ne.2 h, cond_false]

/-- Leaving out other elements does not change which of two comes first. -/
theorem idxOf_lt_of_filter {p : α → Bool} {xs : List α} {x y : α} (hx : p x = true)
    (hy : p y = true) (h : (xs.filter p).idxOf x < (xs.filter p).idxOf y) :
    xs.idxOf x < xs.idxOf y := by
  induction xs with
  | nil => simp at h
  | cons c xs ih =>
    by_cases hc : p c = true
    · rw [List.filter_cons_of_pos hc] at h
      by_cases hcy : c = y
      · rw [hcy, List.idxOf_cons_self] at h
        cases h
      by_cases hcx : c = x
      · rw [hcx, List.idxOf_cons_self, idxOf_cons_of_ne (hcx ▸ hcy)]
        exact Nat.succ_pos _
      · rw [idxOf_cons_of_ne hcx, idxOf_cons_of_ne hcy] at h ⊢
        exact Nat.succ_lt_succ (ih (Nat.lt_of_succ_lt_succ h))
    · have hcx : c ≠ x := fun he ↦ hc (he ▸ hx)
      have hcy : c ≠ y := fun he ↦ hc (he ▸ hy)
      rw [List.filter_cons_of_neg hc] at h
      rw [idxOf_cons_of_ne hcx, idxOf_cons_of_ne hcy]
      exact Nat.succ_lt_succ (ih h)

theorem areFirsts_eraseDups : (xs : List α) → AreFirsts xs.eraseDups xs
  | [] => ⟨.nil, fun _ ↦ List.mem_eraseDups, .nil⟩
  | a :: xs => by
    have hrest := areFirsts_eraseDups (xs.filter fun b ↦ !b == a)
    have hne : ∀ b ∈ (xs.filter fun b ↦ !b == a).eraseDups, b ≠ a := by
      intro b hb
      rw [List.mem_eraseDups, List.mem_filter] at hb
      simpa using hb.2
    refine ⟨?_, fun x ↦ List.mem_eraseDups, ?_⟩ <;> rw [List.eraseDups_cons]
    · exact List.nodup_cons.2 ⟨fun ha ↦ hne a ha rfl, hrest.nodup⟩
    · refine List.pairwise_cons.2 ⟨?_, ?_⟩
      · intro b hb
        rw [List.idxOf_cons_self, idxOf_cons_of_ne (hne b hb).symm]
        exact Nat.succ_pos _
      · refine hrest.order.imp_of_mem ?_
        intro b c hb hc hlt
        rw [idxOf_cons_of_ne (hne b hb).symm, idxOf_cons_of_ne (hne c hc).symm]
        refine Nat.succ_lt_succ (idxOf_lt_of_filter ?_ ?_ hlt)
        · simpa using hne b hb
        · simpa using hne c hc
termination_by xs => xs.length
decreasing_by exact Nat.lt_succ_of_le (List.length_filter_le _ _)

/-- One more element is kept at the end unless it is there already. -/
theorem eraseDups_concat (xs : List α) (x : α) :
    (xs ++ [x]).eraseDups = if x ∈ xs then xs.eraseDups else xs.eraseDups ++ [x] := by
  rw [List.eraseDups_append, List.cons_removeAll, List.nil_removeAll]
  by_cases hx : x ∈ xs
  · rw [if_pos hx, if_neg (by simpa using hx), List.eraseDups_nil, List.append_nil]
  · rw [if_neg hx, if_pos (by simpa using hx), List.eraseDups_cons, List.filter_nil,
      List.eraseDups_nil]

/-- An element with a new key repeats no key. -/
theorem nodup_map_append_single {β γ : Type} {f : β → γ} {xs : List β} {x : β}
    (h : (xs.map f).Nodup) (hx : f x ∉ xs.map f) : ((xs ++ [x]).map f).Nodup := by
  rw [List.map_append, List.map_singleton, ← List.concat_eq_append]
  exact h.concat hx

/-- An element of a list without repeated keys is the first one of its key. -/
theorem find?_key_eq_some_iff {β : Type} {f : β → α} {xs : List β} (h : (xs.map f).Nodup) {key : α}
    {x : β} : xs.find? (fun y ↦ f y == key) = some x ↔ x ∈ xs ∧ f x = key := by
  constructor
  · intro hfind
    exact ⟨List.mem_of_find?_eq_some hfind, by simpa using List.find?_some hfind⟩
  · rintro ⟨hmem, rfl⟩
    cases hfind : xs.find? fun y ↦ f y == f x with
    | none => exact absurd (beq_self_eq_true (f x)) (List.find?_eq_none.1 hfind x hmem)
    | some y =>
      have hkey : f y = f x := by simpa using List.find?_some hfind
      rw [List.inj_on_of_nodup_map h (List.mem_of_find?_eq_some hfind) hmem hkey]

/-- The same for pairs whose first component is the key. -/
theorem find?_fst_eq_some_iff {β : Type} {xs : List (α × β)} (h : (xs.map (·.1)).Nodup) {key : α}
    {x : α × β} : xs.find? (fun y ↦ y.1 == key) = some x ↔ x ∈ xs ∧ x.1 = key :=
  find?_key_eq_some_iff h

/-- What is found first depends on what is found at the elements of the list only. -/
theorem findSome?_congr {β γ : Type} {f g : β → Option γ} {xs : List β}
    (h : ∀ x ∈ xs, f x = g x) : xs.findSome? f = xs.findSome? g := by
  induction xs with
  | nil => rfl
  | cons x xs ih =>
    obtain ⟨hx, hxs⟩ := List.forall_mem_cons.1 h
    rw [List.findSome?_cons, List.findSome?_cons, hx, ih hxs]

end ActorFacade
