import ActorFacade.Proofs.Text.Join
import ActorFacade.Proofs.Text.Replacement
import ActorFacade.Text.Blank

/-! # Occurrences in parts of texts

A text does not occur across a code point that it lacks.  So it occurs in joined texts if and only
if it occurs in one of them (`infix_join_iff`), and taking off code points that it lacks at the ends
loses no occurrence and makes none (`infix_trim_iff`).
-/

namespace ActorFacade.Text

variable {part : Text}

theorem infix_append_cons_iff {c : CodePoint} (hc : c ∉ part) {a b : Text} :
    part <:+: a ++ c :: b ↔ part <:+: a ∨ part <:+: b := by
  constructor
  · intro h
    rcases List.infix_append_iff.1 h with ha | hb | ⟨front, back, rfl, hfront, hback⟩
    · exact .inl ha
    · rcases List.infix_cons_iff.1 hb with hprefix | hb
      · cases part with
        | nil => exact .inr List.nil_infix
        | cons d part => exact absurd ((List.cons_prefix_cons.1 hprefix).1 ▸ List.mem_cons_self) hc
      · exact .inr hb
    · cases back with
      | nil =>
        rw [List.append_nil]
        exact .inl hfront.isInfix
      | cons d back =>
        obtain ⟨rfl, -⟩ := List.cons_prefix_cons.1 hback
        exact absurd (List.mem_append_right _ List.mem_cons_self) hc
  · rintro (h | h)
    · exact h.trans (List.prefix_append _ _).isInfix
    · exact h.trans ((List.suffix_cons _ _).trans (List.suffix_append _ _)).isInfix

section NonEmpty

variable (hpart : part ≠ [])

include hpart

theorem infix_cons_iff_of_notMem {c : CodePoint} (hc : c ∉ part) {t : Text} :
    part <:+: c :: t ↔ part <:+: t := by
  rw [← List.nil_append (c :: t), infix_append_cons_iff hc, List.infix_nil]
  exact or_iff_right hpart

theorem infix_append_iff_of_notMem {lead : Text} (hlead : ∀ c ∈ lead, c ∉ part) {t : Text} :
    part <:+: lead ++ t ↔ part <:+: t := by
  induction lead with
  | nil => rfl
  | cons c lead ih =>
    obtain ⟨hc, hlead⟩ := List.forall_mem_cons.1 hlead
    rw [List.cons_append, infix_cons_iff_of_notMem hpart hc, ih hlead]

theorem infix_append_append_iff {sep : Text} (hsep : ∀ c ∈ sep, c ∉ part) (hne : sep ≠ [])
    {a b : Text} : part <:+: a ++ (sep ++ b) ↔ part <:+: a ∨ part <:+: b := by
  obtain ⟨c, sep, rfl⟩ := List.exists_cons_of_ne_nil hne
  obtain ⟨hc, hsep⟩ := List.forall_mem_cons.1 hsep
  rw [List.cons_append, infix_append_cons_iff hc, infix_append_iff_of_notMem hpart hsep]

/-- A text occurs in joined texts if and only if it occurs in one of them. -/
theorem infix_join_iff {sep : Text} (hsep : ∀ c ∈ sep, c ∉ part) (hne : sep ≠ [])
    {ts : List Text} : part <:+: join sep ts ↔ ∃ t ∈ ts, part <:+: t := by
  induction ts with
  | nil => simpa [join] using hpart
  | cons t ts ih =>
    cases ts with
    | nil => simp [join]
    | cons u us =>
      rw [join_cons_cons, List.append_assoc, infix_append_append_iff hpart hsep hne, ih,
        List.exists_mem_cons_iff _ t]

/-! ## Ends -/

theorem infix_dropWhile_iff {p : CodePoint → Bool} (hp : ∀ c ∈ part, p c = false) {t : Text} :
    part <:+: t.dropWhile p ↔ part <:+: t := by
  induction t with
  | nil => rfl
  | cons c t ih =>
    rw [List.dropWhile_cons]
    split
    case isTrue hc =>
      have hnot : c ∉ part := fun hmem ↦ Bool.false_ne_true ((hp c hmem).symm.trans hc)
      rw [ih, infix_cons_iff_of_notMem hpart hnot]
    case isFalse => rfl

theorem infix_dropRightWhile_iff {p : CodePoint → Bool} (hp : ∀ c ∈ part, p c = false)
    {t : Text} : part <:+: dropRightWhile p t ↔ part <:+: t := by
  have hreverse : part.reverse <:+: t.reverse.dropWhile p ↔ part.reverse <:+: t.reverse :=
    infix_dropWhile_iff (by simpa using hpart) (by simpa using hp)
  rw [dropRightWhile, ← List.reverse_infix, List.reverse_reverse, hreverse, List.reverse_infix]

/-- A text without blanks occurs between the blanks at the ends. -/
theorem infix_trim_iff (hblank : ∀ c ∈ part, isBlank c = false) {t : Text} :
    part <:+: t.trim ↔ part <:+: t :=
  (infix_dropRightWhile_iff hpart hblank).trans (infix_dropWhile_iff hpart hblank)

/-- A text that is not blank does not occur in a blank one. -/
theorem not_infix_of_isAllBlank (hblank : ∀ c ∈ part, isBlank c = false) {t : Text}
    (ht : t.isAllBlank = true) : ¬part <:+: t := by
  intro h
  obtain ⟨c, hc⟩ := List.exists_mem_of_ne_nil part hpart
  have hall := List.all_eq_true.1 ht c (h.subset hc)
  exact Bool.false_ne_true ((hblank c hc).symm.trans hall)

end NonEmpty

end ActorFacade.Text
