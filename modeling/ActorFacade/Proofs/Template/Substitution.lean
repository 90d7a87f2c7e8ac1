import ActorFacade.Proofs.Text.Replacement
import ActorFacade.Template.Substitution

/-! # Substitution in segments

Two opening braces begin a placeholder and stand nowhere else in a sound template, so substitution
in its text is substitution segment by segment (`substitute_sourceOf`).
-/

namespace ActorFacade.Template

/-- What placeholders begin with. -/
def opening : Text := [0x7B, 0x7B]

/-! ## Placeholders -/

theorem placeholder_eq (name : Text) :
    placeholder name = 0x7B :: 0x7B :: (name ++ [0x7D, 0x7D]) := rfl

theorem placeholder_ne_nil (name : Text) : placeholder name ≠ [] := List.cons_ne_nil _ _

theorem opening_prefix_placeholder (name : Text) : opening <+: placeholder name :=
  ⟨name ++ [0x7D, 0x7D], rfl⟩

/-- A name ends where the closing braces begin. -/
theorem eq_of_prefix_placeholder {m n t : Text} (hm : IsBraceFree m) (hn : IsBraceFree n)
    (h : placeholder m <+: placeholder n ++ t) : m = n := by
  have hspan : ∀ {name rest : Text}, IsBraceFree name →
      (name ++ 0x7D :: rest).takeWhile (· != 0x7D) = name := by
    intro name rest hname
    rw [List.takeWhile_append_of_pos]
    · simp
    · intro c hc
      have hne : c ≠ 0x7D := fun he ↦ hname.2 (he ▸ hc)
      simpa using hne
  obtain ⟨rest, hrest⟩ := h
  simp only [placeholder_eq, List.cons_append, List.append_assoc, List.cons.injEq, true_and,
    List.nil_append] at hrest
  rw [← hspan hm, hrest, hspan hn]

/-- Behind the first brace of a placeholder no placeholder begins. -/
theorem not_opening_infix_tail {name : Text} (h : IsBraceFree name) :
    ¬opening <:+: 0x7B :: (name ++ [0x7D, 0x7D]) := by
  have hrest : ¬opening <:+: name ++ [0x7D, 0x7D] := by
    intro hwithin
    have hmem : 0x7B ∈ name ++ [0x7D, 0x7D] := hwithin.subset (by simp [opening])
    rw [List.mem_append] at hmem
    exact hmem.elim h.1 (by decide)
  rw [List.infix_cons_iff, not_or]
  refine ⟨?_, hrest⟩
  intro hprefix
  obtain ⟨rest, hcons⟩ := hprefix
  have htail : 0x7B :: rest = name ++ [0x7D, 0x7D] := (List.cons.inj hcons).2
  have hmem : 0x7B ∈ name ++ [0x7D, 0x7D] := htail ▸ List.mem_cons_self
  rw [List.mem_append] at hmem
  exact hmem.elim h.1 (by decide)

/-! ## Substitution step by step -/

variable {values : List (Text × Text)}

theorem substituteFrom_skip (s t : Text) :
    substituteFrom values s.length (s ++ t) = substituteFrom values 0 t := by
  induction s with
  | nil => rfl
  | cons c s ih => exact ih

/-- Where no opening braces stand no placeholder begins. -/
theorem leading?_eq_none {t : Text} (h : ¬opening <+: t) : leading? values t = none := by
  refine List.find?_eq_none.2 ?_
  intro nv _
  rw [List.isPrefixOf_iff_prefix]
  exact fun hprefix ↦ h ((opening_prefix_placeholder _).trans hprefix)

/-- A placeholder is the only one that begins where it does. -/
theorem leading?_placeholder (hvalues : ∀ nv ∈ values, IsBraceFree nv.1) {name : Text}
    (hname : IsBraceFree name) (t : Text) :
    leading? values (placeholder name ++ t) = values.find? fun nv ↦ nv.1 == name := by
  induction values with
  | nil => rfl
  | cons nv values ih =>
    obtain ⟨hnv, hvalues⟩ := List.forall_mem_cons.1 hvalues
    have hiff : (placeholder nv.1).isPrefixOf (placeholder name ++ t) = (nv.1 == name) := by
      rw [Bool.eq_iff_iff, List.isPrefixOf_iff_prefix, beq_iff_eq]
      constructor
      · exact eq_of_prefix_placeholder hnv hname
      · rintro rfl
        exact List.prefix_append _ _
    rw [leading?, List.find?_cons, List.find?_cons, hiff, ← leading?, ih hvalues]

theorem substitute_cons {c : CodePoint} {t : Text} (h : ¬opening <+: c :: t) :
    substitute values (c :: t) = c :: substitute values t := by
  rw [substitute, substituteFrom, leading?_eq_none h]
  rfl

/-- A text without placeholders stays as it is. -/
theorem substitute_text {t rest : Text} (h : ¬opening <:+: t)
    (hend : t.getLast? = some 0x7B → rest.head? ≠ some 0x7B) :
    substitute values (t ++ rest) = t ++ substitute values rest := by
  induction t with
  | nil => rfl
  | cons c t ih =>
    rw [List.infix_cons_iff, not_or] at h
    have hlead : ¬opening <+: c :: (t ++ rest) := by
      rintro ⟨more, hmore⟩
      obtain ⟨rfl, hrest⟩ := List.cons.inj hmore
      have hrest : 0x7B :: more = t ++ rest := hrest
      cases t with
      | nil => exact hend rfl (congrArg List.head? hrest.symm)
      | cons d t =>
        obtain rfl : 0x7B = d := (List.cons.inj hrest).1
        exact h.1 ⟨t, rfl⟩
    rw [List.cons_append, substitute_cons hlead, List.cons_append, ih h.2]
    intro hlast
    refine hend ?_
    cases t with
    | nil => cases hlast
    | cons d t => rwa [List.getLast?_cons_cons]

/-- A placeholder gives way to its value, if it has one. -/
theorem substitute_placeholder (hvalues : ∀ nv ∈ values, IsBraceFree nv.1) {name : Text}
    (hname : IsBraceFree name) (rest : Text) :
    substitute values (placeholder name ++ rest) =
      Segment.filled values (.placeholder name) ++ substitute values rest := by
  have hlead := leading?_placeholder hvalues hname rest
  rw [placeholder_eq, List.cons_append] at hlead
  rw [substitute, placeholder_eq, List.cons_append, substituteFrom, hlead, Segment.filled]
  cases hfind : values.find? fun nv ↦ nv.1 == name with
  | some nv =>
    obtain rfl : nv.1 = name := by simpa using List.find?_some hfind
    simp only [Option.map_some, Option.getD_some]
    rw [placeholder_eq, List.length_cons, Nat.add_sub_cancel, substituteFrom_skip]
    rfl
  | none =>
    simp only [Option.map_none, Option.getD_none]
    rw [placeholder_eq, List.cons_append]
    congr 1
    refine substitute_text (not_opening_infix_tail hname) ?_
    rw [← List.singleton_append, List.getLast?_append]
    simp

/-! ## Segments -/

instance decidableIsSoundText (isBefore : Bool) (t : Text) : Decidable (IsSoundText isBefore t) :=
  inferInstanceAs (Decidable (_ ∧ _))

instance decidableIsBraceFree (t : Text) : Decidable (IsBraceFree t) :=
  inferInstanceAs (Decidable (_ ∧ _))

instance decidableAreSound : ∀ segments, Decidable (AreSound segments)
  | [] => .isTrue trivial
  | [.text t] => decidableIsSoundText false t
  | .text t :: .placeholder name :: rest =>
    have := decidableAreSound rest
    inferInstanceAs (Decidable (IsSoundText true t ∧ IsBraceFree name ∧ AreSound rest))
  | .placeholder _ :: _ => .isFalse id
  | .text _ :: .text _ :: _ => .isFalse id

theorem IsSoundText.not_infix {isBefore : Bool} {t : Text} (h : IsSoundText isBefore t) :
    ¬opening <:+: t := Text.occursIn_eq_false_iff.1 h.1

/-- A template is its own text without values. -/
theorem sourceOf_eq_filledOf (segments : List Segment) :
    sourceOf segments = filledOf [] segments := by
  refine congrArg (segments.flatMap ·) (funext ?_)
  rintro (t | name) <;> rfl

/-- Substitution in the text of segments fills them one by one. -/
theorem substitute_sourceOf (hvalues : ∀ nv ∈ values, IsBraceFree nv.1) :
    ∀ {segments : List Segment}, AreSound segments →
      substitute values (sourceOf segments) = filledOf values segments
  | [], _ => rfl
  | [.text t], h => by
    have htext : substitute values (t ++ []) = t ++ substitute values [] :=
      substitute_text h.not_infix (by simp)
    simpa [sourceOf, filledOf, Segment.source, Segment.filled] using htext
  | .text t :: .placeholder name :: rest, ⟨ht, hname, hrest⟩ => by
    have hsource : sourceOf (.text t :: .placeholder name :: rest) =
        t ++ (placeholder name ++ sourceOf rest) := rfl
    rw [hsource, substitute_text ht.not_infix fun hlast ↦ absurd hlast (ht.2 rfl),
      substitute_placeholder hvalues hname, substitute_sourceOf hvalues hrest]
    rfl
  | .placeholder _ :: _, h => h.elim
  | .text _ :: .text _ :: _, h => h.elim

/-- What is filled in for a segment is a part of the text. -/
theorem filled_infix_filledOf (values : List (Text × Text)) {segments : List Segment}
    {segment : Segment} (h : segment ∈ segments) :
    segment.filled values <:+: filledOf values segments := by
  obtain ⟨before, after, rfl⟩ := List.append_of_mem h
  refine ⟨filledOf values before, filledOf values after, ?_⟩
  simp [filledOf]

end ActorFacade.Template
