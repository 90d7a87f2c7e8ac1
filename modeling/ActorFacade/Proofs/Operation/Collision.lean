import ActorFacade.Proofs.Operation
import ActorFacade.Proofs.Text.Replacement

/-! # Checks with one conditional variant

The conditional variants of two checks have different names, unless both check for absence and are
the same up to exchanges of `dont` and `cant` (`conditionalName?_eq_iff`): every `dont` of a name is
replaced, so that a `cant` in its place makes no difference.
-/

namespace ActorFacade.Operation

/-- Two names are the same up to exchanges of `dont` and `cant`. -/
inductive AreAlike : Text → Text → Prop where
  | nil : AreAlike [] []
  | cons (c : CodePoint) {a b : Text} (h : AreAlike a b) : AreAlike (c :: a) (c :: b)
  | exchange {a b : Text} (h : AreAlike a b) :
      AreAlike (Text.ofString "dont" ++ a) (Text.ofString "cant" ++ b)
  | exchangeBack {a b : Text} (h : AreAlike a b) :
      AreAlike (Text.ofString "cant" ++ a) (Text.ofString "dont" ++ b)

/-- Two checks for absence are the same up to exchanges of `dont` and `cant`. -/
def Collide (a b : Text) : Prop := kind a = .absence ∧ kind b = .absence ∧ AreAlike a b

/-! ## Names that are replaced -/

theorem cantName_dont (t : Text) :
    cantName (Text.ofString "dont" ++ t) = Text.ofString "cant" ++ cantName t :=
  Text.replaceAll_of_prefix (by decide) t

/-- Only a `d` can be where something is replaced. -/
theorem cantName_cons {c : CodePoint} (hc : c ≠ 0x64) (t : Text) :
    cantName (c :: t) = c :: cantName t := by
  refine Text.replaceAll_cons ?_
  intro hlead
  exact hc (List.cons_prefix_cons.1 hlead).1.symm

theorem cantName_cant (t : Text) :
    cantName (Text.ofString "cant" ++ t) = Text.ofString "cant" ++ cantName t := by
  show cantName (0x63 :: 0x61 :: 0x6E :: 0x74 :: t) = _
  rw [cantName_cons (by decide), cantName_cons (by decide), cantName_cons (by decide),
    cantName_cons (by decide)]
  rfl

/-- A name begins with a `dont`, or with a letter that is kept. -/
theorem cantName_cases (t : Text) : t = [] ∨ (∃ u, t = Text.ofString "dont" ++ u) ∨
    ∃ c u, t = c :: u ∧ cantName t = c :: cantName u := by
  cases t with
  | nil => exact .inl rfl
  | cons c t =>
    by_cases hlead : Text.ofString "dont" <+: c :: t
    · obtain ⟨u, hu⟩ := hlead
      exact .inr (.inl ⟨u, hu.symm⟩)
    · exact .inr (.inr ⟨c, t, rfl, Text.replaceAll_cons hlead⟩)

/-- A letter that is no `c` was there before. -/
theorem exists_of_cantName_cons {c : CodePoint} (hc : c ≠ 0x63) {t u : Text}
    (h : cantName t = c :: u) : ∃ t', t = c :: t' ∧ cantName t' = u := by
  rcases cantName_cases t with rfl | ⟨t, rfl⟩ | ⟨d, t, rfl, ht⟩
  · cases h
  · rw [cantName_dont] at h
    exact absurd (List.cons.inj h).1.symm hc
  · rw [ht] at h
    obtain ⟨rfl, rfl⟩ := List.cons.inj h
    exact ⟨t, rfl, rfl⟩

/-- So were the letters behind the first one of a `dont` or a `cant`. -/
theorem exists_of_cantName_tail {c : CodePoint} (hc : c ≠ 0x63) {t u : Text}
    (h : cantName t = c :: 0x6E :: 0x74 :: u) :
    ∃ t', t = c :: 0x6E :: 0x74 :: t' ∧ cantName t' = u := by
  obtain ⟨t₁, rfl, h₁⟩ := exists_of_cantName_cons hc h
  obtain ⟨t₂, rfl, h₂⟩ := exists_of_cantName_cons (by decide) h₁
  obtain ⟨t₃, rfl, h₃⟩ := exists_of_cantName_cons (by decide) h₂
  exact ⟨t₃, rfl, h₃⟩

/-! ## Names that become one -/

/-- A name that is replaced like one with a `dont` has a `dont` or a `cant` there. -/
theorem exists_of_cantName_eq_dont {a b : Text} (h : cantName (Text.ofString "dont" ++ a) =
    cantName b) : ∃ b', (b = Text.ofString "dont" ++ b' ∨ b = Text.ofString "cant" ++ b') ∧
      cantName a = cantName b' := by
  rw [cantName_dont] at h
  rcases cantName_cases b with rfl | ⟨b, rfl⟩ | ⟨c, b, rfl, hb⟩
  · cases h
  · rw [cantName_dont] at h
    exact ⟨b, .inl rfl, List.append_cancel_left h⟩
  · rw [hb] at h
    obtain ⟨rfl, htail⟩ := List.cons.inj h
    obtain ⟨b', rfl, hb'⟩ := exists_of_cantName_tail (by decide) htail.symm
    exact ⟨b', .inr rfl, hb'.symm⟩

/-- A letter in front of names that become one makes no difference, even if a `dont` begins with
it. -/
theorem cantName_cons_congr {a b : Text} (h : cantName a = cantName b) (c : CodePoint) :
    cantName (c :: a) = cantName (c :: b) := by
  have hdont : ∀ {a b : Text}, cantName a = cantName b → Text.ofString "dont" <+: c :: a →
      cantName (c :: a) = cantName (c :: b) := by
    rintro a b h ⟨a', ha⟩
    obtain ⟨rfl, rfl⟩ := List.cons.inj ha
    have htail : cantName (0x6F :: 0x6E :: 0x74 :: a') = 0x6F :: 0x6E :: 0x74 :: cantName a' := by
      rw [cantName_cons (by decide), cantName_cons (by decide), cantName_cons (by decide)]
    obtain ⟨b', rfl, hb'⟩ := exists_of_cantName_tail (by decide) (h.symm.trans htail)
    show cantName (Text.ofString "dont" ++ a') = cantName (Text.ofString "dont" ++ b')
    rw [cantName_dont, cantName_dont, hb']
  by_cases ha : Text.ofString "dont" <+: c :: a
  · exact hdont h ha
  by_cases hb : Text.ofString "dont" <+: c :: b
  · exact (hdont h.symm hb).symm
  · rw [cantName, cantName, Text.replaceAll_cons ha, Text.replaceAll_cons hb]
    exact congrArg (c :: ·) h

namespace AreAlike

variable {a b : Text}

theorem append (s : Text) (h : AreAlike a b) : AreAlike (s ++ a) (s ++ b) := by
  induction s with
  | nil => exact h
  | cons c s ih => exact .cons c ih

/-- Names without `cant` are the same if they are alike. -/
theorem eq_of_cantFree (h : AreAlike a b) (ha : ¬Text.ofString "cant" <:+: a)
    (hb : ¬Text.ofString "cant" <:+: b) : a = b := by
  induction h with
  | nil => rfl
  | cons c _ ih =>
    have hsuffix : ∀ t : Text, t <:+: c :: t := fun t ↦ (List.suffix_cons c t).isInfix
    rw [ih (fun h ↦ ha (h.trans (hsuffix _))) (fun h ↦ hb (h.trans (hsuffix _)))]
  | exchange => exact absurd (List.prefix_append _ _).isInfix hb
  | exchangeBack => exact absurd (List.prefix_append _ _).isInfix ha

end AreAlike

/-- Names become one if and only if they are the same up to exchanges of `dont` and `cant`. -/
theorem cantName_eq_iff {a b : Text} : cantName a = cantName b ↔ AreAlike a b := by
  constructor
  · intro h
    induction hlength : a.length using Nat.strong_induction_on generalizing a b with
    | _ n ih =>
      rcases cantName_cases a with rfl | ⟨a, rfl⟩ | ⟨c, a, rfl, ha⟩
      · rcases cantName_cases b with rfl | ⟨b, rfl⟩ | ⟨c, b, rfl, hb⟩
        · exact .nil
        · rw [cantName_dont] at h
          cases h
        · rw [hb] at h
          cases h
      · obtain ⟨b, hb, h⟩ := exists_of_cantName_eq_dont h
        have halike : AreAlike a b := by
          refine ih a.length ?_ h rfl
          rw [← hlength, List.length_append]
          exact Nat.lt_add_of_pos_left (by decide)
        rcases hb with rfl | rfl
        · exact halike.append _
        · exact .exchange halike
      · rcases cantName_cases b with rfl | ⟨b, rfl⟩ | ⟨d, b, rfl, hb⟩
        · rw [ha] at h
          cases h
        · obtain ⟨a', ha', h⟩ := exists_of_cantName_eq_dont h.symm
          have halike : AreAlike a' b := by
            refine ih a'.length ?_ h.symm rfl
            rw [← hlength]
            rcases ha' with ha' | ha' <;> rw [ha', List.length_append] <;>
              exact Nat.lt_add_of_pos_left (by decide)
          rcases ha' with ha' | ha'
          · rw [ha']
            exact halike.append _
          · rw [ha']
            exact .exchangeBack halike
        · rw [ha, hb] at h
          obtain ⟨rfl, htail⟩ := List.cons.inj h
          refine .cons c (ih a.length ?_ htail rfl)
          rw [← hlength, List.length_cons]
          exact Nat.lt_succ_self _
  · intro h
    induction h with
    | nil => rfl
    | cons c _ ih => exact cantName_cons_congr ih c
    | exchange _ ih => rw [cantName_dont, cantName_cant, ih]
    | exchangeBack _ ih => rw [cantName_cant, cantName_dont, ih]

/-! ## Conditional variants -/

theorem mem_variants_iff {operation name : Text} :
    ⟨name, .conditionalAssertion⟩ ∈ variants operation ↔
      conditionalName? operation = some name := by
  rw [variants_eq]
  unfold conditionalName? ownRole
  cases kind operation <;> simp [eq_comm]

/-- Checks for presence keep their names behind the first letter. -/
theorem canName_inj {a b : Text} (ha : kind a = .sight) (hb : kind b = .sight)
    (h : canName a = canName b) : a = b := by
  have hlead : ∀ {t : Text}, kind t = .sight → t = 0x73 :: t.drop 1 := by
    intro t ht
    unfold kind at ht
    split at ht
    case isTrue hsee =>
      obtain ⟨rest, rfl⟩ := exists_append_of_startsWith hsee
      rfl
    case isFalse =>
      split at ht
      case isTrue => cases ht
      case isFalse => split at ht <;> cases ht
  rw [hlead ha, hlead hb, List.append_cancel_left h]

/-- The name of a check for presence is never made like that of a check for absence. -/
theorem canName_ne_cantName {a b : Text} (hb : kind b = .absence) : canName a ≠ cantName b := by
  obtain ⟨rest, hrest⟩ := exists_cantName hb
  rw [hrest]
  intro h
  cases h

theorem conditionalName?_eq_some_iff {operation name : Text} :
    conditionalName? operation = some name ↔
      (kind operation = .sight ∧ canName operation = name) ∨
        (kind operation = .absence ∧ cantName operation = name) := by
  unfold conditionalName?
  cases kind operation <;> simp

/-- The conditional variants of two checks have one name if and only if the checks are the same, or
both check for absence and are alike. -/
theorem conditionalName?_eq_iff {a b name name' : Text} (ha : conditionalName? a = some name)
    (hb : conditionalName? b = some name') : name = name' ↔ a = b ∨ Collide a b := by
  have hmixed {a b : Text} (ha : kind a = .sight) (hb : kind b = .absence) :
      ¬(a = b ∨ Collide a b) ∧ ¬(b = a ∨ Collide b a) := by
    refine ⟨?_, ?_⟩ <;> rintro (rfl | h)
    · cases ha.symm.trans hb
    · cases ha.symm.trans h.1
    · cases ha.symm.trans hb
    · cases ha.symm.trans h.2.1
  rw [conditionalName?_eq_some_iff] at ha hb
  rcases ha with ⟨ha, rfl⟩ | ⟨ha, rfl⟩ <;> rcases hb with ⟨hb, rfl⟩ | ⟨hb, rfl⟩
  · constructor
    · exact fun h ↦ .inl (canName_inj ha hb h)
    · rintro (rfl | h)
      · rfl
      · cases ha.symm.trans h.1
  · exact iff_of_false (canName_ne_cantName hb) (hmixed ha hb).1
  · exact iff_of_false (canName_ne_cantName ha).symm (hmixed hb ha).2
  · constructor
    · exact fun h ↦ .inr ⟨ha, hb, cantName_eq_iff.1 h⟩
    · rintro (rfl | h)
      · rfl
      · exact cantName_eq_iff.2 h.2.2

end ActorFacade.Operation
