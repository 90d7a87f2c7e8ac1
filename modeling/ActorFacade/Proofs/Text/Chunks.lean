import ActorFacade.Proofs.Text.Utf8

/-! # Reading a first line from text

A file is read in chunks, and a chunk may end within a code point or between the two signs of a line
end.  Where the bytes of the whole file are text, none of this shows: every chunk is decoded, and
the first line that is read is the first line of the text (`firstLine_of_decode`).
-/

namespace ActorFacade.Utf8

/-! ## Decoding a part -/

section Parts

variable {lead : UInt8} {front rest pending bytes : List UInt8} {t : Text}
  {r : Text × List UInt8} {pos pos' skip : Nat}

/-- What follows does not matter to a sequence that is finished or refused. -/
theorem step_append (h : step lead front ≠ .unfinished) (rest : List UInt8) :
    step lead (front ++ rest) = step lead front := by
  unfold step at h ⊢
  rcases front with _ | ⟨b, _ | ⟨c, _ | ⟨d, front⟩⟩⟩
  all_goals simp only [List.nil_append, List.cons_append]
  all_goals grind

/-- A code point takes bytes that are there. -/
theorem length_le_of_step {c n : Nat} (h : step lead rest = .codePoint c n) :
    n - 1 ≤ rest.length := by
  unfold step at h
  repeat' split at h
  all_goals simp only [Step.codePoint.injEq, reduceCtorEq] at h
  all_goals
    obtain ⟨-, rfl⟩ := h
    simp

/-- Positions matter to failures only. -/
theorem decodeFrom_of_decodeFrom (h : decodeFrom pos skip bytes = .ok r) (pos' : Nat) :
    decodeFrom pos' skip bytes = .ok r := by
  fun_induction decodeFrom pos skip bytes generalizing pos' r with
  | case1 => exact h
  | case2 pos skip b rest ih => exact ih h _
  | case3 pos lead rest c n hstep ih =>
    obtain ⟨r', hr', rfl⟩ := map_eq_ok_iff.1 h
    rw [decodeFrom, hstep]
    simp only [ih hr']
    rfl
  | case4 pos lead rest hstep =>
    rw [decodeFrom, hstep]
    exact h
  | case5 => cases h

/-- Bytes that end within a code point, if they end within one. -/
def IsPending (bytes : List UInt8) : Prop := ∀ pos, decodeFrom pos 0 bytes = .ok ([], bytes)

theorem isPending_nil : IsPending [] := fun _ ↦ rfl

/-- Only if nothing is pending is nothing left. -/
theorem IsPending.eq_nil (h : IsPending pending)
    (hdecode : decodeFrom pos 0 pending = .ok (t, [])) : pending = [] := by
  rw [h pos] at hdecode
  cases hdecode
  rfl

/-- The first part of what is decoded is decoded as far as it is there; what is left of it belongs
to the rest. -/
theorem exists_of_decodeFrom_append {left : List UInt8} (hskip : skip ≤ front.length)
    (h : decodeFrom pos skip (front ++ rest) = .ok (t, left)) :
    ∃ s pending t', decodeFrom pos skip front = .ok (s, pending) ∧ IsPending pending ∧
      decodeFrom pos 0 (pending ++ rest) = .ok (t', left) ∧ t = s ++ t' := by
  induction front generalizing pos skip t with
  | nil =>
    obtain rfl : skip = 0 := Nat.le_zero.1 hskip
    exact ⟨[], [], t, rfl, isPending_nil, h, rfl⟩
  | cons lead front ih =>
    rw [List.cons_append] at h
    cases skip with
    | succ skip =>
      obtain ⟨s, pending, t', hs, hpending, hrest, rfl⟩ := ih (Nat.le_of_succ_le_succ hskip) h
      exact ⟨s, pending, t', hs, hpending, decodeFrom_of_decodeFrom hrest _, rfl⟩
    | zero =>
      rw [decodeFrom] at h ⊢
      cases hstep : step lead front with
      | unfinished =>
        refine ⟨[], lead :: front, t, rfl, ?_, h, rfl⟩
        intro pos
        rw [decodeFrom, hstep]
      | refused n defect =>
        have hwhole : step lead (front ++ rest) = step lead front :=
          step_append (by simp [hstep]) rest
        simp only [hwhole, hstep, reduceCtorEq] at h
      | codePoint c n =>
        have hwhole : step lead (front ++ rest) = step lead front :=
          step_append (by simp [hstep]) rest
        simp only [hwhole, hstep] at h ⊢
        obtain ⟨⟨t, _⟩, ht, h⟩ := map_eq_ok_iff.1 h
        cases h
        obtain ⟨s, pending, t', hs, hpending, hrest, rfl⟩ := ih (length_le_of_step hstep) ht
        refine ⟨c :: s, pending, t', ?_, hpending, decodeFrom_of_decodeFrom hrest _, rfl⟩
        rw [hs]
        rfl

theorem decode_eq_ok_iff : decode bytes = .ok t ↔ decodeFrom 0 0 bytes = .ok (t, []) := by
  unfold decode
  cases hdecode : decodeFrom 0 0 bytes with
  | error e => simp [bind, Except.bind]
  | ok r =>
    obtain ⟨s, _ | ⟨lead, left⟩⟩ := r <;> simp [bind, Except.bind, unfinishedError]

end Parts

/-! ## Lines -/

/-- The first line of a text without its end, with newlines unified. -/
def lineOf (t : Text) : Text := (Text.unifyNewlines t).takeWhile (· != 0x0A)

theorem lineOf_of_end {c : CodePoint} (hc : c = 0x0A ∨ c = 0x0D) (t : Text) :
    lineOf (c :: t) = [] := by
  obtain ⟨u, hu⟩ : ∃ u, Text.unifyNewlines (c :: t) = 0x0A :: u := by
    unfold Text.unifyNewlines
    split
    case h_1 he => cases he
    case h_2 => exact ⟨_, rfl⟩
    case h_3 he =>
      cases he
      obtain rfl | rfl := hc
      · exact ⟨_, rfl⟩
      · exact ⟨_, rfl⟩
  rw [lineOf, hu]
  rfl

theorem lineOf_cons {c : CodePoint} (hline : c ≠ 0x0A) (hreturn : c ≠ 0x0D) (t : Text) :
    lineOf (c :: t) = c :: lineOf t := by
  rw [lineOf, Text.unifyNewlines, if_neg hreturn]
  · exact List.takeWhile_cons_of_pos (bne_iff_ne.2 hline)
  · intro _ he
    exact absurd he hreturn

/-- What follows a complete line does not change it. -/
theorem lineOf_append {s : Text} (h : hasLine s = true) (t : Text) :
    lineOf (s ++ t) = lineOf s := by
  fun_induction hasLine s with
  | case1 => cases h
  | case2 c =>
    obtain rfl : c = 0x0A := eq_of_beq h
    rfl
  | case3 c s hne ih =>
    by_cases hc : c = 0x0A ∨ c = 0x0D
    · rw [List.cons_append, lineOf_of_end hc, lineOf_of_end hc]
    · obtain ⟨hline, hreturn⟩ := not_or.1 hc
      have hs : hasLine s = true := by simpa [hline, hreturn] using h
      rw [List.cons_append, lineOf_cons hline hreturn, lineOf_cons hline hreturn, ih hs]

/-- Chunks of text are decoded, until a line is complete or there are no more. -/
theorem exists_of_firstLineFrom {seen : Text} {pending rest : List UInt8} {t : Text}
    (hpending : IsPending pending) (h : decodeFrom 0 0 (pending ++ rest) = .ok (t, [])) :
    ∃ s, firstLineFrom seen pending rest = .ok s ∧ lineOf s = lineOf (seen ++ t) := by
  fun_induction firstLineFrom seen pending rest generalizing t with
  | case1 seen pending hnone =>
    rw [List.append_nil] at h
    cases hpending.eq_nil h
    cases h
    exact ⟨seen, rfl, by rw [List.append_nil]⟩
  | case2 seen pending e hsome =>
    rw [List.append_nil] at h
    cases hpending.eq_nil h
    cases hsome
  | case3 seen pending b rest ih =>
    rw [← List.take_append_drop chunkSize (b :: rest), ← List.append_assoc] at h
    obtain ⟨s, left, t', hs, hleft, hrest, rfl⟩ :=
      exists_of_decodeFrom_append (Nat.zero_le _) h
    rw [hs]
    show ∃ u, (if hasLine (seen ++ s) = true then _ else _) = Except.ok u ∧ _
    split
    case isTrue hline =>
      exact ⟨_, rfl, by rw [← List.append_assoc, lineOf_append hline]⟩
    case isFalse =>
      rw [← List.append_assoc]
      exact ih s left hleft hrest

/-- The first line of a file of text is read, and it is the first line of the text. -/
theorem firstLine_of_decode {bytes : List UInt8} {t : Text} (h : decode bytes = .ok t) :
    firstLine bytes = .ok (lineOf t) := by
  obtain ⟨s, hs, hline⟩ := exists_of_firstLineFrom isPending_nil (decode_eq_ok_iff.1 h)
  rw [firstLine, hs]
  exact congrArg Except.ok hline

end ActorFacade.Utf8
