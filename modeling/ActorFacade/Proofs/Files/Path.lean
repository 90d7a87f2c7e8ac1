import ActorFacade.Files.Error
import ActorFacade.Proofs.Except
import ActorFacade.Proofs.Text.Join

/-! # Paths that are refused

No path leads through one that is refused (`refusal?_of_append`): its bytes would be among those of
the longer one.
-/

namespace ActorFacade.Path

/-- The bytes of a beginning are no more than those of the whole. -/
theorem encodeFrom_append {s t : Text} {pos : Nat} {bytes : List UInt8}
    (h : encodeFrom pos (s ++ t) = .ok bytes) :
    ∃ lead, encodeFrom pos s = .ok lead ∧ lead.length ≤ bytes.length := by
  induction s generalizing pos bytes with
  | nil => exact ⟨[], rfl, Nat.zero_le _⟩
  | cons c s ih =>
    rw [List.cons_append, encodeFrom] at h
    rw [encodeFrom]
    cases hstray : strayByte? c with
    | some b =>
      simp only [hstray, map_eq_ok_iff] at h ⊢
      obtain ⟨rest, hrest, rfl⟩ := h
      obtain ⟨lead, hlead, hle⟩ := ih hrest
      exact ⟨b :: lead, ⟨lead, hlead, rfl⟩, Nat.succ_le_succ hle⟩
    | none =>
      simp only [hstray] at h ⊢
      by_cases hsurrogate : Text.isSurrogate c = true
      · rw [if_pos hsurrogate] at h
        cases h
      · rw [if_neg hsurrogate, map_eq_ok_iff] at h
        rw [if_neg hsurrogate]
        obtain ⟨rest, hrest, rfl⟩ := h
        obtain ⟨lead, hlead, hle⟩ := ih hrest
        refine ⟨Utf8.bytesOf c ++ lead, map_eq_ok_iff.2 ⟨lead, hlead, rfl⟩, ?_⟩
        rw [List.length_append, List.length_append]
        omega

theorem bytesOf_eq_ok_iff {t : Text} {bytes : List UInt8} :
    bytesOf t = .ok bytes ↔ encodeFrom 0 t = .ok bytes ∧ ¬t.contains 0 = true := by
  unfold bytesOf
  rw [bind_eq_ok_iff]
  simp only [mapError_eq_ok_iff]
  by_cases hzero : t.contains 0 = true
  · simp only [hzero, not_true_eq_false, and_false, iff_false]
    rintro ⟨lead, -, h⟩
    cases h
  · simp only [hzero]
    refine ⟨?_, ?_⟩
    · rintro ⟨lead, hlead, h⟩
      cases h
      exact ⟨hlead, Bool.false_ne_true⟩
    · intro h
      exact ⟨bytes, h.1, rfl⟩

theorem refusal?_eq_none_iff {p : Path} :
    p.refusal? = none ↔ ∃ bytes, bytesOf p.text = .ok bytes ∧ bytes.length < lengthBound := by
  unfold refusal?
  cases bytesOf p.text <;> simp

/-- A path that begins one that is not refused is not refused either. -/
theorem refusal?_of_append {slashes : Nat} {parts rest : List Text}
    (h : (⟨slashes, parts ++ rest⟩ : Path).refusal? = none) :
    (⟨slashes, parts⟩ : Path).refusal? = none := by
  by_cases hhere : slashes = 0 ∧ parts = []
  · obtain ⟨rfl, rfl⟩ := hhere
    decide
  · obtain ⟨bytes, hbytes, hlt⟩ := refusal?_eq_none_iff.1 h
    have htext : ∀ names, ¬(slashes = 0 ∧ names = []) →
        (⟨slashes, names⟩ : Path).text = List.replicate slashes 0x2F ++ Text.join "/" names := by
      intro names hnames
      refine if_neg ?_
      simpa using hnames
    obtain ⟨more, hmore⟩ := Text.join_prefix (Text.ofString "/") parts rest
    have hwhole : ¬(slashes = 0 ∧ parts ++ rest = []) :=
      fun h ↦ hhere ⟨h.1, (List.append_eq_nil_iff.1 h.2).1⟩
    rw [htext _ hwhole, ← hmore, ← List.append_assoc, ← htext _ hhere, bytesOf_eq_ok_iff] at hbytes
    obtain ⟨lead, hlead, hle⟩ := encodeFrom_append hbytes.1
    refine refusal?_eq_none_iff.2 ⟨lead, bytesOf_eq_ok_iff.2 ⟨hlead, ?_⟩, by omega⟩
    intro hzero
    refine hbytes.2 (List.contains_iff_mem.2 (List.mem_append_left _ ?_))
    exact List.contains_iff_mem.1 hzero

end ActorFacade.Path
