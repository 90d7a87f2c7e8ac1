import ActorFacade.Number.Arithmetic
import ActorFacade.Proofs.Number.Rounding
import Mathlib.Algebra.Order.Field.Rat
import Mathlib.Tactic.FieldSimp

/-! # Exact values of numbers

A finite number has a rational value.  Numbers of the format are equal as numbers if and only if
their values are (`sameNumber_iff`), since a value is rounded to one number only, and a number is a
given integer if and only if its value is (`isInteger_iff`).
-/

namespace ActorFacade.Double

variable {s t : Bool} {m n : Nat} {e f : Int}

/-! ## Signs -/

theorem signed_eq_iff {a : Nat} {q : Int} :
    signed s a = q ↔ a = 0 ∧ q = 0 ∨ s = decide (q < 0) ∧ a = q.natAbs := by
  cases s with
  | false =>
    simp only [signed, Bool.false_eq_true, if_false, false_eq_decide_iff, not_lt]
    omega
  | true =>
    simp only [signed, if_true, true_eq_decide_iff]
    omega

theorem signed_mul (s : Bool) (a b : Nat) : signed s a * b = signed s (a * b) := by
  cases s <;> simp [signed]

/-- Only zero has both signs. -/
theorem signed_inj {a b : Nat} (h : signed s a = signed t b) : a = b ∧ (a ≠ 0 → s = t) := by
  cases s <;> cases t <;> simp only [signed, Bool.false_eq_true, if_false, if_true] at h <;>
    exact ⟨by omega, by first | exact fun _ ↦ rfl | omega⟩

/-! ## Values -/

/-- The value of a finite number. -/
def toRat (negative : Bool) (m : Nat) (e : Int) : ℚ :=
  signed negative (m * 2 ^ e.toNat) / 2 ^ (-e).toNat

theorem toRat_eq_intCast_iff {k : Int} :
    toRat s m e = k ↔ signed s (m * 2 ^ e.toNat) = k * 2 ^ (-e).toNat := by
  rw [toRat, div_eq_iff (by positivity)]
  exact_mod_cast Iff.rfl

theorem toRat_eq_toRat_iff : toRat s m e = toRat t n f ↔
    signed s (m * 2 ^ e.toNat * 2 ^ (-f).toNat) = signed t (n * 2 ^ f.toNat * 2 ^ (-e).toNat) := by
  rw [toRat, toRat, div_eq_div_iff (by positivity) (by positivity),
    ← signed_mul s (m * 2 ^ e.toNat), ← signed_mul t (n * 2 ^ f.toNat)]
  exact_mod_cast Iff.rfl

/-- A finite number is an integer if and only if its value is. -/
theorem isInteger_iff {k : Int} : (finite s m e).isInteger k = true ↔ toRat s m e = k := by
  rw [toRat_eq_intCast_iff, signed_eq_iff]
  simp only [isInteger, Bool.or_eq_true, Bool.and_eq_true, beq_iff_eq]
  by_cases he : 0 ≤ e
  · simp [he, show (-e).toNat = 0 by omega]
  · have hpos : (0 : Int) < 2 ^ (-e).toNat := by positivity
    have hneg : k * 2 ^ (-e).toNat < 0 ↔ k < 0 := by
      simpa using mul_lt_mul_iff_left₀ (b := k) (c := 0) hpos
    simp [he, show e.toNat = 0 by omega, Int.natAbs_mul, Int.natAbs_pow, hneg]

/-- Numbers of the format are equal if and only if their values are. -/
theorem sameNumber_iff (h : IsCanonical (.finite s m e)) (h' : IsCanonical (.finite t n f)) :
    sameNumber (.finite s m e) (.finite t n f) = true ↔ toRat s m e = toRat t n f := by
  simp only [sameNumber, Bool.or_eq_true, Bool.and_eq_true, beq_iff_eq]
  constructor
  · rintro (⟨rfl, rfl⟩ | ⟨⟨rfl, rfl⟩, rfl⟩)
    · simp [toRat, signed]
    · rfl
  · intro hvalue
    obtain ⟨hcross, hsign⟩ := signed_inj (toRat_eq_toRat_iff.1 hvalue)
    by_cases hm : m = 0
    · subst hm
      have hn : n = 0 := by simpa using hcross.symm
      exact .inl ⟨rfl, hn⟩
    · have hpos : m * 2 ^ e.toNat * 2 ^ (-f).toNat ≠ 0 := by positivity
      have hn : n ≠ 0 := by
        rintro rfl
        simp [hm] at hcross
      obtain rfl := hsign hpos
      -- The two quotients are one value, and it is rounded to either number.
      have hround := ofRatio_congr (by positivity) (by positivity) hcross s
      have hfirst := ofRatio_ratio hm s h
      have hsecond := ofRatio_ratio hn s h'
      rw [ratio_eq] at hfirst hsecond
      have heq := hfirst.symm.trans (hround.trans hsecond)
      simp only [finite.injEq] at heq
      exact .inr ⟨⟨rfl, heq.2.1⟩, heq.2.2⟩

end ActorFacade.Double
