import ActorFacade.Number.Double
import Mathlib.Tactic.Linarith
import Mathlib.Tactic.Ring

/-! # Rounding a quotient

`ofRatio` depends on the value of the quotient only, not on its numerator and denominator, and it
gives back every number of the format.  Both come from one fact: the exponent of a quotient is
determined by where its scaled value lies (`IsExponentOf`), and `exponentFor` finds it.
-/

namespace ActorFacade.Double

/-! ## Scaling -/

/-- Both cases of scaling in one: at most one of the two powers is not one. -/
theorem scaleDown_eq (num den : Nat) (e : Int) :
    scaleDown num den e = (num * 2 ^ (-e).toNat, den * 2 ^ e.toNat) := by
  unfold scaleDown
  split
  · rw [show (-e).toNat = 0 by omega, pow_zero, mul_one]
  · rw [show e.toNat = 0 by omega, pow_zero, mul_one]

theorem ratio_eq (m : Nat) (e : Int) : ratio m e = (m * 2 ^ e.toNat, 2 ^ (-e).toNat) := by
  unfold ratio
  split
  · rw [show (-e).toNat = 0 by omega, pow_zero]
  · rw [show e.toNat = 0 by omega, pow_zero, mul_one]

theorem scaleDown_mul_left (c num den : Nat) (e : Int) :
    scaleDown (c * num) (c * den) e =
      (c * (scaleDown num den e).1, c * (scaleDown num den e).2) := by
  simp only [scaleDown_eq, mul_assoc]

theorem scaleDown_den_pos (num : Nat) {den : Nat} (hd : 0 < den) (e : Int) :
    0 < (scaleDown num den e).2 := by
  rw [scaleDown_eq]
  positivity

/-- Scaling a number of the format by its own exponent leaves its mantissa. -/
theorem scaleDown_ratio (m : Nat) (e : Int) :
    scaleDown (ratio m e).1 (ratio m e).2 e =
      (2 ^ (-e).toNat * 2 ^ e.toNat * m, 2 ^ (-e).toNat * 2 ^ e.toNat * 1) := by
  rw [scaleDown_eq, ratio_eq]
  simp only [Prod.mk.injEq]
  exact ⟨by ring, by ring⟩

/-- How values scaled by two exponents compare. -/
theorem scaleDown_cross (num den : Nat) (e : Int) (k : Nat) :
    (scaleDown num den e).1 * (scaleDown num den (e + k)).2 =
      (scaleDown num den (e + k)).1 * (scaleDown num den e).2 * 2 ^ k := by
  have hpow : 2 ^ (-e).toNat * 2 ^ (e + k).toNat =
      2 ^ (-(e + k)).toNat * 2 ^ e.toNat * 2 ^ k := by
    rw [← pow_add, ← pow_add, ← pow_add]
    congr 1
    omega
  simp only [scaleDown_eq]
  calc num * 2 ^ (-e).toNat * (den * 2 ^ (e + k).toNat)
      = num * den * (2 ^ (-e).toNat * 2 ^ (e + k).toNat) := by ring
    _ = num * den * (2 ^ (-(e + k)).toNat * 2 ^ e.toNat * 2 ^ k) := by rw [hpow]
    _ = _ := by ring

/-! ## The exponent -/

/-- The quotient `num / den` has 53 binary digits before the point when it is scaled by an exponent,
or fewer at the least exponent. -/
def IsExponentOf (num den : Nat) (e : Int) : Prop :=
  -1074 ≤ e ∧ (scaleDown num den e).1 < 2 ^ 53 * (scaleDown num den e).2 ∧
    (e = -1074 ∨ 2 ^ 52 * (scaleDown num den e).2 ≤ (scaleDown num den e).1)

/-- No quotient has a second exponent above one that it has. -/
theorem IsExponentOf.not_add {num den : Nat} (hd : 0 < den) {e : Int} {k : Nat}
    (he : IsExponentOf num den e) (hk : 0 < k) : ¬IsExponentOf num den (e + k) := by
  rintro ⟨-, -, hleast | hlow⟩
  · have := he.1
    omega
  · have hcross := scaleDown_cross num den e k
    have hp := scaleDown_den_pos num hd e
    have hq := scaleDown_den_pos num hd (e + k)
    have htwo : 2 ≤ 2 ^ k := by simpa using Nat.pow_le_pow_right (n := 2) (by decide) hk
    generalize (scaleDown num den (e + k)).1 = a' at *
    generalize (scaleDown num den (e + k)).2 = b' at *
    have hlt := Nat.mul_lt_mul_of_pos_right he.2.1 hq
    generalize (scaleDown num den e).1 = a at *
    generalize (scaleDown num den e).2 = b at *
    have hge : 2 ^ 52 * b' * b * 2 ≤ a' * b * 2 ^ k :=
      Nat.mul_le_mul (Nat.mul_le_mul_right b hlow) htwo
    linarith

/-- A quotient has one exponent. -/
theorem IsExponentOf.unique {num den : Nat} (hd : 0 < den) {e f : Int}
    (he : IsExponentOf num den e) (hf : IsExponentOf num den f) : e = f := by
  rcases lt_trichotomy e f with h | h | h
  · refine absurd ?_ (he.not_add hd (k := (f - e).toNat) (by omega))
    rwa [show e + ((f - e).toNat : Int) = f by omega]
  · exact h
  · refine absurd ?_ (hf.not_add hd (k := (e - f).toNat) (by omega))
    rwa [show f + ((e - f).toNat : Int) = e by omega]

theorem IsExponentOf.mul_left {num den : Nat} {e : Int} {c : Nat} (hc : 0 < c)
    (he : IsExponentOf num den e) : IsExponentOf (c * num) (c * den) e := by
  obtain ⟨hmin, hlt, hlow⟩ := he
  refine ⟨hmin, ?_, hlow.imp_right fun hlow ↦ ?_⟩
  · rw [scaleDown_mul_left]
    simpa only [mul_left_comm] using Nat.mul_lt_mul_of_pos_left hlt hc
  · rw [scaleDown_mul_left]
    simpa only [mul_left_comm] using Nat.mul_le_mul_left c hlow

/-- The first guess is at most one too low: it leaves at most 54 digits, and at least 53 unless it
is the least exponent. -/
theorem scaleDown_guess {num den : Nat} (hn : num ≠ 0) (hd : 0 < den) (g : Int)
    (hg : g = max (-1074) ((num.log2 : Int) - den.log2 - 53)) :
    (scaleDown num den g).1 < 2 ^ 54 * (scaleDown num den g).2 ∧
      (g = -1074 ∨ 2 ^ 52 * (scaleDown num den g).2 ≤ (scaleDown num den g).1) := by
  have hnum := Nat.log2_self_le hn
  have hnum' := Nat.lt_log2_self (n := num)
  have hden := Nat.log2_self_le (Nat.pos_iff_ne_zero.1 hd)
  have hden' := Nat.lt_log2_self (n := den)
  rw [scaleDown_eq]
  constructor
  · calc num * 2 ^ (-g).toNat
        < 2 ^ (num.log2 + 1) * 2 ^ (-g).toNat := Nat.mul_lt_mul_of_pos_right hnum' (by positivity)
      _ = 2 ^ (num.log2 + 1 + (-g).toNat) := (pow_add ..).symm
      _ ≤ 2 ^ (54 + (den.log2 + g.toNat)) := Nat.pow_le_pow_right (by decide) (by omega)
      _ = 2 ^ 54 * (2 ^ den.log2 * 2 ^ g.toNat) := by rw [← pow_add, ← pow_add]
      _ ≤ 2 ^ 54 * (den * 2 ^ g.toNat) := by gcongr
  · by_cases hleast : g = -1074
    · exact .inl hleast
    · refine .inr ?_
      calc 2 ^ 52 * (den * 2 ^ g.toNat)
          ≤ 2 ^ 52 * (2 ^ (den.log2 + 1) * 2 ^ g.toNat) := by gcongr
        _ = 2 ^ (52 + (den.log2 + 1 + g.toNat)) := by rw [← pow_add, ← pow_add]
        _ ≤ 2 ^ (num.log2 + (-g).toNat) := Nat.pow_le_pow_right (by decide) (by omega)
        _ = 2 ^ num.log2 * 2 ^ (-g).toNat := pow_add ..
        _ ≤ num * 2 ^ (-g).toNat := by gcongr

/-- `exponentFor` finds the exponent of a quotient. -/
theorem isExponentOf_exponentFor {num den : Nat} (hn : num ≠ 0) (hd : 0 < den) :
    IsExponentOf num den (exponentFor num den) := by
  obtain ⟨hhigh, hlow⟩ := scaleDown_guess hn hd _ rfl
  have hp : 0 < (scaleDown num den (max (-1074) ((num.log2 : Int) - den.log2 - 53))).2 :=
    scaleDown_den_pos num hd _
  have hmin : -1074 ≤ max (-1074) ((num.log2 : Int) - den.log2 - 53) := le_max_left _ _
  unfold exponentFor
  dsimp only
  generalize max (-1074) ((num.log2 : Int) - den.log2 - 53) = g at *
  have hcross := scaleDown_cross num den g 1
  have hq := scaleDown_den_pos num hd (g + 1)
  split
  case isFalse h =>
    rw [not_le, Nat.div_lt_iff_lt_mul hp] at h
    exact ⟨hmin, h, hlow⟩
  case isTrue h =>
    rw [Nat.le_div_iff_mul_le hp] at h
    unfold IsExponentOf
    rw [Nat.cast_one] at hcross
    generalize (scaleDown num den (g + 1)).1 = a' at *
    generalize (scaleDown num den (g + 1)).2 = b' at *
    generalize (scaleDown num den g).1 = a at *
    generalize (scaleDown num den g).2 = b at *
    refine ⟨by omega, ?_, .inr ?_⟩
    · refine Nat.lt_of_mul_lt_mul_right (a := b) ?_
      have := Nat.mul_lt_mul_of_pos_right hhigh hq
      linarith
    · refine Nat.le_of_mul_le_mul_right ?_ hp
      have := Nat.mul_le_mul_right b' h
      linarith

/-! ## Rounding to a mantissa -/

theorem roundHalfEven_mul_left {c : Nat} (hc : 0 < c) (num den : Nat) :
    roundHalfEven (c * num) (c * den) = roundHalfEven num den := by
  have hlt : ∀ a b : Nat, c * a < c * b ↔ a < b := fun a b ↦ Nat.mul_lt_mul_left hc
  simp only [roundHalfEven, Nat.mul_div_mul_left _ _ hc, Nat.mul_mod_mul_left, mul_left_comm 2 c,
    hlt]

theorem roundHalfEven_one (n : Nat) : roundHalfEven n 1 = n := by
  simp [roundHalfEven, Nat.mod_one]

/-- A quotient is rounded to one of the two natural numbers around it. -/
theorem roundHalfEven_bounds (num den : Nat) :
    num / den ≤ roundHalfEven num den ∧ roundHalfEven num den ≤ num / den + 1 := by
  unfold roundHalfEven
  dsimp only
  split
  · omega
  · split
    · omega
    · split <;> omega

/-! ## The rounded quotient -/

theorem exponentFor_mul_left {c num den : Nat} (hc : 0 < c) (hn : num ≠ 0) (hd : 0 < den) :
    exponentFor (c * num) (c * den) = exponentFor num den :=
  have hcn : c * num ≠ 0 := Nat.mul_ne_zero (by omega) hn
  (isExponentOf_exponentFor hcn (Nat.mul_pos hc hd)).unique (Nat.mul_pos hc hd)
    ((isExponentOf_exponentFor hn hd).mul_left hc)

theorem ofRatio_mul_left {c den : Nat} (hc : 0 < c) (hd : 0 < den) (negative : Bool) (num : Nat) :
    ofRatio negative (c * num) (c * den) = ofRatio negative num den := by
  by_cases hn : num = 0
  · simp [ofRatio, hn]
  · have hcn : c * num ≠ 0 := Nat.mul_ne_zero (by omega) hn
    simp only [ofRatio, hn, hcn, if_false, exponentFor_mul_left hc hn hd, scaleDown_mul_left,
      roundHalfEven_mul_left hc]

/-- Quotients of one value are rounded alike. -/
theorem ofRatio_congr {num den num' den' : Nat} (hd : 0 < den) (hd' : 0 < den')
    (h : num * den' = num' * den) (negative : Bool) :
    ofRatio negative num den = ofRatio negative num' den' := by
  rw [← ofRatio_mul_left hd' hd, ← ofRatio_mul_left hd hd', mul_comm den' num, h,
    mul_comm den' den, mul_comm num' den]

/-- A number of the format is the number nearest to its value. -/
theorem ofRatio_ratio {m : Nat} {e : Int} (hm : m ≠ 0) (negative : Bool)
    (h : IsCanonical (.finite negative m e)) :
    ofRatio negative (ratio m e).1 (ratio m e).2 = .finite negative m e := by
  obtain ⟨hlt, hmin, hmax, hlow⟩ := h
  have hscale := scaleDown_ratio m e
  have hc : 0 < 2 ^ (-e).toNat * 2 ^ e.toNat := by positivity
  have hd : 0 < (ratio m e).2 := by
    rw [ratio_eq]
    positivity
  have hn : (ratio m e).1 ≠ 0 := by
    rw [ratio_eq]
    positivity
  generalize 2 ^ (-e).toNat * 2 ^ e.toNat = c at hscale hc
  have he : IsExponentOf (ratio m e).1 (ratio m e).2 e := by
    unfold IsExponentOf
    rw [hscale]
    refine ⟨hmin, ?_, hlow.symm.imp_right fun hlow ↦ ?_⟩
    · simpa only [mul_one, mul_comm] using Nat.mul_lt_mul_of_pos_left hlt hc
    · simpa only [mul_one, mul_comm] using Nat.mul_le_mul_left c hlow
  have hexp : exponentFor (ratio m e).1 (ratio m e).2 = e :=
    (isExponentOf_exponentFor hn hd).unique hd he
  have hne : m ≠ 2 ^ 53 := hlt.ne
  simp only [ofRatio, hn, if_false, hexp, hscale, roundHalfEven_mul_left hc, roundHalfEven_one, hne,
    not_lt.2 hmax]

/-- A rounded quotient is a number of the format. -/
theorem isCanonical_ofRatio (negative : Bool) (num : Nat) {den : Nat} (hd : 0 < den) :
    (ofRatio negative num den).IsCanonical := by
  unfold ofRatio
  by_cases hn : num = 0
  · rw [if_pos hn]
    exact ⟨by decide, by decide, by decide, .inr rfl⟩
  obtain ⟨hmin, hlt, hlow⟩ := isExponentOf_exponentFor hn hd
  have hpos := scaleDown_den_pos num hd (exponentFor num den)
  rw [if_neg hn]
  dsimp only
  generalize exponentFor num den = e at *
  generalize (scaleDown num den e).1 = a at *
  generalize (scaleDown num den e).2 = b at *
  have hquotient : a / b < 2 ^ 53 := Nat.div_lt_of_lt_mul (by rwa [Nat.mul_comm])
  have hleast : e = -1074 ∨ 2 ^ 52 ≤ a / b :=
    hlow.imp_right (Nat.le_div_iff_mul_le hpos).2
  have hbounds := roundHalfEven_bounds a b
  generalize roundHalfEven a b = m at *
  -- Only rounding up to the next power of two moves the exponent.
  by_cases hm : m = 2 ^ 53
  · rw [if_pos hm]
    split
    · trivial
    · exact ⟨by dsimp only; decide, by dsimp only; omega, by dsimp only at *; omega,
        .inl (le_refl _)⟩
  · rw [if_neg hm]
    split
    · trivial
    · exact ⟨by dsimp only; omega, hmin, by dsimp only at *; omega,
        hleast.symm.imp_left hbounds.1.trans'⟩

end ActorFacade.Double
