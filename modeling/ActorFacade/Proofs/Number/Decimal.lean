import ActorFacade.Number.Arithmetic
import ActorFacade.Number.Shortest
import ActorFacade.Proofs.Number.Rounding
import ActorFacade.Proofs.Text.Digits
import Mathlib.Tactic.NormNum

/-! # Decimals that read back

A decimal is read by its value: zeros moved between its digits and its power of ten change nothing
(`ofDecimal_mul_pow`).  The shortest decimal of a number of the format is read back as the number
(`toDouble_shortest`).  A candidate was checked by reading it, so what is left to show is that the
decimal with all digits, which stands in where no candidate is found, reads back as well.
-/

namespace ActorFacade.Double

/-! ## Reading by value -/

/-- Both signs of the exponent in one. -/
theorem ofDecimal_eq_ofRatio {negative : Bool} {digits : Nat} {exponent : Int}
    (hd : digits ≠ 0) (hhigh : (decimalLength digits : Int) + exponent ≤ 310)
    (hlow : -330 ≤ (decimalLength digits : Int) + exponent) :
    ofDecimal negative digits exponent =
      ofRatio negative (digits * 10 ^ exponent.toNat) (10 ^ (-exponent).toNat) := by
  unfold ofDecimal
  rw [if_neg hd, if_neg (not_lt.2 hhigh), if_neg (not_lt.2 hlow)]
  split
  · rw [show (-exponent).toNat = 0 by omega, pow_zero]
  · rw [show exponent.toNat = 0 by omega, pow_zero, mul_one]

/-- Zeros at the end of the digits are as good as a larger exponent. -/
theorem ofDecimal_mul_pow (negative : Bool) (digits k : Nat) (exponent : Int) :
    ofDecimal negative (digits * 10 ^ k) exponent = ofDecimal negative digits (exponent + k) := by
  by_cases hd : digits = 0
  · simp [ofDecimal, hd]
  have hd' : digits * 10 ^ k ≠ 0 := Nat.mul_ne_zero hd (by positivity)
  have hlength := decimalLength_mul_pow hd k
  rcases lt_or_ge 310 ((decimalLength digits : Int) + (exponent + k)) with hhigh | hhigh
  · unfold ofDecimal
    rw [if_neg hd, if_neg hd', if_pos hhigh, if_pos (by omega)]
  rcases lt_or_ge ((decimalLength digits : Int) + (exponent + k)) (-330) with hlow | hlow
  · unfold ofDecimal
    rw [if_neg hd, if_neg hd', if_neg (not_lt.2 hhigh), if_pos hlow, if_neg (by omega),
      if_pos (by omega)]
  rw [ofDecimal_eq_ofRatio hd hhigh hlow, ofDecimal_eq_ofRatio hd' (by omega) (by omega)]
  refine ofRatio_congr (by positivity) (by positivity) ?_ negative
  have hpow : 10 ^ k * 10 ^ exponent.toNat * 10 ^ (-(exponent + k)).toNat =
      10 ^ (exponent + k).toNat * 10 ^ (-exponent).toNat := by
    rw [← pow_add, ← pow_add, ← pow_add]
    congr 1
    omega
  calc digits * 10 ^ k * 10 ^ exponent.toNat * 10 ^ (-(exponent + k)).toNat
      = digits * (10 ^ k * 10 ^ exponent.toNat * 10 ^ (-(exponent + k)).toNat) := by ring
    _ = digits * (10 ^ (exponent + k).toNat * 10 ^ (-exponent).toNat) := by rw [hpow]
    _ = _ := by ring

/-- What is read is a number of the format. -/
theorem isCanonical_ofDecimal (negative : Bool) (digits : Nat) (exponent : Int) :
    (ofDecimal negative digits exponent).IsCanonical := by
  have hzero : (zero negative).IsCanonical := ⟨by decide, by decide, by decide, .inr rfl⟩
  unfold ofDecimal
  split
  · exact hzero
  split
  · trivial
  split
  · exact hzero
  split
  · exact isCanonical_ofRatio negative _ Nat.one_pos
  · exact isCanonical_ofRatio negative _ (by positivity)

/-! ## Signs -/

theorem neg_ofRatio (negative : Bool) (num den : Nat) :
    (ofRatio negative num den).neg = ofRatio (!negative) num den := by
  unfold ofRatio
  dsimp only
  split
  · rfl
  · generalize ite (roundHalfEven _ _ = _) _ _ = rounded
    split <;> rfl

theorem neg_ofDecimal (negative : Bool) (digits : Nat) (exponent : Int) :
    (ofDecimal negative digits exponent).neg = ofDecimal (!negative) digits exponent := by
  unfold ofDecimal
  split
  · rfl
  · split
    · rfl
    · split
      · rfl
      · split <;> exact neg_ofRatio ..

/-! ## The decimal with all digits -/

/-- Without its point, the decimal with all digits has enough of them not to count as zero. -/
theorem decimalLength_exact_ge {m k : Nat} (hm : m ≠ 0) (hk : k ≤ 1074) :
    k ≤ decimalLength (m * 5 ^ k) + 330 := by
  by_contra h
  rw [not_le] at h
  have hfive : 5 ^ k ≤ 10 ^ decimalLength (m * 5 ^ k) :=
    (Nat.le_mul_of_pos_left _ (Nat.pos_of_ne_zero hm)).trans (lt_pow_decimalLength _).le
  have hten : 10 ^ decimalLength (m * 5 ^ k) * 10 ^ 331 ≤ 10 ^ k := by
    rw [← pow_add]
    exact Nat.pow_le_pow_right (by decide) h
  have htwo : 2 ^ k < 10 ^ 331 :=
    lt_of_le_of_lt (Nat.pow_le_pow_right (by decide) hk) (by decide +kernel : 2 ^ 1074 < 10 ^ 331)
  refine absurd ?_ (lt_irrefl (10 ^ k))
  calc 10 ^ k = 5 ^ k * 2 ^ k := mul_pow 5 2 k
    _ < 5 ^ k * 10 ^ 331 := Nat.mul_lt_mul_of_pos_left htwo (by positivity)
    _ ≤ 10 ^ decimalLength (m * 5 ^ k) * 10 ^ 331 := Nat.mul_le_mul_right _ hfive
    _ ≤ 10 ^ k := hten

/-- The decimal with all digits of a number is read back as the number. -/
theorem toDouble_exactDecimal {m : Nat} {e : Int} (hm : m ≠ 0)
    (h : IsCanonical (.finite false m e)) :
    (exactDecimal m e).toDouble false = .finite false m e := by
  have hlt := h.1
  have hmin := h.2.1
  have hmax := h.2.2.1
  rw [← ofRatio_ratio hm false h, ratio_eq, Decimal.toDouble, exactDecimal]
  split
  case isTrue he =>
    have hne : m * 2 ^ e.toNat ≠ 0 := by positivity
    have hbound : m * 2 ^ e.toNat < 10 ^ 310 :=
      calc m * 2 ^ e.toNat
          < 2 ^ 53 * 2 ^ e.toNat := Nat.mul_lt_mul_of_pos_right hlt (by positivity)
        _ ≤ 2 ^ 53 * 2 ^ 971 := by gcongr <;> omega
        _ < 10 ^ 310 := by decide +kernel
    have hlength := (decimalLength_le_iff (by decide)).2 hbound
    rw [ofDecimal_eq_ofRatio hne (by dsimp only; omega) (by dsimp only; omega)]
    simp [show (-e).toNat = 0 by omega]
  case isFalse he =>
    obtain ⟨k, rfl⟩ : ∃ k : Nat, e = -k := ⟨(-e).toNat, by omega⟩
    have hne : m * 5 ^ k ≠ 0 := by positivity
    have hbound : m * 5 ^ k < 10 ^ (310 + k) :=
      calc m * 5 ^ k < 2 ^ 53 * 5 ^ k := Nat.mul_lt_mul_of_pos_right hlt (by positivity)
        _ ≤ 10 ^ 310 * 10 ^ k := 
          Nat.mul_le_mul (by decide +kernel) (Nat.pow_le_pow_left (by decide) k)
        _ = 10 ^ (310 + k) := (pow_add ..).symm
    have hlength := (decimalLength_le_iff (by omega)).2 hbound
    have hlength' := decimalLength_exact_ge hm (k := k) (by omega)
    simp only [Int.neg_neg, Int.toNat_natCast, show (-(k : Int)).toNat = 0 by omega, pow_zero,
      mul_one]
    rw [ofDecimal_eq_ofRatio hne (by omega) (by omega), Int.neg_neg, Int.toNat_natCast,
      show (-(k : Int)).toNat = 0 by omega, pow_zero, mul_one]
    refine ofRatio_congr (by positivity) (by positivity) ?_ false
    rw [mul_assoc, show 5 ^ k * 2 ^ k = 10 ^ k from (mul_pow 5 2 k).symm]

/-! ## The shortest decimal -/

theorem toDouble_of_withDigits? {m : Nat} {e : Int} {n : Nat} {d : Decimal}
    (h : withDigits? m e n = some d) : d.toDouble false = .finite false m e := by
  simpa using List.find?_some h

/-- Trailing zeros make no difference. -/
theorem toDouble_dropZeros (n : Nat) (d : Decimal) (negative : Bool) :
    (d.dropZeros n).toDouble negative = d.toDouble negative := by
  induction n generalizing d with
  | zero => rfl
  | succ n ih =>
    unfold Decimal.dropZeros
    split
    case isFalse => rfl
    case isTrue h =>
      have hten : d.digits / 10 * 10 ^ 1 = d.digits := by omega
      rw [ih, Decimal.toDouble, Decimal.toDouble, ← hten, ofDecimal_mul_pow, hten]
      rfl

/-- The shortest decimal of a number is read back as the number. -/
theorem toDouble_shortest {m : Nat} {e : Int} (hm : m ≠ 0)
    (h : IsCanonical (.finite false m e)) :
    (shortest m e).toDouble false = .finite false m e := by
  unfold shortest
  dsimp only
  rw [toDouble_dropZeros]
  cases hfound : (List.range 17).findSome? fun i ↦ withDigits? m e (i + 1) with
  | none => exact toDouble_exactDecimal hm h
  | some d =>
    obtain ⟨i, -, hi⟩ := List.exists_of_findSome?_eq_some hfound
    exact toDouble_of_withDigits? hi

/-- With either sign. -/
theorem ofDecimal_shortest {m : Nat} {e : Int} (hm : m ≠ 0) (negative : Bool)
    (h : IsCanonical (.finite false m e)) :
    ofDecimal negative (shortest m e).digits (shortest m e).exponent = .finite negative m e := by
  have hread := toDouble_shortest hm h
  rw [Decimal.toDouble] at hread
  cases negative with
  | false => exact hread
  | true => rw [← Bool.not_false, ← neg_ofDecimal, hread, neg]

end ActorFacade.Double
