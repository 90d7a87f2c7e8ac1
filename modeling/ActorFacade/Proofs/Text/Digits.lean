import ActorFacade.Number.Double
import Mathlib.Data.List.Induction
import Mathlib.Tactic.Positivity
import Mathlib.Tactic.Ring

/-! # Rows of digits

What a row of digits is worth, and the digits of a natural number: they are worth the number, and
their count tells how large it is.
-/

namespace ActorFacade.Text

/-! ## ASCII digits -/

theorem digitValue?_of_isAsciiDigit {c : CodePoint} (h : isAsciiDigit c = true) :
    digitValue? c = some (c - 0x30) := by
  rw [digitValue?, if_pos h]

theorem isDigit_of_isAsciiDigit {c : CodePoint} (h : isAsciiDigit c = true) :
    isDigit c = true := by
  rw [isDigit, digitValue?_of_isAsciiDigit h, Option.isSome_some]

/-- Below the scripts of the world nothing is a digit but the ten of ASCII. -/
theorem isDigit_eq_isAsciiDigit {c : CodePoint} (h : c < 0x80) : isDigit c = isAsciiDigit c := by
  unfold isDigit digitValue?
  cases isAsciiDigit c with
  | true => rfl
  | false => simp [h]

theorem isAsciiDigit_digitChar {d : Nat} (h : d < 10) :
    isAsciiDigit (Nat.digitChar d).toNat = true := by
  have hall : ∀ d < 10, isAsciiDigit (Nat.digitChar d).toNat = true := by decide
  exact hall d h

/-- A digit is one of ten in a row from a zero on. -/
theorem exists_zero_of_isDigit {c : CodePoint} (h : isDigit c = true) :
    ∃ z ∈ digitZeros, ∃ d < 10, c = z + d := by
  unfold isDigit digitValue? at h
  split at h
  case isTrue hascii =>
    refine ⟨0x30, by decide, c - 0x30, ?_, ?_⟩ <;> grind [isAsciiDigit]
  case isFalse =>
    split at h
    · simp at h
    · rw [Option.isSome_map, List.find?_isSome] at h
      obtain ⟨z, hz, hc⟩ := h
      refine ⟨z, hz, c - z, ?_, ?_⟩ <;> grind

/-! ## The value of a row -/

@[simp] theorem digitsValue_nil : digitsValue [] = 0 := rfl

theorem digitsValue_append_singleton (t : Text) (c : CodePoint) :
    digitsValue (t ++ [c]) = 10 * digitsValue t + (digitValue? c).getD 0 := by
  simp [digitsValue]

theorem digitsValue_append (s t : Text) :
    digitsValue (s ++ t) = digitsValue s * 10 ^ t.length + digitsValue t := by
  induction t using List.reverseRecOn with
  | nil => simp
  | append_singleton t c ih =>
    rw [← List.append_assoc, digitsValue_append_singleton, digitsValue_append_singleton, ih,
      List.length_append, List.length_singleton, pow_succ]
    ring

/-- A row of zeros. -/
theorem digitsValue_replicate_zero (n : Nat) : digitsValue (List.replicate n 0x30) = 0 := by
  induction n with
  | zero => rfl
  | succ n ih =>
    rw [List.replicate_succ', digitsValue_append_singleton, ih]
    rfl

/-! ## The digits of a number -/

theorem ofNat_of_lt {n : Nat} (h : n < 10) : ofNat n = [(Nat.digitChar n).toNat] := by
  rw [ofNat, Nat.toDigits_of_lt_base h, List.map_singleton]

theorem ofNat_of_le {n : Nat} (h : 10 ≤ n) :
    ofNat n = ofNat (n / 10) ++ [(Nat.digitChar (n % 10)).toNat] := by
  rw [ofNat, Nat.toDigits_of_base_le (by decide) h, List.map_append, List.map_singleton, ← ofNat]

theorem ofNat_ne_nil (n : Nat) : ofNat n ≠ [] := by
  simp [ofNat]

theorem isAsciiDigit_of_mem_ofNat {n : Nat} {c : CodePoint} (h : c ∈ ofNat n) :
    isAsciiDigit c = true := by
  induction n using Nat.strongRecOn with
  | ind n ih =>
    rcases Nat.lt_or_ge n 10 with hn | hn
    · rw [ofNat_of_lt hn, List.mem_singleton] at h
      exact h ▸ isAsciiDigit_digitChar hn
    · rw [ofNat_of_le hn, List.mem_append, List.mem_singleton] at h
      rcases h with h | rfl
      · exact ih (n / 10) (by omega) h
      · exact isAsciiDigit_digitChar (by omega)

/-- The digits of a number are worth the number. -/
theorem digitsValue_ofNat (n : Nat) : digitsValue (ofNat n) = n := by
  have hdigit : ∀ d < 10, (digitValue? (Nat.digitChar d).toNat).getD 0 = d := by decide
  induction n using Nat.strongRecOn with
  | ind n ih =>
    rcases Nat.lt_or_ge n 10 with hn | hn
    · rw [ofNat_of_lt hn, ← List.nil_append [_], digitsValue_append_singleton, hdigit n hn]
      simp
    · rw [ofNat_of_le hn, digitsValue_append_singleton, ih (n / 10) (by omega),
        hdigit (n % 10) (by omega)]
      omega

theorem length_ofNat (n : Nat) : (ofNat n).length = Double.decimalLength n := by
  rw [ofNat, List.length_map, Double.decimalLength]

end ActorFacade.Text

namespace ActorFacade.Double

open Nat (length_toDigits_le_iff)

theorem decimalLength_pos (n : Nat) : 0 < decimalLength n := Nat.length_toDigits_pos

/-- A number has at most so many digits as the power of ten above it says. -/
theorem decimalLength_le_iff {n k : Nat} (hk : 0 < k) : decimalLength n ≤ k ↔ n < 10 ^ k :=
  length_toDigits_le_iff (by decide) hk

theorem lt_pow_decimalLength (n : Nat) : n < 10 ^ decimalLength n :=
  (decimalLength_le_iff (decimalLength_pos n)).1 le_rfl

/-- A zero more at the end. -/
theorem decimalLength_mul_ten {n : Nat} (hn : n ≠ 0) :
    decimalLength (n * 10) = decimalLength n + 1 := by
  rw [← Text.length_ofNat, ← Text.length_ofNat, Text.ofNat_of_le (by omega), List.length_append,
    List.length_singleton, Nat.mul_div_cancel n (by decide)]

theorem decimalLength_mul_pow {n : Nat} (hn : n ≠ 0) (k : Nat) :
    decimalLength (n * 10 ^ k) = decimalLength n + k := by
  induction k with
  | zero => simp
  | succ k ih =>
    have hne : n * 10 ^ k ≠ 0 := Nat.mul_ne_zero hn (by positivity)
    rw [pow_succ, ← mul_assoc, decimalLength_mul_ten hne, ih, add_assoc]

end ActorFacade.Double
