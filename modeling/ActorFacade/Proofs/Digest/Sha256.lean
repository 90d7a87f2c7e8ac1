import ActorFacade.Digest.Sha256
import ActorFacade.Text.Blank

/-! # Digests in hexadecimal digits

Every digest has thirty-two bytes, and what writes it are the digits `0` to `9` and `a` to `f`.
-/

namespace ActorFacade

namespace Text

/-- What hexadecimal digits are made of. -/
theorem exists_of_mem_hexDigits {width n : Nat} {c : CodePoint} (h : c ∈ hexDigits width n) :
    ∃ d < 16, c = hexDigit d := by
  induction width generalizing n with
  | zero => cases h
  | succ width ih =>
    rw [hexDigits, List.mem_append, List.mem_singleton] at h
    rcases h with h | rfl
    · exact ih h
    · exact ⟨n % 16, Nat.mod_lt _ (by decide), rfl⟩

/-- Hexadecimal digits stand between `0` and `f`. -/
theorem mem_hexDigits_bounds {width n : Nat} {c : CodePoint} (h : c ∈ hexDigits width n) :
    0x30 ≤ c ∧ c ≤ 0x66 := by
  obtain ⟨d, hd, rfl⟩ := exists_of_mem_hexDigits h
  grind [hexDigit]

end Text

namespace Sha256

theorem length_bigEndian (width n : Nat) : (bigEndian width n).length = width := by
  induction width generalizing n with
  | zero => rfl
  | succ width ih => rw [bigEndian, List.length_append, ih, List.length_singleton]

theorem length_digest (message : List UInt8) : (digest message).length = 32 := by
  simp [digest, State.words, length_bigEndian]

theorem mem_hexDigest_bounds {message : List UInt8} {c : CodePoint} (h : c ∈ hexDigest message) :
    0x30 ≤ c ∧ c ≤ 0x66 := by
  obtain ⟨b, -, hb⟩ := List.mem_flatMap.1 h
  exact Text.mem_hexDigits_bounds hb

theorem length_hexDigest (message : List UInt8) : (hexDigest message).length = 64 := by
  have hlength : ∀ bytes : List UInt8,
      (bytes.flatMap fun b ↦ Text.hexDigits 2 b.toNat).length = 2 * bytes.length := by
    intro bytes
    induction bytes with
    | nil => rfl
    | cons b bytes ih =>
      rw [List.flatMap_cons, List.length_append, ih, Text.length_hexDigits, List.length_cons]
      omega
  rw [hexDigest, hlength, length_digest]

end Sha256

end ActorFacade
