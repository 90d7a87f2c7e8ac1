import ActorFacade.Literal.Grammar
import ActorFacade.Literal.Writer
import ActorFacade.Proofs.Number.Decimal
import Mathlib.Data.List.TakeWhile

/-! # Numbers in literals

A well-formed numeral is read from its text, whatever follows, as long as what follows cannot go on
with it (`IsBoundary`).  The texts of integers and of binary numbers are those of well-formed
numerals with the right values.
-/

namespace ActorFacade.Literal

/-! ## Where tokens end -/

/-- A text begins with nothing that a number or a word could go on with. -/
def IsBoundary (t : Text) : Prop :=
  ∀ c, t.head? = some c → isWordPart c = false ∧ Text.isDigit c = false ∧ c ≠ 0x2E

theorem isBoundary_nil : IsBoundary [] := by simp [IsBoundary]

theorem isBoundary_cons {c : CodePoint} (hw : isWordPart c = false)
    (hd : Text.isDigit c = false) (hp : c ≠ 0x2E) (t : Text) : IsBoundary (c :: t) := by
  rintro _ ⟨⟩
  exact ⟨hw, hd, hp⟩

/-- A row of code points of a kind ends where the kind does. -/
theorem takeWhile_append_of_stop {p : CodePoint → Bool} {s rest : Text} (hs : ∀ c ∈ s, p c = true)
    (hrest : ∀ c, rest.head? = some c → p c = false) : (s ++ rest).takeWhile p = s := by
  rw [List.takeWhile_append_of_pos hs]
  cases rest with
  | nil => simp
  | cons c rest => simp [hrest c rfl]

namespace Numeral

/-! ## Parts -/

theorem digits?_append {ds rest : Text} (hds : IsDigits ds)
    (hrest : ∀ c, rest.head? = some c → Text.isDigit c = false) :
    digits? (ds ++ rest) = some ds := by
  simp [digits?, takeWhile_append_of_stop hds.2 hrest, hds.1]

theorem fraction?_fractionText_append {fraction : Option Text} {rest : Text}
    (hf : ∀ ds, fraction = some ds → IsDigits ds)
    (hrest : ∀ c, rest.head? = some c → Text.isDigit c = false ∧ c ≠ 0x2E) :
    fraction? (fractionText fraction ++ rest) = fraction := by
  cases fraction with
  | some ds => exact digits?_append (hf ds rfl) fun c hc ↦ (hrest c hc).1
  | none =>
    unfold fraction? fractionText
    split
    next t h => exact absurd rfl (hrest 0x2E (by simpa using congrArg List.head? h)).2
    next => rfl

/-- A digit is no sign. -/
theorem ne_sign_of_isDigit {c : CodePoint} (h : Text.isDigit c = true) : c ≠ 0x2B ∧ c ≠ 0x2D := by
  constructor <;> (rintro rfl; revert h; decide)

theorem power?_powerText_append {power : Option (CodePoint × Text × Text)} {rest : Text}
    (hp : ∀ mark sign ds, power = some (mark, sign, ds) →
      (mark = 0x65 ∨ mark = 0x45) ∧ (sign = [] ∨ sign = [0x2B] ∨ sign = [0x2D]) ∧ IsDigits ds)
    (hrest : IsBoundary rest) : power? (powerText power ++ rest) = power := by
  cases power with
  | none =>
    cases rest with
    | nil => rfl
    | cons c rest =>
      have hc : c ≠ 0x65 ∧ c ≠ 0x45 := by
        constructor <;> (rintro rfl; exact absurd (hrest _ rfl).1 (by decide))
      simp [powerText, power?, hc.1, hc.2]
  | some power =>
    obtain ⟨mark, sign, ds⟩ := power
    obtain ⟨hmark, hsign, hds⟩ := hp mark sign ds rfl
    have hmark : (mark = 0x65 || mark = 0x45) = true := by simpa using hmark
    have hread := digits?_append hds fun c hc ↦ (hrest c hc).2.1
    obtain ⟨d, ds, rfl⟩ := List.exists_cons_of_ne_nil hds.1
    have hd := ne_sign_of_isDigit (hds.2 d List.mem_cons_self)
    rw [List.cons_append] at hread
    rcases hsign with rfl | rfl | rfl
    · simp [powerText, power?, hmark, hd.1, hd.2, hread]
    · simp [powerText, power?, hmark, hread]
    · simp [powerText, power?, hmark, hread]

/-! ## Whole numerals -/

/-- What an exponent, or what follows where there is none, begins with is no digit and no point. -/
theorem head?_powerText_append {power : Option (CodePoint × Text × Text)} {rest : Text}
    (hp : ∀ mark sign ds, power = some (mark, sign, ds) →
      (mark = 0x65 ∨ mark = 0x45) ∧ (sign = [] ∨ sign = [0x2B] ∨ sign = [0x2D]) ∧ IsDigits ds)
    (hrest : IsBoundary rest) :
    ∀ c, (powerText power ++ rest).head? = some c → Text.isDigit c = false ∧ c ≠ 0x2E := by
  cases power with
  | none => exact fun c hc ↦ (hrest c hc).2
  | some power =>
    obtain ⟨mark, sign, ds⟩ := power
    rintro _ ⟨⟩
    rcases (hp mark sign ds rfl).1 with rfl | rfl <;> decide

theorem unsigned?_append {n : Numeral} (h : n.IsWellFormed) {rest : Text}
    (hrest : IsBoundary rest) :
    unsigned? n.negative (n.whole ++ fractionText n.fraction ++ powerText n.power ++ rest) =
      some n := by
  obtain ⟨hw, hf, hp⟩ := h
  have hpower := head?_powerText_append hp hrest
  have hfraction : ∀ c, (fractionText n.fraction ++ (powerText n.power ++ rest)).head? = some c →
      Text.isDigit c = false := by
    cases n.fraction with
    | none => exact fun c hc ↦ (hpower c hc).1
    | some ds =>
      rintro _ ⟨⟩
      decide
  simp only [unsigned?, List.append_assoc, digits?_append hw hfraction, Option.map_some,
    List.drop_left, fraction?_fractionText_append hf hpower, power?_powerText_append hp hrest]

/-- A numeral is read from its text, whatever follows. -/
theorem read?_text_append {n : Numeral} (h : n.IsWellFormed) {rest : Text}
    (hrest : IsBoundary rest) : read? (n.text ++ rest) = some n := by
  have hread := unsigned?_append h hrest
  obtain ⟨d, ds, hw⟩ := List.exists_cons_of_ne_nil h.1.1
  have hd := ne_sign_of_isDigit (h.1.2 d (hw ▸ List.mem_cons_self))
  unfold text
  cases hneg : n.negative with
  | true =>
    rw [hneg] at hread
    simpa [read?] using hread
  | false =>
    rw [hneg, hw] at hread
    simpa [hw, read?, hd.2] using hread

/-! ## Digits that are written -/

theorem isDigits_of_ascii {t : Text} (hne : t ≠ []) (h : ∀ c ∈ t, Text.isAsciiDigit c = true) :
    IsDigits t := ⟨hne, fun c hc ↦ Text.isDigit_of_isAsciiDigit (h c hc)⟩

theorem isAsciiDigit_of_mem_zeros {n : Nat} {c : CodePoint} (h : c ∈ DecimalLayout.zeros n) :
    Text.isAsciiDigit c = true := by
  rw [List.eq_of_mem_replicate h]
  rfl

/-- The digits of a number behind zeros. -/
theorem isDigits_zeros_append (k n : Nat) : IsDigits (DecimalLayout.zeros k ++ Text.ofNat n) :=
  isDigits_of_ascii (by simp [Text.ofNat_ne_nil]) <| List.forall_mem_append.2
    ⟨fun _ ↦ isAsciiDigit_of_mem_zeros, fun _ ↦ Text.isAsciiDigit_of_mem_ofNat⟩

/-- The digits of a number before zeros. -/
theorem isDigits_append_zeros (n k : Nat) : IsDigits (Text.ofNat n ++ DecimalLayout.zeros k) :=
  isDigits_of_ascii (by simp [Text.ofNat_ne_nil]) <| List.forall_mem_append.2
    ⟨fun _ ↦ Text.isAsciiDigit_of_mem_ofNat, fun _ ↦ isAsciiDigit_of_mem_zeros⟩

theorem isDigits_ofNat (n : Nat) : IsDigits (Text.ofNat n) :=
  isDigits_of_ascii (Text.ofNat_ne_nil n) fun _ ↦ Text.isAsciiDigit_of_mem_ofNat

/-- A part of the digits of a number. -/
theorem isDigits_of_subset_ofNat {t : Text} {n : Nat} (hne : t ≠ []) (h : t ⊆ Text.ofNat n) :
    IsDigits t := isDigits_of_ascii hne fun _ hc ↦ Text.isAsciiDigit_of_mem_ofNat (h hc)

/-! ## Decimals as numerals -/

/-- A numeral spells a decimal: it has no sign, it is not that of an integer, and it is read as the
decimal is. -/
structure Spells (n : Numeral) (d : Decimal) : Prop where
  wellFormed : n.IsWellFormed
  unsigned : n.negative = false
  fractional : n.fraction ≠ none ∨ n.power ≠ none
  reads : ∀ negative, Double.ofDecimal negative
    (Text.digitsValue (n.whole ++ n.fraction.getD [])) (n.exponent - (n.fraction.getD []).length) =
      Double.ofDecimal negative d.digits d.exponent

/-- Digits, zeros, a point and a zero. -/
theorem spells_whole {d : Decimal} (he : 0 ≤ d.exponent) :
    Spells ⟨false, Text.ofNat d.digits ++ DecimalLayout.zeros d.exponent.toNat, some [0x30], none⟩
      d where
  wellFormed := by
    refine ⟨isDigits_append_zeros _ _, ?_, by simp⟩
    rintro _ ⟨⟩
    exact isDigits_of_ascii (by simp) (by decide)
  unsigned := rfl
  fractional := by simp
  reads negative := by
    have hzeros : Text.digitsValue (DecimalLayout.zeros d.exponent.toNat) = 0 :=
      Text.digitsValue_replicate_zero _
    have hlength : (DecimalLayout.zeros d.exponent.toNat).length = d.exponent.toNat :=
      List.length_replicate
    have hzero : Text.digitsValue [0x30] = 0 := rfl
    simp only [Option.getD_some, Text.digitsValue_append, Text.digitsValue_ofNat, hzeros, hlength,
      hzero, add_zero, mul_assoc, ← pow_add, Double.ofDecimal_mul_pow]
    congr 1
    simp [exponent]
    omega

/-- Digits with a point among them. -/
theorem spells_pointed {d : Decimal} (he : d.exponent < 0) {k : Nat}
    (hk : (k : Int) = (Text.ofNat d.digits).length + d.exponent) (hpos : 0 < k) :
    Spells ⟨false, (Text.ofNat d.digits).take k, some ((Text.ofNat d.digits).drop k), none⟩ d where
  wellFormed := by
    refine ⟨isDigits_of_subset_ofNat ?_ (List.take_subset _ _), ?_, by simp⟩
    · simp [Text.ofNat_ne_nil]
      omega
    · rintro _ ⟨⟩
      refine isDigits_of_subset_ofNat ?_ (List.drop_subset _ _)
      simp
      omega
  unsigned := rfl
  fractional := by simp
  reads negative := by
    simp only [Option.getD_some, List.take_append_drop, Text.digitsValue_ofNat, exponent,
      List.length_drop]
    congr 1
    omega

/-- A zero, a point, zeros and digits. -/
theorem spells_small {d : Decimal} {k : Nat}
    (hk : (k : Int) = -((Text.ofNat d.digits).length + d.exponent)) :
    Spells ⟨false, [0x30], some (DecimalLayout.zeros k ++ Text.ofNat d.digits), none⟩ d where
  wellFormed := by
    refine ⟨⟨by simp, by simp; decide⟩, ?_, by simp⟩
    rintro _ ⟨⟩
    exact isDigits_zeros_append _ _
  unsigned := rfl
  fractional := by simp
  reads negative := by
    have hzeros : Text.digitsValue (0x30 :: DecimalLayout.zeros k) = 0 :=
      Text.digitsValue_replicate_zero (k + 1)
    simp only [Option.getD_some, List.singleton_append, ← List.cons_append,
      Text.digitsValue_append, Text.digitsValue_ofNat, hzeros, zero_mul, zero_add, exponent]
    congr 1
    simp [DecimalLayout.zeros]
    omega

/-- One digit, perhaps a point and digits, and an exponent. -/
theorem spells_scientific (width : Nat) {d : Decimal} {lead : Int}
    (hlead : lead = (Text.ofNat d.digits).length - 1 + d.exponent) :
    Spells ⟨false, (Text.ofNat d.digits).take 1,
      if ((Text.ofNat d.digits).drop 1).isEmpty then none else some ((Text.ofNat d.digits).drop 1),
      some (0x65, [if lead < 0 then 0x2D else 0x2B],
        DecimalLayout.zeros (width - (Text.ofNat lead.natAbs).length) ++
          Text.ofNat lead.natAbs)⟩ d where
  wellFormed := by
    refine ⟨isDigits_of_subset_ofNat (by simp [Text.ofNat_ne_nil]) (List.take_subset _ _),
      ?_, ?_⟩
    · intro ds hds
      split at hds
      case isTrue => simp at hds
      case isFalse hne =>
        cases hds
        exact isDigits_of_subset_ofNat (by simpa using hne) (List.drop_subset _ _)
    · rintro _ _ _ ⟨⟩
      refine ⟨.inl rfl, ?_, isDigits_zeros_append _ _⟩
      split <;> simp
  unsigned := rfl
  fractional := .inr (by simp)
  reads negative := by
    have htail : (if ((Text.ofNat d.digits).drop 1).isEmpty then none
        else some ((Text.ofNat d.digits).drop 1)).getD [] = (Text.ofNat d.digits).drop 1 := by
      split <;> simp_all
    have hzeros : ∀ n, Text.digitsValue (DecimalLayout.zeros n) = 0 :=
      Text.digitsValue_replicate_zero
    have hlength : 0 < (Text.ofNat d.digits).length :=
      List.length_pos_iff.2 (Text.ofNat_ne_nil _)
    simp only [htail, List.take_append_drop, Text.digitsValue_ofNat, exponent,
      Text.digitsValue_append, hzeros, zero_mul, zero_add, List.length_drop]
    congr 1
    by_cases hneg : lead < 0
    · rw [if_pos hneg, if_pos rfl]
      omega
    · rw [if_neg hneg, if_neg (by decide)]
      omega

/-- Every layout of a decimal is the text of a numeral that spells it. -/
theorem exists_spells_write (layout : DecimalLayout) (d : Decimal) :
    ∃ n : Numeral, n.Spells d ∧ n.text = layout.write d := by
  unfold DecimalLayout.write
  dsimp only
  generalize hlead : ((Text.ofNat d.digits).length : Int) - 1 + d.exponent = lead
  split
  case isTrue =>
    split
    case isTrue he => exact ⟨_, spells_whole he, by simp [text, fractionText, powerText]; rfl⟩
    case isFalse he =>
      split
      case isTrue =>
        refine ⟨_, spells_pointed (k := lead.toNat + 1) (by omega) (by omega) (by omega), ?_⟩
        simp [text, fractionText, powerText]
      case isFalse =>
        refine ⟨_, spells_small (k := (-lead - 1).toNat) (by omega), ?_⟩
        simp [text, fractionText, powerText]
        rfl
  case isFalse =>
    refine ⟨_, spells_scientific layout.exponentWidth hlead.symm, ?_⟩
    simp only [text, powerText, DecimalLayout.exponentText, Bool.false_eq_true, if_false,
      List.nil_append]
    by_cases htail : ((Text.ofNat d.digits).drop 1).isEmpty
    · rw [if_pos htail, if_pos htail]
      rfl
    · rw [if_neg htail, if_neg htail]
      rfl

/-- Without a sign and with one, what spells a decimal is the numeral of a binary number. -/
theorem Spells.value_of {n : Numeral} {d : Decimal} (h : n.Spells d) (negative : Bool) :
    ({ n with negative } : Numeral).value =
      .ok (.double (Double.ofDecimal negative d.digits d.exponent)) := by
  have hreads := h.reads negative
  obtain ⟨_, whole, fraction, power⟩ := n
  have hfractional := h.fractional
  unfold value
  cases fraction with
  | some ds => exact congrArg (fun x ↦ Except.ok (Value.double x)) hreads
  | none =>
    cases power with
    | some power => exact congrArg (fun x ↦ Except.ok (Value.double x)) hreads
    | none => simp at hfractional

end Numeral

/-! ## Written numbers -/

/-- An integer that is not too long is written as a number. -/
theorem isNumber_ofInt {i : Int} (h : Integer.isTooLong i = false) :
    IsNumber (Text.ofInt i) (.int i) := by
  refine ⟨⟨i < 0, Text.ofNat i.natAbs, none, none⟩, ⟨Numeral.isDigits_ofNat _, by simp, by simp⟩,
    ?_, ?_⟩
  · unfold Text.ofInt Numeral.text
    by_cases hi : i < 0 <;> simp [hi, Numeral.fractionText, Numeral.powerText]
  · have hlength : ¬Integer.maxDigits < (Text.ofNat i.natAbs).length := by
      rw [Integer.isTooLong, decide_eq_false_iff_not, not_le] at h
      rw [not_lt, Text.length_ofNat]
      exact (Double.decimalLength_le_iff (by decide)).2 h
    simp only [Numeral.value, Integer.read, if_neg hlength, Text.digitsValue_ofNat, Except.map]
    by_cases hi : i < 0
    · simp [hi, abs_of_neg]
    · simp [hi, abs_of_nonneg (not_lt.1 hi)]

/-- A finite number of the format is written as a number. -/
theorem isNumber_finiteText {negative : Bool} {m : Nat} {e : Int}
    (h : Double.IsCanonical (.finite negative m e)) :
    IsNumber (Double.finiteText negative m e) (.double (.finite negative m e)) := by
  unfold Double.finiteText
  by_cases hm : m = 0
  · obtain ⟨-, -, -, hlow⟩ := h
    obtain rfl : e = -1074 := by omega
    refine ⟨⟨negative, [0x30], some [0x30], none⟩, ⟨?_, ?_, by simp⟩, ?_, ?_⟩
    · exact ⟨by simp, by simp; decide⟩
    · rintro _ ⟨⟩
      exact ⟨by simp, by simp; decide⟩
    · rw [if_pos hm]
      cases negative <;> rfl
    · subst hm
      rfl
  · obtain ⟨n, hn, htext⟩ := Numeral.exists_spells_write Double.layout (Double.shortest m e)
    refine ⟨{ n with negative }, hn.wellFormed, ?_, ?_⟩
    · rw [if_neg hm, ← htext]
      simp [Numeral.text, hn.unsigned]
    · rw [hn.value_of, Double.ofDecimal_shortest hm negative h]

end ActorFacade.Literal
