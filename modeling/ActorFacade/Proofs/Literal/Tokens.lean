import ActorFacade.Proofs.Literal.Numeral
import ActorFacade.Proofs.Literal.Strings

/-! # Tokens of written texts

A literal without parts is one token, whatever follows it, as long as what follows cannot go on with
it (`tokensFrom_scalar`).  Blanks between tokens only move the position.
-/

namespace ActorFacade.Literal

/-! ## One token after the other -/

theorem tokensFrom_skip (s t : Text) (pos : Nat) :
    tokensFrom pos s.length (s ++ t) = tokensFrom (pos + s.length) 0 t := by
  induction s generalizing pos with
  | nil => rfl
  | cons c s ih =>
    rw [List.length_cons, List.cons_append, tokensFrom, ih]
    congr 1
    omega

/-- A token is followed by the tokens of what follows its text. -/
theorem tokensFrom_token {c : CodePoint} {s t : Text} {tok : Token} (hc : Text.isBlank c = false)
    (h : token c (s ++ t) = (tok, (c :: s).length)) (htok : ∀ d, tok ≠ .bad d) (pos : Nat) :
    tokensFrom pos 0 (c :: s ++ t) = ⟨pos, tok⟩ :: tokensFrom (pos + (c :: s).length) 0 t := by
  rw [List.cons_append, tokensFrom, if_neg (by simp [hc]), h]
  split
  next d _ heq => exact absurd (congrArg Prod.fst heq) (htok d)
  next heq =>
    cases heq
    rw [List.length_cons, Nat.add_sub_cancel, tokensFrom_skip]
    congr 2
    omega

theorem tokensFrom_blanks {b : Text} (h : IsBlanks b) (t : Text) (pos : Nat) :
    tokensFrom pos 0 (b ++ t) = tokensFrom (pos + b.length) 0 t := by
  induction b generalizing pos with
  | nil => rfl
  | cons c b ih =>
    simp only [IsBlanks, Text.isAllBlank, List.all_cons, Bool.and_eq_true] at h
    rw [List.cons_append, tokensFrom, if_pos h.1, ih h.2, List.length_cons]
    congr 1
    omega

theorem tokensFrom_opening (t : Text) (pos : Nat) :
    tokensFrom pos 0 (0x5B :: t) = ⟨pos, .opening⟩ :: tokensFrom (pos + 1) 0 t :=
  tokensFrom_token (s := []) rfl rfl (by simp) pos

theorem tokensFrom_closing (t : Text) (pos : Nat) :
    tokensFrom pos 0 (0x5D :: t) = ⟨pos, .closing⟩ :: tokensFrom (pos + 1) 0 t :=
  tokensFrom_token (s := []) rfl rfl (by simp) pos

theorem tokensFrom_comma (t : Text) (pos : Nat) :
    tokensFrom pos 0 (0x2C :: t) = ⟨pos, .comma⟩ :: tokensFrom (pos + 1) 0 t :=
  tokensFrom_token (s := []) rfl rfl (by simp) pos

theorem tokensFrom_arrow (t : Text) (pos : Nat) :
    tokensFrom pos 0 (0x3D :: 0x3E :: t) = ⟨pos, .arrow⟩ :: tokensFrom (pos + 2) 0 t :=
  tokensFrom_token (s := [0x3E]) rfl rfl (by simp) pos

/-! ## Numbers -/

/-- What a row of digits begins with begins no other token. -/
theorem isDigit_disjoint {c : CodePoint} (h : Text.isDigit c = true) :
    Text.isBlank c = false ∧ c ∉ ([0x22, 0x2C, 0x2D, 0x3D, 0x5B, 0x5D] : Text) := by
  have hall : ∀ z ∈ Text.digitZeros, ∀ d < 10, Text.isBlank (z + d) = false ∧
      z + d ∉ ([0x22, 0x2C, 0x2D, 0x3D, 0x5B, 0x5D] : Text) := by decide
  obtain ⟨z, hz, d, hd, rfl⟩ := Text.exists_zero_of_isDigit h
  exact hall z hz d hd

/-- Where no bracket, mark, comma or arrow begins, there is a number, a word or neither. -/
theorem token_eq_of_notMem {c : CodePoint} {t : Text}
    (h : c ∉ ([0x22, 0x2C, 0x3D, 0x5B, 0x5D] : Text)) :
    token c t = match Numeral.read? (c :: t) with
      | some n =>
        match n.value with
        | .ok v => (.value v, n.text.length)
        | .error e => (.bad (.limit e), 1)
      | none =>
        match (word? (c :: t)).bind fun word ↦ (wordValue? word).map fun v ↦ (v, word.length) with
        | some (v, length) => (.value v, length)
        | none => (.bad .unrecognised, 1) := by
  simp only [List.mem_cons, List.not_mem_nil, or_false, not_or] at h
  obtain ⟨h22, h2C, h3D, h5B, h5D⟩ := h
  unfold token
  exact (if_neg h22).trans ((if_neg h5B).trans ((if_neg h5D).trans ((if_neg h2C).trans
    (if_neg (by simp [h3D])))))

/-- What a numeral begins with. -/
theorem exists_cons_text {n : Numeral} (h : n.IsWellFormed) :
    ∃ c s, n.text = c :: s ∧ Text.isBlank c = false ∧
      c ∉ ([0x22, 0x2C, 0x3D, 0x5B, 0x5D] : Text) := by
  cases hneg : n.negative with
  | true => exact ⟨0x2D, _, by rw [Numeral.text, if_pos hneg]; rfl, by decide, by decide⟩
  | false =>
    obtain ⟨d, ds, hw⟩ := List.exists_cons_of_ne_nil h.1.1
    obtain ⟨hblank, hmark⟩ := isDigit_disjoint (h.1.2 d (hw ▸ List.mem_cons_self))
    refine ⟨d, ds ++ Numeral.fractionText n.fraction ++ Numeral.powerText n.power, ?_, hblank, ?_⟩
    · simp [Numeral.text, hneg, hw]
    · simp only [List.mem_cons, List.not_mem_nil, or_false, not_or] at hmark ⊢
      exact ⟨hmark.1, hmark.2.1, hmark.2.2.2⟩

theorem tokensFrom_number {t : Text} {v : Value} (h : IsNumber t v) {rest : Text}
    (hrest : IsBoundary rest) (pos : Nat) :
    tokensFrom pos 0 (t ++ rest) = ⟨pos, .value v⟩ :: tokensFrom (pos + t.length) 0 rest := by
  obtain ⟨n, hn, rfl, hv⟩ := h
  have hread := Numeral.read?_text_append hn hrest
  obtain ⟨c, s, htext, hblank, hmark⟩ := exists_cons_text hn
  rw [htext, List.cons_append] at hread
  rw [htext]
  refine tokensFrom_token hblank ?_ (by simp) pos
  rw [token_eq_of_notMem hmark, hread]
  simp only [hv, htext]

/-! ## Words -/

theorem isAsciiLetter_of_asciiLower {c : CodePoint}
    (h : Text.isAsciiLetter (Text.asciiLower c) = true) : Text.isAsciiLetter c = true := by
  grind [Text.isAsciiLetter, Text.asciiLower]

theorem eq_minus_of_asciiLower {c : CodePoint} (h : Text.asciiLower c = 0x2D) : c = 0x2D := by
  grind [Text.asciiLower]

theorem isWordPart_of_isAsciiLetter {c : CodePoint} (h : Text.isAsciiLetter c = true) :
    isWordPart c = true := by
  simp [isWordPart, isWordStart, h]

theorem isBlank_of_isAsciiLetter {c : Nat} (h : Text.isAsciiLetter c = true) :
    Text.isBlank c = false := by
  simp only [Text.isAsciiLetter, Bool.or_eq_true, Bool.and_eq_true, decide_eq_true_eq] at h
  simp only [Text.isBlank, Bool.or_eq_false_iff, Bool.and_eq_false_iff, decide_eq_false_iff_not,
    beq_eq_false_iff_ne, ne_eq]
  unfold CodePoint at *
  omega

/-- A letter begins no other token, and no digit is a letter. -/
theorem isAsciiLetter_disjoint {c : CodePoint} (h : Text.isAsciiLetter c = true) :
    Text.isBlank c = false ∧ Text.isDigit c = false ∧
      c ∉ ([0x22, 0x2C, 0x2D, 0x3D, 0x5B, 0x5D] : Text) := by
  refine ⟨isBlank_of_isAsciiLetter h, ?_, ?_⟩
  · have hlt : c < 0x80 := by grind [Text.isAsciiLetter]
    rw [Text.isDigit_eq_isAsciiDigit hlt]
    grind [Text.isAsciiLetter, Text.isAsciiDigit]
  · intro hmark
    have hall : ∀ d ∈ ([0x22, 0x2C, 0x2D, 0x3D, 0x5B, 0x5D] : Text),
        Text.isAsciiLetter d = false := by decide
    rw [hall c hmark] at h
    cases h

/-- What has a lower-case form of letters has letters only. -/
theorem letters_of_lower {t name : Text} (h : t.map Text.asciiLower = name)
    (hname : ∀ c ∈ name, Text.isAsciiLetter c = true) : ∀ c ∈ t, Text.isAsciiLetter c = true := by
  intro c hc
  exact isAsciiLetter_of_asciiLower (hname _ (h ▸ List.mem_map_of_mem hc))

/-- A word is a row of letters, perhaps behind a minus sign. -/
theorem letters_of_isWord {t : Text} {v : Value} (h : IsWord t v) :
    ∃ (c : CodePoint) (s : Text), (∀ d ∈ c :: s, Text.isAsciiLetter d = true) ∧
      (t = c :: s ∨ t = 0x2D :: c :: s) := by
  have hplain : ∀ {name : Text}, t.map Text.asciiLower = name → name ≠ [] →
      (∀ c ∈ name, Text.isAsciiLetter c = true) → ∃ (c : CodePoint) (s : Text),
        (∀ d ∈ c :: s, Text.isAsciiLetter d = true) ∧ (t = c :: s ∨ t = 0x2D :: c :: s) := by
    intro name hname hne hletters
    have ht : t ≠ [] := by
      rintro rfl
      exact hne hname.symm
    obtain ⟨c, s, rfl⟩ := List.exists_cons_of_ne_nil ht
    exact ⟨c, s, letters_of_lower hname hletters, .inl rfl⟩
  simp only [IsWord, wordValue?] at h
  split at h
  case isTrue hname => exact hplain hname (by decide) (by decide)
  split at h
  case isTrue hname => exact hplain hname (by decide) (by decide)
  split at h
  case isTrue hname => exact hplain hname (by decide) (by decide)
  split at h
  case isTrue hname => exact hplain hname (by decide) (by decide)
  split at h
  case isTrue hname => exact hplain hname (by decide) (by decide)
  split at h
  case isFalse => cases h
  case isTrue hname =>
    obtain ⟨m, c, s, rfl⟩ : ∃ m c s, t = m :: c :: s := by
      match t, hname with
      | [], hname | [_], hname => exact absurd hname (by simp [Text.ofString])
      | m :: c :: s, _ => exact ⟨m, c, s, rfl⟩
    obtain ⟨hm, hs⟩ := List.cons.inj hname
    obtain rfl := eq_minus_of_asciiLower hm
    exact ⟨c, s, letters_of_lower hs (by decide), .inr rfl⟩

/-- Letters begin no number, with a minus sign in front of them or without. -/
theorem read?_letters {c : CodePoint} (h : Text.isAsciiLetter c = true) (t : Text) :
    Numeral.read? (c :: t) = none ∧ Numeral.read? (0x2D :: c :: t) = none := by
  obtain ⟨-, hdigit, hmark⟩ := isAsciiLetter_disjoint h
  have hminus : c ≠ 0x2D := by
    rintro rfl
    exact hmark (by decide)
  simp [Numeral.read?, Numeral.unsigned?, Numeral.digits?, hdigit, hminus]

theorem word?_letters {c : CodePoint} {s rest : Text}
    (h : ∀ d ∈ c :: s, Text.isAsciiLetter d = true) (hrest : IsBoundary rest) :
    word? (c :: (s ++ rest)) = some (c :: s) ∧
      word? (0x2D :: c :: (s ++ rest)) = some (0x2D :: c :: s) := by
  have hc := h c List.mem_cons_self
  have hstart : isWordStart c = true := by simp [isWordStart, hc]
  have hminus : c ≠ 0x2D := by
    rintro rfl
    exact absurd hc (by decide)
  have hspan : (s ++ rest).takeWhile isWordPart = s :=
    takeWhile_append_of_stop
      (fun d hd ↦ isWordPart_of_isAsciiLetter (h d (List.mem_cons_of_mem _ hd)))
      fun d hd ↦ (hrest d hd).1
  simp [word?, hminus, hstart, hspan]

theorem tokensFrom_word {t : Text} {v : Value} (h : IsWord t v) {rest : Text}
    (hrest : IsBoundary rest) (pos : Nat) :
    tokensFrom pos 0 (t ++ rest) = ⟨pos, .value v⟩ :: tokensFrom (pos + t.length) 0 rest := by
  obtain ⟨c, s, hs, rfl | rfl⟩ := letters_of_isWord h
  · obtain ⟨hblank, -, hmark⟩ := isAsciiLetter_disjoint (hs c List.mem_cons_self)
    refine tokensFrom_token hblank ?_ (by simp) pos
    rw [token_eq_of_notMem (by grind), (read?_letters (hs c List.mem_cons_self) _).1,
      (word?_letters hs hrest).1]
    simp [show wordValue? (c :: s) = some v from h]
  · refine tokensFrom_token rfl ?_ (by simp) pos
    rw [List.cons_append, token_eq_of_notMem (by decide),
      (read?_letters (hs c List.mem_cons_self) _).2, (word?_letters hs hrest).2]
    simp [show wordValue? (0x2D :: c :: s) = some v from h]

/-! ## Scalars -/

theorem tokensFrom_string {t v : Text} (h : IsString t v) (rest : Text) (pos : Nat) :
    tokensFrom pos 0 (t ++ rest) =
      ⟨pos, .value (.text v)⟩ :: tokensFrom (pos + t.length) 0 rest := by
  obtain ⟨s, rfl, hread⟩ := readTail_of_isString h
  refine tokensFrom_token rfl ?_ (by simp) pos
  simp only [token, if_true, hread, List.length_append, List.length_cons]
  congr 1
  omega

/-- A literal without parts is one token. -/
theorem tokensFrom_scalar {t : Text} {v : Value} (h : IsScalar t v) {rest : Text}
    (hrest : IsBoundary rest) (pos : Nat) :
    tokensFrom pos 0 (t ++ rest) = ⟨pos, .value v⟩ :: tokensFrom (pos + t.length) 0 rest := by
  cases h with
  | string h => exact tokensFrom_string h rest pos
  | number h => exact tokensFrom_number h hrest pos
  | word h => exact tokensFrom_word h hrest pos

end ActorFacade.Literal
