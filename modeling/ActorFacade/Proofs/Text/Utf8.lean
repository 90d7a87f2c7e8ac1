import ActorFacade.Text.Utf8
import ActorFacade.Proofs.Except

/-! # UTF-8 read back

The bytes of a scalar code point are read as that code point, whatever follows them
(`step_bytesOf`).  So a text that is encoded is passed over in decoding, also when it is only the
beginning of what is decoded, and no other scalar text has its bytes.  Where the bytes of a text are
cut off, decoding stops without a failure (`exists_decodeFrom_take`).
-/

namespace ActorFacade.Utf8

/-! ## Bytes -/

theorem toNat_toUInt8 {n : Nat} (h : n < 0x100) : n.toUInt8.toNat = n := by
  show (UInt8.ofNat n).toNat = n
  exact UInt8.toNat_ofNat_of_lt' h

theorem not_lt_of_toNat_le {b bound : UInt8} (h : bound.toNat ≤ b.toNat) : ¬b < bound := by
  rw [UInt8.lt_iff_toNat_lt]
  exact Nat.not_lt.2 h

theorem isContinuation_iff {b : UInt8} :
    isContinuation b = true ↔ 0x80 ≤ b.toNat ∧ b.toNat ≤ 0xBF := by
  simp only [isContinuation, Bool.and_eq_true, decide_eq_true_eq, UInt8.le_iff_toNat_le]
  rfl

theorem isSecond_iff {lead b : UInt8} :
    isSecond lead b = true ↔ 0x80 ≤ b.toNat ∧ b.toNat ≤ 0xBF ∧
      (lead.toNat = 0xE0 → 0xA0 ≤ b.toNat) ∧ (lead.toNat = 0xED → b.toNat < 0xA0) ∧
      (lead.toNat = 0xF0 → 0x90 ≤ b.toNat) ∧ (lead.toNat = 0xF4 → b.toNat < 0x90) := by
  have hne : ∀ n : UInt8, (lead != n) = true ↔ ¬lead.toNat = n.toNat := by
    intro n
    rw [bne_iff_ne, ne_eq, ← UInt8.toNat_inj]
  simp only [isSecond, Bool.and_eq_true, Bool.or_eq_true, isContinuation_iff, hne,
    decide_eq_true_eq, UInt8.le_iff_toNat_le, UInt8.lt_iff_toNat_lt, and_assoc,
    ← Decidable.imp_iff_not_or]
  rfl

/-! ## Bytes behind the first -/

theorem toNat_tail (n : Nat) : (0x80 + n % 0x40).toUInt8.toNat = 0x80 + n % 0x40 :=
  toNat_toUInt8 (by omega)

theorem low_tail (n : Nat) : low (0x80 + n % 0x40).toUInt8 = n % 0x40 := by
  show (0x80 + n % 0x40).toUInt8.toNat - 0x80 = n % 0x40
  rw [toNat_tail]
  omega

theorem isContinuation_tail (n : Nat) : isContinuation (0x80 + n % 0x40).toUInt8 = true := by
  rw [isContinuation_iff, toNat_tail]
  omega

/-! ## Steps -/

section Steps

variable {lead a b c : UInt8} (rest : List UInt8)

theorem step_one (h : lead.toNat < 0x80) : step lead rest = .codePoint lead.toNat 1 :=
  if_pos (UInt8.lt_iff_toNat_lt.2 h)

theorem step_two (hlow : 0xC2 ≤ lead.toNat) (hhigh : lead.toNat < 0xE0)
    (ha : isContinuation a = true) :
    step lead (a :: rest) = .codePoint ((lead.toNat - 0xC0) * 0x40 + low a) 2 := by
  have h1 : ¬lead < 0x80 := not_lt_of_toNat_le (Nat.le_trans (by decide) hlow)
  have h2 : ¬lead < 0xC2 := not_lt_of_toNat_le hlow
  rw [step.eq_def, if_neg h1, if_neg h2, if_pos (UInt8.lt_iff_toNat_lt.2 hhigh)]
  exact if_pos ha

theorem step_three (hlow : 0xE0 ≤ lead.toNat) (hhigh : lead.toNat < 0xF0)
    (ha : isSecond lead a = true) (hb : isContinuation b = true) :
    step lead (a :: b :: rest) =
      .codePoint ((lead.toNat - 0xE0) * 0x1000 + low a * 0x40 + low b) 3 := by
  have h1 : ¬lead < 0x80 := not_lt_of_toNat_le (Nat.le_trans (by decide) hlow)
  have h2 : ¬lead < 0xC2 := not_lt_of_toNat_le (Nat.le_trans (by decide) hlow)
  have h3 : ¬lead < 0xE0 := not_lt_of_toNat_le hlow
  rw [step.eq_def, if_neg h1, if_neg h2, if_neg h3, if_pos (UInt8.lt_iff_toNat_lt.2 hhigh)]
  simp only [ha, hb, Bool.not_true, Bool.false_eq_true, if_false, if_true]

theorem step_four (hlow : 0xF0 ≤ lead.toNat) (hhigh : lead.toNat < 0xF5)
    (ha : isSecond lead a = true) (hb : isContinuation b = true) (hc : isContinuation c = true) :
    step lead (a :: b :: c :: rest) =
      .codePoint ((lead.toNat - 0xF0) * 0x40000 + low a * 0x1000 + low b * 0x40 + low c) 4 := by
  have h1 : ¬lead < 0x80 := not_lt_of_toNat_le (Nat.le_trans (by decide) hlow)
  have h2 : ¬lead < 0xC2 := not_lt_of_toNat_le (Nat.le_trans (by decide) hlow)
  have h3 : ¬lead < 0xE0 := not_lt_of_toNat_le (Nat.le_trans (by decide) hlow)
  have h4 : ¬lead < 0xF0 := not_lt_of_toNat_le hlow
  rw [step.eq_def, if_neg h1, if_neg h2, if_neg h3, if_neg h4,
    if_pos (UInt8.lt_iff_toNat_lt.2 hhigh)]
  simp only [ha, hb, hc, Bool.not_true, Bool.false_eq_true, if_false, if_true]

end Steps

/-- The bytes of a code point are read as the code point. -/
theorem step_bytesOf {c : Nat} (hc : c < 0x110000) (hs : Text.isSurrogate c = false) :
    ∃ lead bytes, bytesOf c = lead :: bytes ∧
      ∀ rest, step lead (bytes ++ rest) = .codePoint c (bytes.length + 1) := by
  have hs : ¬(0xD800 ≤ c ∧ c ≤ 0xDFFF) := by
    rw [Text.isSurrogate, Bool.and_eq_false_iff, decide_eq_false_iff_not,
      decide_eq_false_iff_not] at hs
    exact fun h ↦ hs.elim (· h.1) (· h.2)
  by_cases h1 : c < 0x80
  · have hlead := toNat_toUInt8 (show c < 0x100 by omega)
    refine ⟨c.toUInt8, [], if_pos h1, fun rest ↦ ?_⟩
    rw [step_one _ (by omega), hlead]
    rfl
  by_cases h2 : c < 0x800
  · have hlead := toNat_toUInt8 (show 0xC0 + c / 0x40 < 0x100 by omega)
    refine ⟨_, _, (if_neg h1).trans (if_pos h2), fun rest ↦ ?_⟩
    have hvalue : (0xC0 + c / 0x40 - 0xC0) * 0x40 + c % 0x40 = c := by omega
    rw [List.cons_append, step_two _ (by omega) (by omega) (isContinuation_tail _), hlead, low_tail,
      hvalue]
    rfl
  by_cases h3 : c < 0x10000
  · have hlead := toNat_toUInt8 (show 0xE0 + c / 0x1000 < 0x100 by omega)
    refine ⟨_, _, (if_neg h1).trans ((if_neg h2).trans (if_pos h3)), fun rest ↦ ?_⟩
    have hvalue : (0xE0 + c / 0x1000 - 0xE0) * 0x1000 + c / 0x40 % 0x40 * 0x40 + c % 0x40 = c := by
      omega
    rw [List.cons_append, List.cons_append, step_three _ (by omega) (by omega) ?_
      (isContinuation_tail _), hlead, low_tail, low_tail, hvalue]
    · rfl
    · rw [isSecond_iff, hlead, toNat_tail]
      omega
  · have hlead := toNat_toUInt8 (show 0xF0 + c / 0x40000 < 0x100 by omega)
    refine ⟨_, _, (if_neg h1).trans ((if_neg h2).trans (if_neg h3)), fun rest ↦ ?_⟩
    have hvalue : (0xF0 + c / 0x40000 - 0xF0) * 0x40000 + c / 0x1000 % 0x40 * 0x1000 +
        c / 0x40 % 0x40 * 0x40 + c % 0x40 = c := by
      omega
    rw [List.cons_append, List.cons_append, List.cons_append, step_four _ (by omega) (by omega) ?_
      (isContinuation_tail _) (isContinuation_tail _), hlead, low_tail, low_tail, low_tail, hvalue]
    · rfl
    · rw [isSecond_iff, hlead, toNat_tail]
      omega

/-- A sequence that is cut off behind its first byte is unfinished. -/
theorem step_take {lead : UInt8} {rest : List UInt8} {c n k : Nat}
    (h : step lead rest = .codePoint c n) (hk : k + 1 < n) :
    step lead (rest.take k) = .unfinished := by
  unfold step at h ⊢
  repeat' split at h
  all_goals simp only [Step.codePoint.injEq, reduceCtorEq] at h
  all_goals obtain ⟨-, rfl⟩ := h
  -- A sequence has at most four bytes, so at most two are left behind the first.
  all_goals
    first
    | omega
    | obtain rfl | rfl | rfl : k = 0 ∨ k = 1 ∨ k = 2 := by omega
  all_goals first | omega | simp [*]

/-! ## Texts -/

/-- A text is encoded piece by piece. -/
theorem encodeFrom_append_eq_ok_iff {s t : Text} {pos : Nat} {bytes : List UInt8} :
    encodeFrom pos (s ++ t) = .ok bytes ↔
      ∃ lead rest, encodeFrom pos s = .ok lead ∧ encodeFrom (pos + s.length) t = .ok rest ∧
        bytes = lead ++ rest := by
  induction s generalizing pos bytes with
  | nil => simp [encodeFrom]
  | cons c s ih =>
    rw [List.cons_append, encodeFrom, encodeFrom]
    by_cases hsurrogate : Text.isSurrogate c = true
    · simp [hsurrogate]
    · have hpos : pos + 1 + s.length = pos + (c :: s).length := by
        rw [List.length_cons]
        omega
      rw [if_neg hsurrogate, if_neg hsurrogate]
      simp only [map_eq_ok_iff, ih, hpos]
      constructor
      · rintro ⟨_, ⟨lead, rest, hlead, hrest, rfl⟩, rfl⟩
        exact ⟨_, rest, ⟨lead, hlead, rfl⟩, hrest, (List.append_assoc _ _ _).symm⟩
      · rintro ⟨_, rest, ⟨lead, hlead, rfl⟩, hrest, rfl⟩
        exact ⟨_, ⟨lead, rest, hlead, hrest, rfl⟩, (List.append_assoc _ _ _).symm⟩

/-- A text without surrogates has the bytes of its code points, and no other text has bytes. -/
theorem encodeFrom_eq_ok_iff {t : Text} {pos : Nat} {bytes : List UInt8} :
    encodeFrom pos t = .ok bytes ↔
      t.any Text.isSurrogate = false ∧ bytes = t.flatMap bytesOf := by
  induction t generalizing pos bytes with
  | nil => simp [encodeFrom, eq_comm]
  | cons c t ih =>
    rw [encodeFrom, List.any_cons, List.flatMap_cons]
    by_cases hsurrogate : Text.isSurrogate c = true
    · simp [hsurrogate]
    · rw [if_neg hsurrogate, Bool.eq_false_iff.2 hsurrogate, Bool.false_or, map_eq_ok_iff]
      simp only [ih]
      constructor
      · rintro ⟨rest, ⟨ht, rfl⟩, rfl⟩
        exact ⟨ht, rfl⟩
      · rintro ⟨ht, rfl⟩
        exact ⟨_, ⟨ht, rfl⟩, rfl⟩

/-- Characters of ASCII are their own bytes. -/
theorem encodeFrom_of_ascii {t : Text} (h : ∀ c ∈ t, c < 0x80) (pos : Nat) :
    encodeFrom pos t = .ok (t.map Nat.toUInt8) := by
  induction t generalizing pos with
  | nil => rfl
  | cons c t ih =>
    obtain ⟨hc, ht⟩ := List.forall_mem_cons.1 h
    have hsurrogate : Text.isSurrogate c = false := by grind [Text.isSurrogate]
    rw [encodeFrom, if_neg (by simp [hsurrogate]), ih ht, bytesOf, if_pos hc]
    rfl

theorem isScalar_of_ascii {t : Text} (h : ∀ c ∈ t, c < 0x80) : t.IsScalar := by
  intro c hc
  have hlt := h c hc
  grind [Text.isSurrogate]

/-- The bytes that a code point takes behind its first one are passed over. -/
theorem decodeFrom_skip (pos : Nat) (bytes rest : List UInt8) :
    decodeFrom pos bytes.length (bytes ++ rest) = decodeFrom (pos + bytes.length) 0 rest := by
  induction bytes generalizing pos with
  | nil => rfl
  | cons b bytes ih =>
    rw [List.length_cons, List.cons_append, decodeFrom, ih, Nat.add_right_comm]
    rfl

/-- Decoding passes over the bytes of a scalar text. -/
theorem decodeFrom_append {s : Text} {pos : Nat} {lead : List UInt8} (hs : s.IsScalar)
    (hlead : encodeFrom pos s = .ok lead) (start : Nat) (rest : List UInt8) :
    decodeFrom start 0 (lead ++ rest) =
      (decodeFrom (start + lead.length) 0 rest).map fun r ↦ (s ++ r.1, r.2) := by
  induction s generalizing pos lead start with
  | nil =>
    cases hlead
    cases h : decodeFrom start 0 rest <;> simp [h, Except.map]
  | cons c s ih =>
    obtain ⟨⟨hc, hsurrogate⟩, hs⟩ := List.forall_mem_cons.1 hs
    rw [encodeFrom, if_neg (by simp [hsurrogate]), map_eq_ok_iff] at hlead
    obtain ⟨tail, htail, rfl⟩ := hlead
    obtain ⟨b, bytes, hbytes, hstep⟩ := step_bytesOf hc hsurrogate
    rw [hbytes, List.append_assoc, List.cons_append, decodeFrom, hstep]
    show (decodeFrom (start + 1) bytes.length (bytes ++ (tail ++ rest))).map _ = _
    rw [decodeFrom_skip, ih hs htail]
    have hlength : start + 1 + bytes.length + tail.length =
        start + ((b :: bytes) ++ tail).length := by
      rw [List.length_append, List.length_cons]
      omega
    rw [hlength]
    cases decodeFrom (start + ((b :: bytes) ++ tail).length) 0 rest <;> rfl

/-- Scalar texts with the same bytes are the same. -/
theorem encodeFrom_inj {s t : Text} {pos pos' : Nat} {bytes : List UInt8} (hs : s.IsScalar)
    (ht : t.IsScalar) (h : encodeFrom pos s = .ok bytes) (h' : encodeFrom pos' t = .ok bytes) :
    s = t := by
  have hdecode := (decodeFrom_append hs h 0 []).symm.trans (decodeFrom_append ht h' 0 [])
  simpa [decodeFrom, Except.map] using hdecode

/-- What can be encoded and consists of code points is scalar. -/
theorem isScalar_of_encodeFrom {t : Text} {pos : Nat} {bytes : List UInt8}
    (h : encodeFrom pos t = .ok bytes) (ht : ∀ c ∈ t, c < 0x110000) : t.IsScalar := by
  induction t generalizing pos bytes with
  | nil => exact List.forall_mem_nil _
  | cons c t ih =>
    obtain ⟨hc, ht⟩ := List.forall_mem_cons.1 ht
    rw [encodeFrom] at h
    split at h
    case isTrue => cases h
    case isFalse hsurrogate =>
      obtain ⟨rest, hrest, -⟩ := map_eq_ok_iff.1 h
      exact List.forall_mem_cons.2 ⟨⟨hc, by simpa using hsurrogate⟩, ih hrest ht⟩

/-- The bytes of a scalar text are decoded as far as they are there. -/
theorem exists_decodeFrom_take {s : Text} {pos : Nat} {bytes : List UInt8} (hs : s.IsScalar)
    (h : encodeFrom pos s = .ok bytes) (start k : Nat) :
    ∃ r, decodeFrom start 0 (bytes.take k) = .ok r := by
  induction s generalizing pos bytes start k with
  | nil =>
    cases h
    rw [List.take_nil]
    exact ⟨_, rfl⟩
  | cons c s ih =>
    obtain ⟨⟨hc, hsurrogate⟩, hs⟩ := List.forall_mem_cons.1 hs
    rw [encodeFrom, if_neg (by simp [hsurrogate]), map_eq_ok_iff] at h
    obtain ⟨tail, htail, rfl⟩ := h
    obtain ⟨b, front, hfront, hstep⟩ := step_bytesOf hc hsurrogate
    rw [hfront]
    cases k with
    | zero => exact ⟨_, rfl⟩
    | succ k =>
      rw [List.cons_append, List.take_succ_cons, decodeFrom]
      by_cases hk : k < front.length
      · -- The cut is within the bytes of the first code point.
        have hcut : step b ((front ++ tail).take k) = .unfinished :=
          step_take (hstep tail) (by omega)
        rw [hcut]
        exact ⟨_, rfl⟩
      · obtain ⟨r, hr⟩ := ih hs htail (start + 1 + front.length) (k - front.length)
        rw [List.take_append, List.take_of_length_le (by omega), hstep]
        show ∃ r, (decodeFrom (start + 1) front.length (front ++ tail.take _)).map _ = .ok r
        rw [decodeFrom_skip, hr]
        exact ⟨_, rfl⟩

/-! ## First lines -/

/-- A text without line ends is not changed by unifying those behind it. -/
theorem unifyNewlines_append {line rest : Text} (h : 0x0D ∉ line) :
    Text.unifyNewlines (line ++ 0x0A :: rest) = line ++ 0x0A :: Text.unifyNewlines rest := by
  induction line with
  | nil => rfl
  | cons c line ih =>
    obtain ⟨hc, hline⟩ := not_or.1 (mt List.mem_cons.2 h)
    have hne : c ≠ 0x0D := Ne.symm hc
    rw [List.cons_append, List.cons_append, Text.unifyNewlines, if_neg hne, ih hline]
    intro _ he
    exact absurd he hne

theorem hasLine_append (line rest : Text) : hasLine (line ++ 0x0A :: rest) = true := by
  induction line with
  | nil => cases rest <;> rfl
  | cons c line ih =>
    cases h : line ++ 0x0A :: rest with
    | nil => simp at h
    | cons d t =>
      rw [List.cons_append, h, hasLine, ← h, ih, Bool.or_true]
      simp

/-- The first line of a file is found in its first chunk if it is complete there. -/
theorem firstLine_append {line : Text} {lead rest : List UInt8} (hline : line.IsScalar)
    (hend : 0x0D ∉ line ∧ 0x0A ∉ line) (hlead : encode (line ++ [0x0A]) = .ok lead)
    (hlength : lead.length ≤ chunkSize) :
    firstLine (lead ++ rest) =
      (decodeFrom lead.length 0 (rest.take (chunkSize - lead.length))).map fun _ ↦ line := by
  have hscalar : Text.IsScalar (line ++ [0x0A]) := by
    rw [Text.IsScalar, List.forall_mem_append]
    exact ⟨hline, by decide⟩
  obtain ⟨b, tail, hcons⟩ : ∃ b tail, lead ++ rest = b :: tail := by
    obtain ⟨front, back, -, hback, rfl⟩ := encodeFrom_append_eq_ok_iff.1 hlead
    cases hback
    exact List.exists_cons_of_ne_nil (by simp [bytesOf])
  have hchunk : decodeFrom 0 0 ((b :: tail).take chunkSize) =
      (decodeFrom lead.length 0 (rest.take (chunkSize - lead.length))).map fun r ↦
        (line ++ 0x0A :: r.1, r.2) := by
    rw [← hcons, List.take_append, List.take_of_length_le hlength,
      decodeFrom_append hscalar hlead, Nat.zero_add]
    simp only [List.append_assoc, List.singleton_append]
  unfold firstLine
  rw [hcons, firstLineFrom, List.nil_append, hchunk]
  cases decodeFrom lead.length 0 (rest.take (chunkSize - lead.length)) with
  | error e => rfl
  | ok r =>
    show (if hasLine ([] ++ (line ++ 0x0A :: r.1)) = true then Except.ok ([] ++ _)
      else firstLineFrom _ _ _).map _ = _
    rw [List.nil_append, if_pos (hasLine_append _ _)]
    show Except.ok ((Text.unifyNewlines (line ++ 0x0A :: r.1)).takeWhile (· != 0x0A)) = .ok line
    rw [unifyNewlines_append hend.1, List.takeWhile_append_of_pos]
    · simp
    · intro c hc
      rw [bne_iff_ne]
      rintro rfl
      exact hend.2 hc

end ActorFacade.Utf8
