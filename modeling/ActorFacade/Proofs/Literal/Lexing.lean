import ActorFacade.Literal.Derivation
import ActorFacade.Proofs.Except
import ActorFacade.Proofs.Literal.Tokens

/-! # Parts found in a text

A token that is not bad is that of a part of a literal which stands where the token was found
(`exists_part_of_token`).  So a text without bad tokens is made up of parts and of blanks
(`exists_parts_of_tokensFrom`).
-/

namespace ActorFacade.Literal

open Escaped (unitValue? simpleEscape? isHigh isLow joinPair lowHalf? readFrom)

/-! ## Strings -/

/-- A second half that is found is written by four digits behind a mark. -/
theorem exists_unit_of_lowHalf? {t : Text} {n : Nat} (h : lowHalf? t = .ok (some n)) :
    ∃ a b c d rest, t = (Piece.unit a b c d).text ++ rest ∧ unitValue? a b c d = some n ∧
      isLow n = true := by
  unfold lowHalf? at h
  split at h
  case h_1 a b c d x rest =>
    split at h
    case h_1 => cases h
    case h_2 m hunit =>
      split at h
      case isTrue hlow =>
        cases h
        exact ⟨a, b, c, d, x :: rest, rfl, hunit, hlow⟩
      case isFalse => cases h
  case h_2 => cases h

/-- A piece that no second half follows stands for its value. -/
theorem values?_cons_of_lowHalf? {p : Piece} {m : CodePoint} (hp : p.value? = some m)
    {ps : List Piece} {v rest : Text} (hv : Piece.values? ps = some v)
    (h : p.isUnit = true → isHigh m = true →
      lowHalf? (ps.flatMap Piece.text ++ 0x22 :: rest) = .ok none) :
    Piece.values? (p :: ps) = some (m :: v) := by
  cases hfirst : p.isUnit && isHigh m with
  | false => exact values?_cons hp hfirst hv
  | true =>
    rw [Bool.and_eq_true] at hfirst
    have hlow := h hfirst.1 hfirst.2
    cases ps with
    | nil =>
      cases hv
      simp [Piece.values?, hp]
    | cons q ps =>
      cases hq : q.value? with
      | none => cases ps <;> simp [Piece.values?, hq] at hv
      | some n =>
        -- A second half that followed would have been found.
        have hpair : (p.isUnit && q.isUnit && isHigh m && isLow n) = false := by
          by_contra hpair
          simp only [Bool.not_eq_false, Bool.and_eq_true] at hpair
          cases q with
          | plain | short => simp [Piece.isUnit] at hpair
          | unit a b c d =>
            obtain ⟨x, t, ht⟩ : ∃ x t, ps.flatMap Piece.text ++ 0x22 :: rest = x :: t :=
              List.exists_cons_of_ne_nil (by simp)
            have hunit : unitValue? a b c d = some n := hq
            rw [List.flatMap_cons, List.append_assoc, ht] at hlow
            simp [Piece.text, lowHalf?, hunit, hpair.2] at hlow
        simp only [Piece.values?, hp, hq, hpair, hv, Option.bind_eq_bind, Option.bind_some,
          Bool.false_eq_true, if_false, Option.pure_def]

/-- What is read up to a closing mark is a row of pieces; `skip` code points are passed over. -/
theorem exists_pieces_of_readFrom {skip : Nat} {t v rest : Text}
    (h : readFrom skip t = .ok (v, rest)) :
    ∃ lead ps, lead.length = skip ∧ t = lead ++ (ps.flatMap Piece.text ++ 0x22 :: rest) ∧
      Piece.values? ps = some v := by
  fun_induction readFrom skip t generalizing v rest with
  | case1 => cases h
  | case2 skip c t ih =>
    obtain ⟨lead, ps, rfl, rfl, hv⟩ := ih h
    exact ⟨c :: lead, ps, rfl, rfl, hv⟩
  | case3 t =>
    cases h
    exact ⟨[], [], rfl, rfl, rfl⟩
  | case4 => cases h
  | case5 => cases h
  | case6 => cases h
  | case7 a b c d x t n hunit low hlow _ ih =>
    obtain ⟨⟨w, _⟩, hread, hw⟩ := map_eq_ok_iff.1 h
    cases hw
    obtain ⟨lead, ps, hlength, ht, hv⟩ := ih hread
    split at hlow
    case isFalse => cases hlow
    case isTrue hhigh =>
      obtain ⟨a', b', c', d', after, hafter, hunit', hlow'⟩ := exists_unit_of_lowHalf? hlow
      obtain ⟨rfl, rfl⟩ := List.append_inj (hafter.symm.trans ht) hlength.symm
      refine ⟨[], .unit a b c d :: .unit a' b' c' d' :: ps, rfl, ?_, ?_⟩
      · rw [hafter]
        simp [Piece.text]
      · exact values?_pair (p := .unit a b c d) (q := .unit a' b' c' d') hunit hunit' rfl rfl hhigh
          hlow' hv
  | case8 a b c d x t n hunit hlow _ ih =>
    obtain ⟨⟨w, after⟩, hread, hw⟩ := map_eq_ok_iff.1 h
    cases hw
    obtain ⟨lead, ps, hlength, ht, hv⟩ := ih hread
    obtain rfl := List.length_eq_zero_iff.1 hlength
    rw [List.nil_append] at ht
    rw [ht] at hlow ⊢
    have hnone : isHigh n = true →
        lowHalf? (ps.flatMap Piece.text ++ 0x22 :: after) = .ok none := by
      intro hhigh
      rwa [if_pos hhigh] at hlow
    exact ⟨[], .unit a b c d :: ps, rfl, rfl,
      values?_cons_of_lowHalf? (p := .unit a b c d) hunit hv fun _ ↦ hnone⟩
  | case9 => cases h
  | case10 => cases h
  | case11 e t _ m hescape _ ih =>
    obtain ⟨⟨w, _⟩, hread, hw⟩ := map_eq_ok_iff.1 h
    cases hw
    obtain ⟨lead, ps, hlength, rfl, hv⟩ := ih hread
    obtain rfl := List.length_eq_zero_iff.1 hlength
    exact ⟨[], .short e :: ps, rfl, rfl, values?_cons (p := .short e) hescape rfl hv⟩
  | case12 => cases h
  | case13 c t hquote hslash hcontrol ih =>
    obtain ⟨⟨w, _⟩, hread, hw⟩ := map_eq_ok_iff.1 h
    cases hw
    obtain ⟨lead, ps, hlength, rfl, hv⟩ := ih hread
    obtain rfl := List.length_eq_zero_iff.1 hlength
    have hc : (Piece.plain c).value? = some c := by simp [Piece.value?, hquote, hslash, hcontrol]
    exact ⟨[], .plain c :: ps, rfl, rfl, values?_cons hc rfl hv⟩

/-! ## Numbers -/

namespace Numeral

theorem of_digits? {t ds : Text} (h : digits? t = some ds) :
    IsDigits ds ∧ t = ds ++ t.drop ds.length := by
  have hspan : t = t.takeWhile Text.isDigit ++ t.dropWhile Text.isDigit :=
    List.takeWhile_append_dropWhile.symm
  simp only [digits?] at h
  split at h
  case isTrue => cases h
  case isFalse hne =>
    cases h
    refine ⟨⟨by simpa using hne, fun c hc ↦ ?_⟩, ?_⟩
    · exact List.all_eq_true.1 List.all_takeWhile c hc
    · exact (List.prefix_iff_eq_append.1 (List.takeWhile_prefix _)).symm

theorem of_fraction? {t : Text} :
    (∀ ds, fraction? t = some ds → IsDigits ds) ∧
      t = fractionText (fraction? t) ++ t.drop (fractionText (fraction? t)).length := by
  cases h : fraction? t with
  | none => exact ⟨fun _ he ↦ (nomatch he), rfl⟩
  | some ds =>
    unfold fraction? at h
    split at h
    case h_1 u =>
      obtain ⟨hds, hu⟩ := of_digits? h
      refine ⟨fun _ he ↦ Option.some.inj he ▸ hds, ?_⟩
      rw [fractionText, List.length_cons, List.drop_succ_cons, List.cons_append, ← hu]
    case h_2 => cases h

theorem of_power? {t : Text} :
    (∀ mark sign ds, power? t = some (mark, sign, ds) →
      (mark = 0x65 ∨ mark = 0x45) ∧ (sign = [] ∨ sign = [0x2B] ∨ sign = [0x2D]) ∧ IsDigits ds) ∧
      ∃ rest, t = powerText (power? t) ++ rest := by
  cases h : power? t with
  | none => exact ⟨fun _ _ _ he ↦ (nomatch he), t, rfl⟩
  | some power =>
    suffices ∃ mark sign ds rest, power = (mark, sign, ds) ∧ (mark = 0x65 ∨ mark = 0x45) ∧
        (sign = [] ∨ sign = [0x2B] ∨ sign = [0x2D]) ∧ IsDigits ds ∧
        t = mark :: (sign ++ (ds ++ rest)) by
      obtain ⟨mark, sign, ds, rest, rfl, hmark, hsign, hds, rfl⟩ := this
      refine ⟨?_, rest, by simp [powerText]⟩
      rintro _ _ _ ⟨⟩
      exact ⟨hmark, hsign, hds⟩
    unfold power? at h
    split at h
    case h_2 => cases h
    case h_1 mark t =>
      split at h
      case isFalse => cases h
      case isTrue hmark =>
        have hmark : mark = 0x65 ∨ mark = 0x45 := by simpa using hmark
        split at h
        case h_2 => cases h
        case h_1 sign t =>
          split at h
          case isTrue hsign =>
            obtain ⟨ds, hds, rfl⟩ := Option.map_eq_some_iff.1 h
            obtain ⟨hds, ht⟩ := of_digits? hds
            have hsign : sign = 0x2B ∨ sign = 0x2D := by simpa using hsign
            exact ⟨mark, [sign], ds, _, rfl, hmark, by simpa using hsign, hds,
              congrArg (mark :: sign :: ·) ht⟩
          case isFalse =>
            obtain ⟨ds, hds, rfl⟩ := Option.map_eq_some_iff.1 h
            obtain ⟨hds, ht⟩ := of_digits? hds
            exact ⟨mark, [], ds, _, rfl, hmark, .inl rfl, hds, congrArg (mark :: ·) ht⟩

/-- What is read is a numeral at the beginning of the text. -/
theorem of_unsigned? {negative : Bool} {t : Text} {n : Numeral}
    (h : unsigned? negative t = some n) : n.negative = negative ∧ n.IsWellFormed ∧
      ∃ rest, t = n.whole ++ fractionText n.fraction ++ powerText n.power ++ rest := by
  obtain ⟨whole, hwhole, hn⟩ := Option.map_eq_some_iff.1 h
  cases hn
  obtain ⟨hw, ht⟩ := of_digits? hwhole
  obtain ⟨hf, hfraction⟩ := of_fraction? (t := t.drop whole.length)
  obtain ⟨hp, rest, hpower⟩ := of_power?
    (t := (t.drop whole.length).drop (fractionText (fraction? (t.drop whole.length))).length)
  refine ⟨rfl, ⟨hw, hf, hp⟩, rest, ?_⟩
  simp only [List.append_assoc]
  rw [← hpower, ← hfraction, ← ht]

theorem of_read? {t : Text} {n : Numeral} (h : read? t = some n) :
    n.IsWellFormed ∧ ∃ rest, t = n.text ++ rest := by
  unfold read? at h
  split at h
  case h_1 t =>
    obtain ⟨hneg, hn, rest, rfl⟩ := of_unsigned? h
    refine ⟨hn, rest, ?_⟩
    rw [text, hneg, if_pos rfl]
    simp
  case h_2 =>
    obtain ⟨hneg, hn, rest, rfl⟩ := of_unsigned? h
    refine ⟨hn, rest, ?_⟩
    rw [text, hneg, if_neg (by decide), List.nil_append]

/-- A numeral that can be converted has the value that it denotes. -/
theorem amount_of_value {n : Numeral} {v : Value} (h : n.value = .ok v) : n.amount = v := by
  obtain ⟨negative, whole, fraction, power⟩ := n
  cases fraction with
  | some ds =>
    cases h
    rfl
  | none =>
    cases power with
    | some power =>
      cases h
      rfl
    | none =>
      obtain ⟨i, hi, rfl⟩ := map_eq_ok_iff.1 h
      unfold Integer.read at hi
      split at hi
      case isTrue => cases hi
      case isFalse =>
        cases hi
        rfl

end Numeral

/-! ## Words -/

theorem of_word? {t word : Text} (h : word? t = some word) : ∃ rest, t = word ++ rest := by
  have hspan : ∀ s : Text, s = s.takeWhile isWordPart ++ s.dropWhile isWordPart :=
    fun s ↦ List.takeWhile_append_dropWhile.symm
  unfold word? at h
  split at h
  case h_1 c t =>
    split at h
    case isTrue =>
      cases h
      exact ⟨t.dropWhile isWordPart, congrArg (0x2D :: c :: ·) (hspan t)⟩
    case isFalse => cases h
  case h_2 c t _ =>
    split at h
    case isTrue =>
      cases h
      exact ⟨t.dropWhile isWordPart, congrArg (c :: ·) (hspan t)⟩
    case isFalse => cases h
  case h_3 => cases h

/-! ## Parts -/

/-- What a scalar begins with begins no part of another kind, and a mark begins only strings. -/
theorem Scalar.exists_cons_text (s : Scalar) : ∃ c t, s.text = c :: t ∧ Text.isBlank c = false ∧
    c ∉ ([0x2C, 0x3D, 0x5B, 0x5D] : Text) ∧ (c = 0x22 ↔ ∃ ps h, s = .string ps h) := by
  cases s with
  | string ps h => exact ⟨0x22, _, rfl, rfl, by decide, iff_of_true rfl ⟨ps, h, rfl⟩⟩
  | number n h =>
    obtain ⟨c, t, htext, hblank, hmark⟩ := Literal.exists_cons_text h
    refine ⟨c, t, htext, hblank, fun hmem ↦ hmark (List.mem_cons_of_mem _ hmem), ?_⟩
    refine iff_of_false ?_ (by simp)
    rintro rfl
    exact hmark List.mem_cons_self
  | word t h =>
    obtain ⟨v, hv⟩ := Option.isSome_iff_exists.1 h
    obtain ⟨c, u, hletters, rfl | rfl⟩ := letters_of_isWord hv
    · obtain ⟨hblank, -, hmark⟩ := isAsciiLetter_disjoint (hletters c List.mem_cons_self)
      refine ⟨c, u, rfl, hblank, ?_, iff_of_false ?_ (by simp)⟩ <;> grind
    · exact ⟨0x2D, c :: u, rfl, by decide, by decide, iff_of_false (by decide) (by simp)⟩

theorem Part.exists_cons_text (p : Part) : ∃ c t, p.text = c :: t ∧ Text.isBlank c = false := by
  cases p with
  | scalar s =>
    obtain ⟨c, t, htext, hblank, -⟩ := s.exists_cons_text
    exact ⟨c, t, htext, hblank⟩
  | opening | closing | comma | arrow => exact ⟨_, _, rfl, rfl⟩

/-- A token that is not bad is that of a part where it was found. -/
theorem exists_part_of_token {c : CodePoint} {t : Text} {tok : Token} {length : Nat}
    (h : token c t = (tok, length)) (hgood : ∀ d, tok ≠ .bad d) :
    ∃ (p : Part) (rest : Text), p.token = tok ∧ p.text.length = length ∧
      c :: t = p.text ++ rest ∧ ∀ v, tok = .value v → IsScalar p.text v := by
  unfold token at h
  split at h
  case isTrue hquote =>
    split at h
    case h_1 v rest hread =>
      cases h
      obtain ⟨lead, ps, hlead, ht, hv⟩ := exists_pieces_of_readFrom hread
      obtain rfl := List.length_eq_zero_iff.1 hlead
      refine ⟨.scalar (.string ps (by simp [hv])), rest, ?_, ?_, ?_, ?_⟩
      · simp [Part.token, Scalar.value, hv]
      · rw [ht]
        simp [Part.text, Scalar.text]
        omega
      · rw [ht, hquote]
        simp [Part.text, Scalar.text]
      · rintro _ ⟨⟩
        exact .string ⟨ps, rfl, hv⟩
    case h_2 d _ =>
      cases h
      exact absurd rfl (hgood _)
  split at h
  case isTrue hc =>
    cases h
    exact ⟨.opening, t, rfl, rfl, congrArg (· :: t) hc, nofun⟩
  split at h
  case isTrue hc =>
    cases h
    exact ⟨.closing, t, rfl, rfl, congrArg (· :: t) hc, nofun⟩
  split at h
  case isTrue hc =>
    cases h
    exact ⟨.comma, t, rfl, rfl, congrArg (· :: t) hc, nofun⟩
  split at h
  case isTrue hc =>
    cases h
    obtain ⟨rfl, hhead⟩ : c = 0x3D ∧ t.head? = some 0x3E := by simpa using hc
    obtain ⟨u, rfl⟩ := List.head?_eq_some_iff.1 hhead
    exact ⟨.arrow, u, rfl, rfl, rfl, nofun⟩
  split at h
  case h_1 n hread =>
    split at h
    case h_1 v hv =>
      cases h
      obtain ⟨hn, rest, ht⟩ := Numeral.of_read? hread
      refine ⟨.scalar (.number n hn), rest, congrArg Token.value (Numeral.amount_of_value hv), rfl,
        ht, ?_⟩
      rintro _ ⟨⟩
      exact .number ⟨n, hn, rfl, hv⟩
    case h_2 =>
      cases h
      exact absurd rfl (hgood _)
  case h_2 =>
    split at h
    case h_1 v length hfound =>
      cases h
      obtain ⟨word, hword, hvalue⟩ := Option.bind_eq_some_iff.1 hfound
      obtain ⟨v, hv, hpair⟩ := Option.map_eq_some_iff.1 hvalue
      cases hpair
      obtain ⟨rest, ht⟩ := of_word? hword
      refine ⟨.scalar (.word word (by simp [hv])), rest, ?_, rfl, ht, ?_⟩
      · simp [Part.token, Scalar.value, hv]
      · rintro _ ⟨⟩
        exact .word hv
    case h_2 =>
      cases h
      exact absurd rfl (hgood _)

/-- Where no blank stands, there is a bad token or the token of a part. -/
theorem exists_part_of_tokensFrom {c : CodePoint} (hc : Text.isBlank c = false) (t : Text)
    (pos : Nat) : (∃ d, tokensFrom pos 0 (c :: t) = [⟨pos, .bad d⟩]) ∨
      ∃ (p : Part) (rest : Text), c :: t = p.text ++ rest ∧
        (∀ v, p.token = .value v → IsScalar p.text v) ∧
        tokensFrom pos 0 (c :: t) = ⟨pos, p.token⟩ :: tokensFrom (pos + p.text.length) 0 rest := by
  rcases htoken : token c t with ⟨tok, length⟩
  by_cases hbad : ∃ d, tok = .bad d
  · obtain ⟨d, rfl⟩ := hbad
    refine .inl ⟨d, ?_⟩
    rw [tokensFrom, if_neg (by simp [hc]), htoken]
  · have hgood : ∀ d, tok ≠ .bad d := fun d hd ↦ hbad ⟨d, hd⟩
    obtain ⟨p, rest, rfl, rfl, htext, hscalar⟩ := exists_part_of_token htoken hgood
    obtain ⟨c', s, hp, -⟩ := p.exists_cons_text
    refine .inr ⟨p, rest, htext, hscalar, ?_⟩
    rw [hp, List.cons_append] at htext
    obtain ⟨rfl, rfl⟩ := List.cons.inj htext
    rw [hp] at htoken ⊢
    exact tokensFrom_token hc htoken hgood pos

@[simp] theorem Parts.text_nil : Parts.text [] = [] := rfl

@[simp] theorem Parts.text_cons (b : Blanks) (p : Part) (ps : Parts) :
    Parts.text ((b, p) :: ps) = b.1 ++ (p.text ++ Parts.text ps) := List.append_assoc _ _ _

@[simp] theorem Parts.text_append (ps qs : Parts) : Parts.text (ps ++ qs) = ps.text ++ qs.text :=
  List.flatMap_append

/-- A blank in front of parts and blanks goes to what stands first. -/
theorem exists_parts_cons {c : CodePoint} (hc : Text.isBlank c = true) (ps : Parts) (b : Blanks) :
    ∃ (qs : Parts) (d : Blanks),
      c :: (ps.text ++ b.1) = qs.text ++ d.1 ∧ qs.tokens = ps.tokens := by
  have hcons : ∀ b : Blanks, IsBlanks (c :: b.1) := by
    intro b
    have hb := b.2
    simp only [IsBlanks, Text.isAllBlank, List.all_cons, Bool.and_eq_true] at hb ⊢
    exact ⟨hc, hb⟩
  cases ps with
  | nil => exact ⟨[], ⟨c :: b.1, hcons b⟩, rfl, rfl⟩
  | cons p ps => exact ⟨(⟨c :: p.1.1, hcons p.1⟩, p.2) :: ps, b, rfl, rfl⟩

/-- A text without bad tokens is made up of parts with blanks around them. -/
theorem exists_parts_of_tokensFrom {pos : Nat} {t : Text}
    (h : ∀ l ∈ tokensFrom pos 0 t, ∀ d, l.token ≠ .bad d) :
    ∃ (ps : Parts) (b : Blanks), t = ps.text ++ b.1 ∧
      (tokensFrom pos 0 t).map (·.token) = ps.tokens := by
  induction hlength : t.length using Nat.strong_induction_on generalizing pos t with
  | _ n ih =>
    cases t with
    | nil => exact ⟨[], ⟨[], rfl⟩, rfl, rfl⟩
    | cons c t =>
      rw [List.length_cons] at hlength
      cases hblank : Text.isBlank c with
      | true =>
        rw [tokensFrom, if_pos hblank] at h ⊢
        obtain ⟨ps, b, rfl, htokens⟩ := ih t.length (by omega) h rfl
        obtain ⟨qs, d, htext, hqs⟩ := exists_parts_cons hblank ps b
        exact ⟨qs, d, htext, htokens.trans hqs.symm⟩
      | false =>
        rcases exists_part_of_tokensFrom hblank t pos with ⟨d, hbad⟩ | ⟨p, rest, htext, -, htokens⟩
        · rw [hbad] at h
          exact absurd rfl (h _ (List.mem_singleton_self _) d)
        · have hshort : rest.length < n := by
            obtain ⟨d, s, hp, -⟩ := p.exists_cons_text
            rw [← hlength, ← List.length_cons, htext, hp, List.length_append, List.length_cons]
            omega
          rw [htokens] at h ⊢
          obtain ⟨ps, b, rfl, hps⟩ :=
            ih rest.length hshort (fun l hl ↦ h l (List.mem_cons_of_mem _ hl)) rfl
          refine ⟨(⟨[], rfl⟩, p) :: ps, b, ?_, ?_⟩
          · rw [Parts.text_cons, htext]
            simp
          · rw [List.map_cons, hps]
            rfl

end ActorFacade.Literal
