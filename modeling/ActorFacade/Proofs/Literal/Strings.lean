import ActorFacade.Literal.Grammar
import Mathlib.Tactic.IntervalCases

/-! # Strings in literals

The pieces of a string literal are read one after the other, whatever follows the closing mark
(`readFrom_pieces`).  Two halves of a pair are one step, so the induction goes over the pieces as
`Piece.values?` does.  Writing a text yields such pieces (`isString_write`).
-/

namespace ActorFacade.Literal

open Escaped (unitValue? simpleEscape? isHigh isLow joinPair lowHalf? readFrom)

/-! ## Reading one code point -/

theorem readFrom_quote (t : Text) : readFrom 0 (0x22 :: t) = .ok ([], t) := by
  rw [Escaped.readFrom.eq_def]
  rfl

theorem readFrom_plain {c : CodePoint} (hquote : c ≠ 0x22) (hslash : c ≠ 0x5C) (hc : ¬c ≤ 0x1F)
    (t : Text) : readFrom 0 (c :: t) = (readFrom 0 t).map fun r ↦ (c :: r.1, r.2) := by
  rw [Escaped.readFrom.eq_def]
  dsimp only
  rw [if_neg hquote, if_neg hslash, if_neg hc]

theorem readFrom_short {c m : CodePoint} (hu : c ≠ 0x75) (hm : simpleEscape? c = some m)
    (t : Text) : readFrom 0 (0x5C :: c :: t) = (readFrom 0 t).map fun r ↦ (m :: r.1, r.2) := by
  rw [Escaped.readFrom.eq_def]
  dsimp only
  rw [if_neg (by decide), if_pos rfl, if_neg hu, hm]

/-! ## Reading one piece -/

namespace Piece

theorem text_ne_nil (p : Piece) : p.text ≠ [] := by cases p <;> simp [text]

theorem plain_value? {c m : CodePoint} (h : (plain c).value? = some m) :
    ¬c ≤ 0x1F ∧ c ≠ 0x22 ∧ c ≠ 0x5C ∧ m = c := by
  simp only [value?] at h
  split at h
  · simp at h
  · cases h
    simp_all

theorem short_value? {c m : CodePoint} (h : (short c).value? = some m) :
    c ≠ 0x75 ∧ simpleEscape? c = some m := by
  refine ⟨?_, h⟩
  rintro rfl
  simp [value?, simpleEscape?] at h

end Piece

/-- A piece that is not the first half of a pair is read by itself. -/
theorem readFrom_piece {p : Piece} {m : CodePoint} {t : Text} (hp : p.value? = some m)
    (hne : t ≠ []) (hlow : p.isUnit = true → isHigh m = true → lowHalf? t = .ok none) :
    readFrom 0 (p.text ++ t) = (readFrom 0 t).map fun r ↦ (m :: r.1, r.2) := by
  cases p with
  | plain c =>
    obtain ⟨hc, hquote, hslash, rfl⟩ := Piece.plain_value? hp
    exact readFrom_plain hquote hslash hc t
  | short c =>
    obtain ⟨hu, hescape⟩ := Piece.short_value? hp
    exact readFrom_short hu hescape t
  | unit a b c d =>
    obtain ⟨x, t, rfl⟩ := List.exists_cons_of_ne_nil hne
    have hunit : unitValue? a b c d = some m := hp
    have hhalf : (if isHigh m then lowHalf? (x :: t) else .ok none) = .ok none := by
      split
      · exact hlow rfl ‹_›
      · rfl
    simp [Piece.text, readFrom, hunit, hhalf]

/-- Two halves of a pair are read together. -/
theorem readFrom_pair {p q : Piece} {m n : CodePoint} {t : Text} (hp : p.value? = some m)
    (hq : q.value? = some n) (hpu : p.isUnit = true) (hqu : q.isUnit = true)
    (hm : isHigh m = true) (hn : isLow n = true) (hne : t ≠ []) :
    readFrom 0 (p.text ++ (q.text ++ t)) =
      (readFrom 0 t).map fun r ↦ (joinPair m n :: r.1, r.2) := by
  cases p with
  | plain | short => simp [Piece.isUnit] at hpu
  | unit a b c d =>
    cases q with
    | plain | short => simp [Piece.isUnit] at hqu
    | unit a' b' c' d' =>
      obtain ⟨x, t, rfl⟩ := List.exists_cons_of_ne_nil hne
      have hunit : unitValue? a b c d = some m := hp
      have hunit' : unitValue? a' b' c' d' = some n := hq
      simp [Piece.text, readFrom, hunit, hunit', hm, hn, lowHalf?]

/-- What follows is no second half: it is well formed, and not both digits and in range. -/
theorem lowHalf?_piece {q : Piece} {n : CodePoint} {t : Text} (hq : q.value? = some n)
    (hne : t ≠ []) (h : (q.isUnit && isLow n) = false) : lowHalf? (q.text ++ t) = .ok none := by
  cases q with
  | plain c =>
    have hslash := (Piece.plain_value? hq).2.2.1
    unfold lowHalf?
    split
    · simp_all [Piece.text]
    · rfl
  | short c =>
    have hu := (Piece.short_value? hq).1
    unfold lowHalf?
    split
    · simp_all [Piece.text]
    · rfl
  | unit a b c d =>
    obtain ⟨x, t, rfl⟩ := List.exists_cons_of_ne_nil hne
    have hunit : unitValue? a b c d = some n := hq
    have hlow : isLow n = false := by simpa [Piece.isUnit] using h
    simp [Piece.text, lowHalf?, hunit, hlow]

theorem lowHalf?_quote (t : Text) : lowHalf? (0x22 :: t) = .ok none := rfl

/-! ## Reading pieces -/

/-- The pieces of a literal are read up to its closing mark. -/
theorem readFrom_pieces {ps : List Piece} {v : Text} (h : Piece.values? ps = some v) (rest : Text) :
    readFrom 0 (ps.flatMap Piece.text ++ 0x22 :: rest) = .ok (v, rest) := by
  fun_induction Piece.values? ps generalizing v with
  | case1 =>
    cases h
    exact readFrom_quote rest
  | case2 p =>
    obtain ⟨m, hp, hv⟩ := Option.bind_eq_some_iff.1 h
    cases hv
    rw [List.flatMap_singleton, readFrom_piece hp (by simp) fun _ _ ↦ lowHalf?_quote rest,
      readFrom_quote]
    rfl
  | case3 p q ps ihpair ih =>
    obtain ⟨m, hp, h⟩ := Option.bind_eq_some_iff.1 h
    obtain ⟨n, hq, h⟩ := Option.bind_eq_some_iff.1 h
    split at h
    case isTrue hpair =>
      simp only [Bool.and_eq_true] at hpair
      obtain ⟨w, hw, hv⟩ := Option.bind_eq_some_iff.1 h
      cases hv
      rw [List.flatMap_cons, List.flatMap_cons, List.append_assoc, List.append_assoc,
        readFrom_pair hp hq hpair.1.1.1 hpair.1.1.2 hpair.1.2 hpair.2 (by simp), ihpair hw]
      rfl
    case isFalse hpair =>
      obtain ⟨w, hw, hv⟩ := Option.bind_eq_some_iff.1 h
      cases hv
      rw [List.flatMap_cons, List.append_assoc, readFrom_piece hp (by simp [Piece.text_ne_nil]),
        ih hw]
      · rfl
      · intro hpu hm
        rw [List.flatMap_cons, List.append_assoc]
        refine lowHalf?_piece hq (by simp) ?_
        simpa [hpu, hm] using hpair

/-- A string literal is read from behind its opening mark, whatever follows it. -/
theorem readTail_of_isString {t v : Text} (h : IsString t v) :
    ∃ s, t = 0x22 :: s ∧ ∀ rest, Escaped.readTail (s ++ rest) = .ok (v, rest) := by
  obtain ⟨ps, rfl, hv⟩ := h
  refine ⟨ps.flatMap Piece.text ++ [0x22], rfl, fun rest ↦ ?_⟩
  rw [List.append_assoc, List.singleton_append]
  exact readFrom_pieces hv rest

/-! ## Written strings -/

theorem hexValue?_hexDigit {n : Nat} (h : n < 16) : Text.hexValue? (Text.hexDigit n) = some n := by
  interval_cases n <;> rfl

/-- Four digits of a unit as they are written. -/
def unitPiece (n : Nat) : Piece :=
  .unit (Text.hexDigit (n / 16 / 16 / 16 % 16)) (Text.hexDigit (n / 16 / 16 % 16))
    (Text.hexDigit (n / 16 % 16)) (Text.hexDigit (n % 16))

theorem text_unitPiece (n : Nat) : (unitPiece n).text = Escaped.unit n := rfl

theorem value?_unitPiece {n : Nat} (h : n < 0x10000) : (unitPiece n).value? = some n := by
  have hdigit : ∀ k, Text.hexValue? (Text.hexDigit (k % 16)) = some (k % 16) :=
    fun k ↦ hexValue?_hexDigit (Nat.mod_lt k (by decide))
  simp only [unitPiece, Piece.value?, unitValue?, hdigit, Option.bind_eq_bind, Option.bind_some,
    Option.pure_def, Option.some.injEq]
  omega

/-- The second half of a pair is no first half. -/
theorem isHigh_of_isLow {n : Nat} (h : isLow n = true) : isHigh n = false := by
  grind [isLow, isHigh]

theorem le_joinPair (m n : Nat) : 0x10000 ≤ joinPair m n := by
  unfold joinPair CodePoint
  omega

/-- What some pieces stand for begins with the value of the first piece or with a joined pair. -/
theorem head?_of_values? {q : Piece} {n : CodePoint} (hq : q.value? = some n) {qs : List Piece}
    {v : Text} (hv : Piece.values? (q :: qs) = some v) :
    ∃ d, v.head? = some d ∧ (d = n ∨ isHigh n = true ∧ isLow d = false) := by
  cases qs with
  | nil =>
    simp only [Piece.values?, hq] at hv
    cases hv
    exact ⟨n, rfl, .inl rfl⟩
  | cons r rs =>
    simp only [Piece.values?, hq, Option.bind_eq_bind, Option.bind_some] at hv
    obtain ⟨k, -, hv⟩ := Option.bind_eq_some_iff.1 hv
    split at hv
    case isTrue hpair =>
      simp only [Bool.and_eq_true] at hpair
      obtain ⟨w, -, hv⟩ := Option.bind_eq_some_iff.1 hv
      cases hv
      have hlow : isLow (joinPair n k) = false := by grind [isLow, le_joinPair]
      exact ⟨joinPair n k, rfl, .inr ⟨hpair.1.2, hlow⟩⟩
    case isFalse =>
      obtain ⟨w, -, hv⟩ := Option.bind_eq_some_iff.1 hv
      cases hv
      exact ⟨n, rfl, .inl rfl⟩

/-- A piece in front of no second half stands for its value. -/
theorem values?_cons_of_head? {p : Piece} {m : CodePoint} (hp : p.value? = some m)
    {ps : List Piece} {v : Text} (hv : Piece.values? ps = some v)
    (h : p.isUnit = true → isHigh m = true → ∀ d ∈ v.head?, isLow d = false) :
    Piece.values? (p :: ps) = some (m :: v) := by
  cases ps with
  | nil =>
    cases hv
    simp [Piece.values?, hp]
  | cons q ps =>
    cases hq : q.value? with
    | none =>
      cases ps <;> simp [Piece.values?, hq] at hv
    | some n =>
      have hpair : (p.isUnit && q.isUnit && isHigh m && isLow n) = false := by
        refine Bool.eq_false_iff.2 fun hpair ↦ ?_
        simp only [Bool.and_eq_true] at hpair
        obtain ⟨⟨⟨hu, -⟩, hm⟩, hn⟩ := hpair
        obtain ⟨d, hd, rfl | ⟨hhigh, -⟩⟩ := head?_of_values? hq hv
        · simp [h hu hm d hd] at hn
        · simp [isHigh_of_isLow hn] at hhigh
      simp only [Piece.values?, hp, hq, hpair, hv, Option.bind_eq_bind, Option.bind_some,
        Bool.false_eq_true, if_false, Option.pure_def]

/-- A piece that is not the first half of a pair stands for its value. -/
theorem values?_cons {p : Piece} {m : CodePoint} (hp : p.value? = some m)
    (h : (p.isUnit && isHigh m) = false) {ps : List Piece} {v : Text}
    (hv : Piece.values? ps = some v) : Piece.values? (p :: ps) = some (m :: v) :=
  values?_cons_of_head? hp hv fun hu hm ↦ by simp [hu, hm] at h

/-- A pair of halves stands for the code point that they make up. -/
theorem values?_pair {p q : Piece} {m n : CodePoint} (hp : p.value? = some m)
    (hq : q.value? = some n) (hpu : p.isUnit = true) (hqu : q.isUnit = true)
    (hm : isHigh m = true) (hn : isLow n = true) {ps : List Piece} {v : Text}
    (hv : Piece.values? ps = some v) :
    Piece.values? (p :: q :: ps) = some (joinPair m n :: v) := by
  simp [Piece.values?, hp, hq, hpu, hqu, hm, hn, hv]

/-- The halves together have twenty bits, ten each. -/
theorem joinPair_halves (k : Nat) :
    joinPair (0xD800 + k / 0x400) (0xDC00 + k % 0x400) = 0x10000 + k := by
  unfold joinPair CodePoint
  omega

/-- Every code point is written as pieces that stand for it in front of anything but its second
half. -/
theorem exists_pieces {c : Nat} (hc : c < 0x110000) :
    ∃ ps : List Piece, ps.flatMap Piece.text = Escaped.writeCodePoint c ∧
      ∀ {qs : List Piece} {v : Text}, Piece.values? qs = some v →
        (isHigh c = true → ∀ d ∈ v.head?, isLow d = false) →
        Piece.values? (ps ++ qs) = some (c :: v) := by
  have hshort : ∀ {e : CodePoint}, simpleEscape? e = some c →
      ∃ ps : List Piece, ps.flatMap Piece.text = [0x5C, e] ∧
        ∀ {qs : List Piece} {v : Text}, Piece.values? qs = some v →
          (isHigh c = true → ∀ d ∈ v.head?, isLow d = false) →
          Piece.values? (ps ++ qs) = some (c :: v) :=
    fun {e} he ↦ ⟨[.short e], rfl, fun hv _ ↦ values?_cons (p := .short e) he rfl hv⟩
  unfold Escaped.writeCodePoint
  split
  case isTrue h => exact hshort (by rw [h]; rfl)
  split
  case isTrue h => exact hshort (by rw [h]; rfl)
  split
  case isTrue h => exact hshort (by rw [h]; rfl)
  split
  case isTrue h => exact hshort (by rw [h]; rfl)
  split
  case isTrue h => exact hshort (by rw [h]; rfl)
  split
  case isTrue h => exact hshort (by rw [h]; rfl)
  split
  case isTrue h => exact hshort (by rw [h]; rfl)
  split
  case isTrue hquote hslash _ _ _ _ _ h =>
    refine ⟨[.plain c], rfl, fun hv _ ↦ values?_cons ?_ rfl hv⟩
    have hcontrol : ¬c ≤ 0x1F := by grind
    simp [Piece.value?, hquote, hslash, hcontrol]
  split
  case isTrue h =>
    exact ⟨[unitPiece c], List.flatMap_singleton ..,
      fun hv hnext ↦ values?_cons_of_head? (value?_unitPiece h) hv fun _ ↦ hnext⟩
  case isFalse h =>
    obtain ⟨k, rfl⟩ : ∃ k, c = 0x10000 + k := Nat.exists_eq_add_of_le (not_lt.1 h)
    rw [Nat.add_sub_cancel_left]
    refine ⟨[unitPiece (0xD800 + k / 0x400), unitPiece (0xDC00 + k % 0x400)], ?_, fun hv _ ↦ ?_⟩
    · simp [text_unitPiece]
    · have hk : k / 0x400 < 0x400 := by omega
      have hlow : k % 0x400 < 0x400 := Nat.mod_lt k (by decide)
      rw [← joinPair_halves]
      exact values?_pair (value?_unitPiece (by omega)) (value?_unitPiece (by omega)) rfl rfl
        (by grind [isHigh]) (by grind [isLow]) hv

/-! ## Texts of strings -/

/-- A text in which no pair of halves is left to be joined. -/
def IsJoined : Text → Prop
  | [] => True
  | c :: t => c < 0x110000 ∧ (isHigh c = true → ∀ d ∈ t.head?, isLow d = false) ∧ IsJoined t

/-- A text without halves of pairs has none to be joined. -/
theorem isJoined_of_isScalar {t : Text} (h : t.IsScalar) : IsJoined t := by
  induction t with
  | nil => trivial
  | cons c t ih =>
    obtain ⟨hc, ht⟩ := List.forall_mem_cons.1 h
    refine ⟨hc.1, fun hhigh ↦ ?_, ih ht⟩
    grind [Text.isSurrogate, isHigh]

/-- Writing a text without pairs of halves yields a literal of it. -/
theorem isString_write {t : Text} (h : IsJoined t) : IsString (Escaped.write t) t := by
  suffices ∃ ps : List Piece, t.flatMap Escaped.writeCodePoint = ps.flatMap Piece.text ∧
      Piece.values? ps = some t by
    obtain ⟨ps, hps, hv⟩ := this
    exact ⟨ps, by rw [Escaped.write, hps], hv⟩
  induction t with
  | nil => exact ⟨[], rfl, rfl⟩
  | cons c t ih =>
    obtain ⟨hc, hnext, ht⟩ := h
    obtain ⟨qs, hqs, hv⟩ := ih ht
    obtain ⟨ps, hps, hwritten⟩ := exists_pieces hc
    exact ⟨ps ++ qs, by rw [List.flatMap_cons, List.flatMap_append, hps, hqs], hwritten hv hnext⟩

/-! ## Values of pieces -/

theorem lt_of_hexValue? {c : CodePoint} {n : Nat} (h : Text.hexValue? c = some n) : n < 16 := by
  grind [Text.hexValue?]

theorem lt_of_unitValue? {a b c d : CodePoint} {n : Nat} (h : unitValue? a b c d = some n) :
    n < 0x10000 := by
  obtain ⟨p, hp, h⟩ := Option.bind_eq_some_iff.1 h
  obtain ⟨q, hq, h⟩ := Option.bind_eq_some_iff.1 h
  obtain ⟨r, hr, h⟩ := Option.bind_eq_some_iff.1 h
  obtain ⟨s, hs, h⟩ := Option.bind_eq_some_iff.1 h
  cases h
  have := lt_of_hexValue? hp
  have := lt_of_hexValue? hq
  have := lt_of_hexValue? hr
  have := lt_of_hexValue? hs
  omega

/-- Halves of pairs are written by digits only. -/
theorem Piece.value?_bounds {p : Piece} {m : CodePoint} (hp : p.value? = some m)
    (ht : p.text.IsScalar) :
    m < 0x110000 ∧ (p.isUnit = false → isHigh m = false ∧ isLow m = false) := by
  cases p with
  | plain c =>
    obtain ⟨-, -, -, rfl⟩ := plain_value? hp
    obtain ⟨hlt, hs⟩ := ht m List.mem_cons_self
    exact ⟨hlt, fun _ ↦ by grind [Text.isSurrogate, isHigh, isLow]⟩
  | short c =>
    obtain ⟨-, hescape⟩ := short_value? hp
    have hlt : m < 0x80 := by grind [simpleEscape?]
    exact ⟨by unfold CodePoint at *; omega, fun _ ↦ by grind [isHigh, isLow]⟩
  | unit a b c d =>
    exact ⟨(lt_of_unitValue? hp).trans (by decide), nofun⟩

/-- Pieces of scalar values stand for a text without pairs of halves: two halves by digits are
joined, and nothing else is half of a pair. -/
theorem isJoined_of_values? {ps : List Piece} {v : Text} (hv : Piece.values? ps = some v)
    (ht : Text.IsScalar (ps.flatMap Piece.text)) : IsJoined v := by
  fun_induction Piece.values? ps generalizing v with
  | case1 =>
    cases hv
    trivial
  | case2 p =>
    obtain ⟨m, hp, hv⟩ := Option.bind_eq_some_iff.1 hv
    cases hv
    rw [List.flatMap_singleton] at ht
    exact ⟨(Piece.value?_bounds hp ht).1, by simp, trivial⟩
  | case3 p q ps ihpair ih =>
    obtain ⟨m, hp, hv⟩ := Option.bind_eq_some_iff.1 hv
    obtain ⟨n, hq, hv⟩ := Option.bind_eq_some_iff.1 hv
    rw [List.flatMap_cons] at ht
    obtain ⟨htp, ht⟩ := List.forall_mem_append.1 ht
    have htq := (List.forall_mem_append.1 (List.flatMap_cons ▸ ht)).1
    obtain ⟨hmax, hplain⟩ := Piece.value?_bounds hp htp
    split at hv
    case isTrue hpair =>
      simp only [Bool.and_eq_true] at hpair
      obtain ⟨w, hw, hv⟩ := Option.bind_eq_some_iff.1 hv
      cases hv
      rw [List.flatMap_cons] at ht
      have hmax : joinPair m n < 0x110000 := by
        unfold joinPair CodePoint at *
        simp only [isHigh, isLow, Bool.and_eq_true, decide_eq_true_eq] at hpair
        omega
      refine ⟨hmax, fun hhigh ↦ ?_, ihpair hw (List.forall_mem_append.1 ht).2⟩
      grind [isHigh, le_joinPair]
    case isFalse hpair =>
      obtain ⟨w, hw, hv⟩ := Option.bind_eq_some_iff.1 hv
      cases hv
      refine ⟨hmax, fun hm d hd ↦ ?_, ih hw ht⟩
      obtain ⟨e, he, rfl | ⟨-, hlow⟩⟩ := head?_of_values? hq hw
      · obtain rfl : e = d := Option.some.inj (he.symm.trans hd)
        have hqu := (Piece.value?_bounds hq htq).2
        cases hpu : p.isUnit <;> cases hqu' : q.isUnit <;> simp_all
      · obtain rfl : e = d := Option.some.inj (he.symm.trans hd)
        exact hlow

end ActorFacade.Literal
