import ActorFacade.Proofs.Literal.Derivation

/-! # Unique derivations

What `read` takes is what has a derivation, and there is at most one (`read_iff`).  A text is taken
apart into parts in one way only (`Parts.eq_of_text`): the first code point of a part says which
kind it is, and no number or word ends where it could still go on.  Parts make up trees in one way
only (`Tree.eq_of_parts`): what a tree is shows in its first part, whether an entry has a key in the
part behind its first tree.  Both are stated for what stands in front of anything else, since the
beginnings are compared first.
-/

namespace ActorFacade.Literal

/-! ## Strings -/

namespace Piece

theorem exists_value?_of_values? {ps : List Piece} (h : (values? ps).isSome) :
    ∀ p ∈ ps, ∃ m, p.value? = some m := by
  obtain ⟨v, hv⟩ := Option.isSome_iff_exists.1 h
  clear h
  fun_induction values? ps generalizing v with
  | case1 => exact List.forall_mem_nil _
  | case2 p =>
    obtain ⟨m, hp, -⟩ := Option.bind_eq_some_iff.1 hv
    exact List.forall_mem_singleton.2 ⟨m, hp⟩
  | case3 p q ps ihpair ih =>
    obtain ⟨m, hp, hv⟩ := Option.bind_eq_some_iff.1 hv
    obtain ⟨n, hq, hv⟩ := Option.bind_eq_some_iff.1 hv
    split at hv
    case isTrue =>
      obtain ⟨w, hw, -⟩ := Option.bind_eq_some_iff.1 hv
      exact List.forall_mem_cons.2 ⟨⟨m, hp⟩, List.forall_mem_cons.2 ⟨⟨n, hq⟩, ihpair w hw⟩⟩
    case isFalse =>
      obtain ⟨w, hw, -⟩ := Option.bind_eq_some_iff.1 hv
      exact List.forall_mem_cons.2 ⟨⟨m, hp⟩, ih w hw⟩

variable {p q : Piece} {m n : CodePoint} {t u : Text}

theorem text_append_ne_quote (hp : p.value? = some m) : p.text ++ t ≠ 0x22 :: u := by
  cases p with
  | plain c =>
    intro h
    exact (plain_value? hp).2.1 (List.cons.inj h).1
  | short | unit => exact fun h ↦ absurd (List.cons.inj h).1 (by decide)

theorem eq_of_text (hp : p.value? = some m) (hq : q.value? = some n)
    (h : p.text ++ t = q.text ++ u) : p = q ∧ t = u := by
  cases p with
  | plain c =>
    have hc := (plain_value? hp).2.2.1
    cases q <;> simp_all [text]
  | short c =>
    have hc := (short_value? hp).1
    cases q with
    | plain d => exact absurd (List.cons.inj h).1.symm (plain_value? hq).2.2.1
    | short | unit => simp_all [text]
  | unit =>
    cases q with
    | plain d => exact absurd (List.cons.inj h).1.symm (plain_value? hq).2.2.1
    | short d =>
      have hd := (short_value? hq).1
      simp_all [text]
    | unit => simp_all [text]

theorem eq_of_flatMap_text {ps qs : List Piece} (hps : ∀ p ∈ ps, ∃ m, p.value? = some m)
    (hqs : ∀ q ∈ qs, ∃ n, q.value? = some n)
    (h : ps.flatMap text ++ 0x22 :: t = qs.flatMap text ++ 0x22 :: u) : ps = qs := by
  induction ps generalizing qs with
  | nil =>
    cases qs with
    | nil => rfl
    | cons q qs =>
      obtain ⟨n, hq⟩ := hqs q List.mem_cons_self
      rw [List.flatMap_cons, List.append_assoc] at h
      exact absurd h.symm (text_append_ne_quote hq)
  | cons p ps ih =>
    obtain ⟨m, hp⟩ := hps p List.mem_cons_self
    rw [List.flatMap_cons, List.append_assoc] at h
    cases qs with
    | nil => exact absurd h (text_append_ne_quote hp)
    | cons q qs =>
      obtain ⟨n, hq⟩ := hqs q List.mem_cons_self
      rw [List.flatMap_cons, List.append_assoc] at h
      obtain ⟨rfl, hrest⟩ := eq_of_text hp hq h
      rw [ih (fun p hp ↦ hps p (List.mem_cons_of_mem _ hp))
        (fun q hq ↦ hqs q (List.mem_cons_of_mem _ hq)) hrest]

end Piece

/-! ## Scalars -/

/-- A word is read off a text where it ends, and no number is. -/
theorem word?_of_isWord {t rest : Text} {v : Value} (h : IsWord t v) (hrest : IsBoundary rest) :
    Numeral.read? (t ++ rest) = none ∧ word? (t ++ rest) = some t := by
  obtain ⟨c, s, hs, rfl | rfl⟩ := letters_of_isWord h
  · exact ⟨(read?_letters (hs c List.mem_cons_self) _).1, (word?_letters hs hrest).1⟩
  · exact ⟨(read?_letters (hs c List.mem_cons_self) _).2, (word?_letters hs hrest).2⟩

namespace Scalar

variable {s s' : Scalar} {t u : Text}

theorem text_append_ne {c : CodePoint} (hc : c ∈ ([0x2C, 0x3D, 0x5B, 0x5D] : Text)) (s : Scalar)
    (t u : Text) : s.text ++ t ≠ c :: u := by
  obtain ⟨d, x, htext, -, hmark, -⟩ := s.exists_cons_text
  rw [htext]
  intro h
  cases h
  exact hmark hc

theorem eq_of_text (ht : IsBoundary t) (hu : IsBoundary u) (h : s.text ++ t = s'.text ++ u) :
    s = s' := by
  obtain ⟨c, x, hs, -, -, hstring⟩ := s.exists_cons_text
  obtain ⟨c', x', hs', -, -, hstring'⟩ := s'.exists_cons_text
  have hc : c = c' := by
    rw [hs, hs'] at h
    exact (List.cons.inj h).1
  subst hc
  by_cases hquote : c = 0x22
  · obtain ⟨ps, hps, rfl⟩ := hstring.1 hquote
    obtain ⟨qs, hqs, rfl⟩ := hstring'.1 hquote
    have hpieces : ps.flatMap Piece.text ++ 0x22 :: t = qs.flatMap Piece.text ++ 0x22 :: u := by
      simpa [text] using h
    obtain rfl := Piece.eq_of_flatMap_text (Piece.exists_value?_of_values? hps)
      (Piece.exists_value?_of_values? hqs) hpieces
    rfl
  · cases s with
    | string ps hps => exact absurd (hstring.2 ⟨ps, hps, rfl⟩) hquote
    | number n hn =>
      have hread := Numeral.read?_text_append hn ht
      rw [show n.text ++ t = s'.text ++ u from h] at hread
      cases s' with
      | string qs hqs => exact absurd (hstring'.2 ⟨qs, hqs, rfl⟩) hquote
      | number n' hn' =>
        obtain rfl := Option.some.inj ((Numeral.read?_text_append hn' hu).symm.trans hread)
        rfl
      | word w hw =>
        cases (word?_of_isWord (Option.some_get hw).symm hu).1.symm.trans hread
    | word w hw =>
      obtain ⟨hread, hword⟩ := word?_of_isWord (Option.some_get hw).symm ht
      rw [show w ++ t = s'.text ++ u from h] at hread hword
      cases s' with
      | string qs hqs => exact absurd (hstring'.2 ⟨qs, hqs, rfl⟩) hquote
      | number n' hn' => cases (Numeral.read?_text_append hn' hu).symm.trans hread
      | word w' hw' =>
        have hword' := (word?_of_isWord (Option.some_get hw').symm hu).2
        obtain rfl := Option.some.inj (hword'.symm.trans hword)
        rfl

end Scalar

/-! ## Parts -/

theorem Part.eq_of_text {p q : Part} {t u : Text} (hp : p.isScalar = true → IsBoundary t)
    (hq : q.isScalar = true → IsBoundary u) (h : p.text ++ t = q.text ++ u) : p = q ∧ t = u := by
  have hpq : p = q := by
    cases p with
    | scalar s =>
      cases q with
      | scalar s' => exact congrArg Part.scalar (Scalar.eq_of_text (hp rfl) (hq rfl) h)
      | opening | closing | comma | arrow => exact absurd h (s.text_append_ne (by decide) t _)
    | opening | closing | comma | arrow =>
      cases q with
      | scalar s => exact absurd h.symm (s.text_append_ne (by decide) u _)
      | opening | closing | comma | arrow => simp_all [text]
  subst hpq
  exact ⟨rfl, List.append_cancel_left h⟩

/-- Blanks in front of something else are all the blanks there are. -/
theorem IsBlanks.eq_of_append {b c t u : Text} (hb : IsBlanks b) (hc : IsBlanks c)
    (ht : ∀ d ∈ t.head?, Text.isBlank d = false) (hu : ∀ d ∈ u.head?, Text.isBlank d = false)
    (h : b ++ t = c ++ u) : b = c ∧ t = u := by
  have hbc : b = c := by
    rw [← takeWhile_append_of_stop (List.all_eq_true.1 hb) ht, h,
      takeWhile_append_of_stop (List.all_eq_true.1 hc) hu]
  subst hbc
  exact ⟨rfl, List.append_cancel_left h⟩

theorem Part.isBlank_head (p : Part) (t : Text) :
    ∀ d ∈ (p.text ++ t).head?, Text.isBlank d = false := by
  obtain ⟨c, s, htext, hblank⟩ := p.exists_cons_text
  rw [htext]
  rintro _ ⟨⟩
  exact hblank

theorem Parts.eq_of_text {ps qs : Parts} (hps : IsApart ps) (hqs : IsApart qs) {b c : Blanks}
    (h : ps.text ++ b.1 = qs.text ++ c.1) : ps = qs ∧ b = c := by
  -- The blanks at the end of a text are no blanks in front of a part.
  have hnil : ∀ (b c d : Blanks) (p : Part) (t : Text), b.1 ≠ d.1 ++ (p.text ++ t) := by
    intro b c d p t h
    have hempty := (IsBlanks.eq_of_append b.2 d.2 (t := []) nofun (p.isBlank_head t)
      ((List.append_nil _).trans h)).2
    obtain ⟨c, s, htext, -⟩ := p.exists_cons_text
    rw [htext] at hempty
    cases hempty
  induction ps generalizing qs with
  | nil =>
    cases qs with
    | nil => exact ⟨rfl, Subtype.ext h⟩
    | cons q qs =>
      rw [Parts.text_nil, List.nil_append, Parts.text_cons, List.append_assoc,
        List.append_assoc] at h
      exact absurd h (hnil b c q.1 q.2 _)
  | cons p ps ih =>
    obtain ⟨d, p⟩ := p
    rw [Parts.text_cons, List.append_assoc, List.append_assoc] at h
    cases qs with
    | nil => exact absurd h.symm (hnil c b d p _)
    | cons q qs =>
      obtain ⟨e, q⟩ := q
      rw [Parts.text_cons, List.append_assoc, List.append_assoc] at h
      obtain ⟨hblanks, hparts⟩ :=
        IsBlanks.eq_of_append d.2 e.2 (p.isBlank_head _) (q.isBlank_head _) h
      obtain rfl := Subtype.ext hblanks
      obtain ⟨rfl, hrest⟩ := Part.eq_of_text (fun hp ↦ isBoundary_text (hps.1 hp) b)
        (fun hq ↦ isBoundary_text (hqs.1 hq) c) hparts
      obtain ⟨rfl, rfl⟩ := ih hps.2 hqs.2 hrest
      exact ⟨rfl, rfl⟩

/-! ## Trees -/

theorem Tree.notClosing (t : Tree) (rest : Parts) : NotClosing (t.parts ++ rest) := by
  cases t <;> nofun

theorem Entry.notClosing (e : Entry) (rest : Parts) : NotClosing (e.parts ++ rest) := by
  cases e with
  | unkeyed t => exact t.notClosing rest
  | keyed => nofun

theorem Rest.notArrow (r : Rest) (c : Closing) (rest : Parts) :
    NotArrow (r.parts ++ (c.parts ++ rest)) := by
  cases r <;> cases c <;> nofun

theorem Closing.eq_of_parts {c c' : Closing} {x x' : Parts}
    (h : c.parts ++ x = c'.parts ++ x') : c = c' ∧ x = x' := by
  cases c <;> cases c' <;> cases h <;> exact ⟨rfl, rfl⟩

/-- What ends an array goes on with no entry. -/
theorem Closing.ne_of_parts (c : Closing) {x x' : Parts} {b : Blanks} (e : Entry) :
    c.parts ++ x ≠ (b, .comma) :: (e.parts ++ x') := by
  cases c with
  | plain => nofun
  | comma b c =>
    intro h
    exact e.notClosing x' c x (List.cons.inj h).2.symm

mutual
theorem Tree.eq_of_parts : ∀ (t t' : Tree) {x x' : Parts}, t.parts ++ x = t'.parts ++ x' →
    t = t' ∧ x = x'
  | .scalar .., .scalar .., _, _, h => by
    cases h
    exact ⟨rfl, rfl⟩
  | .empty .., .empty .., _, _, h => by
    cases h
    exact ⟨rfl, rfl⟩
  | .array b e r c, .array b' e' r' c', x, x', h => by
    simp only [Tree.parts, List.cons_append, List.append_assoc] at h
    obtain ⟨hb, hentries⟩ := List.cons.inj h
    cases hb
    obtain ⟨rfl, hrest⟩ := e.eq_of_parts e' (r.notArrow c x) (r'.notArrow c' x') hentries
    obtain ⟨rfl, rfl, rfl⟩ := r.eq_of_parts r' hrest
    exact ⟨rfl, rfl⟩
  | .empty b c, .array _ e r c', x, x', h => by
    simp only [Tree.parts, List.cons_append, List.append_assoc] at h
    exact absurd (List.cons.inj h).2.symm (e.notClosing _ c x)
  | .array _ e r c', .empty b c, x, x', h => by
    simp only [Tree.parts, List.cons_append, List.append_assoc] at h
    exact absurd (List.cons.inj h).2 (e.notClosing _ c x')
  | .scalar .., .empty .., _, _, h | .scalar .., .array .., _, _, h
  | .empty .., .scalar .., _, _, h | .array .., .scalar .., _, _, h => nomatch h

theorem Entry.eq_of_parts : ∀ (e e' : Entry) {x x' : Parts}, NotArrow x → NotArrow x' →
    e.parts ++ x = e'.parts ++ x' → e = e' ∧ x = x'
  | .unkeyed t, .unkeyed t', _, _, _, _, h => by
    obtain ⟨rfl, rfl⟩ := t.eq_of_parts t' h
    exact ⟨rfl, rfl⟩
  | .keyed b k c v, .keyed b' k' c' v', _, _, _, _, h => by
    simp only [Entry.parts, List.cons_append, List.cons.injEq, Prod.mk.injEq,
      Part.scalar.injEq] at h
    obtain ⟨⟨rfl, rfl⟩, ⟨rfl, -⟩, h⟩ := h
    obtain ⟨rfl, rfl⟩ := v.eq_of_parts v' h
    exact ⟨rfl, rfl⟩
  | .unkeyed t, .keyed b k c v, x, x', hx, _, h => by
    cases t with
    | scalar => exact absurd (List.cons.inj h).2 (hx c _)
    | empty | array => cases h
  | .keyed b k c v, .unkeyed t, x, x', _, hx', h => by
    cases t with
    | scalar => exact absurd (List.cons.inj h).2.symm (hx' c _)
    | empty | array => cases h

theorem Rest.eq_of_parts : ∀ (r r' : Rest) {c c' : Closing} {x x' : Parts},
    r.parts ++ (c.parts ++ x) = r'.parts ++ (c'.parts ++ x') → r = r' ∧ c = c' ∧ x = x'
  | .nil, .nil, _, _, _, _, h => ⟨rfl, Closing.eq_of_parts h⟩
  | .more b e r, .more b' e' r', c, c', x, x', h => by
    simp only [Rest.parts, List.cons_append, List.append_assoc] at h
    obtain ⟨hb, hentries⟩ := List.cons.inj h
    cases hb
    obtain ⟨rfl, hrest⟩ := e.eq_of_parts e' (r.notArrow c x) (r'.notArrow c' x') hentries
    obtain ⟨rfl, rfl, rfl⟩ := r.eq_of_parts r' hrest
    exact ⟨rfl, rfl, rfl⟩
  | .nil, .more b e r, c, _, _, _, h => by
    simp only [Rest.parts, List.nil_append, List.cons_append, List.append_assoc] at h
    exact absurd h (c.ne_of_parts e)
  | .more b e r, .nil, _, c', _, _, h => by
    simp only [Rest.parts, List.nil_append, List.cons_append, List.append_assoc] at h
    exact absurd h.symm (c'.ne_of_parts e)
end

theorem Derivation.eq_of_text {d d' : Derivation} (h : d.text = d'.text) : d = d' := by
  obtain ⟨tree, blanks⟩ := d
  obtain ⟨tree', blanks'⟩ := d'
  obtain ⟨hparts, rfl⟩ :=
    Parts.eq_of_text (Derivation.isApart ⟨tree, blanks⟩) (Derivation.isApart ⟨tree', blanks'⟩) h
  obtain ⟨rfl, -⟩ := Tree.eq_of_parts tree tree' (congrArg (· ++ []) hparts)
  rfl

/-! ## Errors -/

/-- A refused conversion comes from a long integer. -/
theorem eq_of_next_limit {s : State} {tok : Token} {limit : Integer.LimitError}
    (h : s.next tok = .error (.limit limit)) : tok = .bad (.limit limit) := by
  have hwant : ∀ outer, State.want outer tok = .error (.limit limit) →
      tok = .bad (.limit limit) := by
    intro outer h
    cases tok with
    | bad d => cases d <;> cases h; rfl
    | value | opening | closing | comma | arrow => cases h
  cases s with
  | start => exact hwant [] h
  | done v => cases h
  | inside f outer =>
    obtain ⟨items, slot⟩ := f
    cases slot with
    | entry =>
      cases tok with
      | closing => cases h
      | value | opening | comma | arrow | bad => exact hwant (⟨items, .entry⟩ :: outer) h
    | value k => exact hwant (⟨items, .value k⟩ :: outer) h
    | item v =>
      cases tok with
      | arrow =>
        simp only [State.next] at h
        split at h <;> cases h
      | value | opening | closing | comma | bad => cases h
    | full => cases tok <;> cases h

theorem exists_isTooLong_of_run {length position : Nat} {s : State} {ls : List Lexeme}
    {limit : Integer.LimitError} (h : run length s ls = .error (.limit limit, position)) :
    ∃ l ∈ ls, l.token.isTooLong = true := by
  induction ls generalizing s with
  | nil =>
    cases s with
    | start | done => cases h
    | inside f outer =>
      obtain ⟨items, slot⟩ := f
      cases slot <;> cases h
  | cons l ls ih =>
    rw [run] at h
    split at h
    case h_1 s' _ =>
      obtain ⟨l', hmem, hlong⟩ := ih h
      exact ⟨l', List.mem_cons_of_mem _ hmem, hlong⟩
    case h_2 cause hnext =>
      cases h
      exact ⟨l, List.mem_cons_self, eq_of_next_limit hnext ▸ rfl⟩

theorem exists_isTooLong_of_read {t : Text} {e : ReadError} {limit : Integer.LimitError}
    (h : read t = .error e) (hlimit : e.cause = .limit limit) :
    ∃ l ∈ tokens t, l.token.isTooLong = true := by
  unfold read at h
  cases hrun : run t.length .start (tokens t) with
  | ok v =>
    rw [hrun] at h
    cases h
  | error failure =>
    rw [hrun] at h
    cases h
    obtain ⟨cause, position⟩ := failure
    cases hlimit
    exact exists_isTooLong_of_run hrun

/-! ## Reading -/

/-- With short integers, a text is read as a value just if it has a derivation of this value; all
other texts are refused as no literals, and no text has two derivations. -/
theorem read_iff {t : Text} (h : HasShortIntegers t) :
    (∀ v, read t = .ok v ↔ ∃ d : Derivation, d.text = t ∧ d.value = v) ∧
      ((¬∃ d : Derivation, d.text = t) →
        ∃ e, read t = .error e ∧ ∀ limit, e.cause ≠ .limit limit) ∧
      ∀ d d' : Derivation, d.text = t → d'.text = t → d = d' := by
  refine ⟨fun v ↦ ⟨exists_derivation, ?_⟩, fun hnone ↦ ?_, ?_⟩
  · rintro ⟨d, rfl, rfl⟩
    exact read_of_isLiteral (Derivation.isLiteral h)
  · cases hread : read t with
    | ok v =>
      obtain ⟨d, hd, -⟩ := exists_derivation hread
      exact absurd ⟨d, hd⟩ hnone
    | error e =>
      refine ⟨e, rfl, fun limit hlimit ↦ ?_⟩
      obtain ⟨l, hl, hlong⟩ := exists_isTooLong_of_read hread hlimit
      rw [h l hl] at hlong
      cases hlong
  · rintro d d' rfl hd'
    exact Derivation.eq_of_text hd'.symm

/-- Entries with and without a key, blanks, a comma at the end and a second text with a comma too
many. -/
theorem read_iff_keyed :
    let t := Text.ofString "[0.5 => TRUE, [ ], 2,]"
    let u := Text.ofString "[0.5 => TRUE, [ ], 2,,]"
    let v := Value.dict [(.double (.finite false 4503599627370496 (-53)), .bool true),
      (.int 0, .list []), (.int 1, .int 2)]
    (HasShortIntegers t ∧
      ∃ d : Derivation, d.text = t ∧ d.value = v ∧ ∀ d' : Derivation, d'.text = t → d' = d) ∧
    HasShortIntegers u ∧ ¬∃ d : Derivation, d.text = u := by
  intro t u v
  have ht : HasShortIntegers t := by decide +kernel
  have hu : HasShortIntegers u := by decide +kernel
  obtain ⟨hread, -, hunique⟩ := read_iff ht
  obtain ⟨d, hd, hvalue⟩ := (hread v).1 (by decide +kernel)
  refine ⟨⟨ht, d, hd, hvalue, fun d' hd' ↦ hunique d' d hd' hd⟩, hu, ?_⟩
  rintro ⟨d, hd⟩
  have hrefused : ∀ w, read u ≠ .ok w := by
    have herror : read u = .error ⟨.unrecognised, 21, u⟩ := by decide +kernel
    simp [herror]
  exact hrefused d.value (((read_iff hu).1 d.value).2 ⟨d, hd, rfl⟩)

end ActorFacade.Literal
