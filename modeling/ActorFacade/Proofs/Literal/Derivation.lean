import ActorFacade.Proofs.Literal.Soundness

/-! # Derivations and the grammar

Of texts with short integers, derivations say the same as the grammar (`isLiteral_iff`).  A numeral
is converted wherever the text has a derivation: no scalar stands directly behind another one in the
parts of a tree (`Derivation.isApart`), so the tokens of the text are those of its parts, and a long
integer among them would be a token too.
-/

namespace ActorFacade.Literal

/-! ## Parts next to each other -/

/-- Parts do not begin with a scalar. -/
def NotScalar (ps : Parts) : Prop := ∀ b s rest, ps ≠ (b, .scalar s) :: rest

/-- No scalar stands directly behind another one. -/
def IsApart : Parts → Prop
  | [] => True
  | (_, p) :: ps => (p.isScalar = true → NotScalar ps) ∧ IsApart ps

theorem Part.beginsApart {p : Part} (h : p.isScalar = false) (t : Text) :
    BeginsApart (p.text ++ t) := by
  cases p with
  | scalar s => cases h
  | opening => exact fun _ _ ↦ isBoundary_cons rfl rfl (by decide) _
  | closing => exact beginsApart_closing t
  | comma => exact beginsApart_comma t
  | arrow => exact beginsApart_arrow _

/-- No number or word goes on with parts that do not begin with a scalar. -/
theorem isBoundary_text {ps : Parts} (h : NotScalar ps) (b : Blanks) :
    IsBoundary (ps.text ++ b.1) := by
  cases ps with
  | nil => simpa using BeginsApart.blanks b.2 (t := []) (fun _ h ↦ h) [] isBoundary_nil
  | cons p ps =>
    obtain ⟨c, p⟩ := p
    have hp : p.isScalar = false := by
      cases p with
      | scalar s => exact absurd rfl (h c s ps)
      | opening | closing | comma | arrow => rfl
    have hapart := BeginsApart.blanks c.2 (p.beginsApart hp (Parts.text ps ++ b.1))
    rw [Parts.text_cons, List.append_assoc, List.append_assoc]
    simpa using hapart [] isBoundary_nil

theorem Closing.isApart (c : Closing) {rest : Parts} (h : IsApart rest) :
    IsApart (c.parts ++ rest) := by
  cases c with
  | plain b => exact ⟨nofun, h⟩
  | comma b c => exact ⟨nofun, nofun, h⟩

/-- Behind an entry there is a comma or a bracket. -/
theorem Rest.notScalar (r : Rest) (c : Closing) (rest : Parts) :
    NotScalar (r.parts ++ (c.parts ++ rest)) := by
  cases r <;> cases c <;> nofun

mutual
theorem Tree.isApart : ∀ (t : Tree) {rest : Parts}, NotScalar rest → IsApart rest →
    IsApart (t.parts ++ rest)
  | .scalar _ _, _, hscalar, h => ⟨fun _ ↦ hscalar, h⟩
  | .empty _ _, _, _, h => ⟨nofun, nofun, h⟩
  | .array b first r c, rest, _, h => by
    rw [Tree.parts, List.cons_append, List.append_assoc, List.append_assoc]
    exact ⟨nofun, first.isApart (r.notScalar c rest) (r.isApart c h)⟩

theorem Entry.isApart : ∀ (e : Entry) {rest : Parts}, NotScalar rest → IsApart rest →
    IsApart (e.parts ++ rest)
  | .unkeyed t, _, hscalar, h => t.isApart hscalar h
  | .keyed _ _ _ value, _, hscalar, h => ⟨fun _ ↦ nofun, nofun, value.isApart hscalar h⟩

theorem Rest.isApart : ∀ (r : Rest) (c : Closing) {rest : Parts}, IsApart rest →
    IsApart (r.parts ++ (c.parts ++ rest))
  | .nil, c, _, h => c.isApart h
  | .more b e r, c, rest, h => by
    rw [Rest.parts, List.cons_append, List.append_assoc]
    exact ⟨nofun, e.isApart (r.notScalar c rest) (r.isApart c h)⟩
end

theorem Derivation.isApart (d : Derivation) : IsApart d.tree.parts := by
  have h : IsApart (d.tree.parts ++ []) := d.tree.isApart nofun trivial
  rwa [List.append_nil] at h

/-! ## Short integers -/

/-- A scalar is no integer with too many digits. -/
def Scalar.IsShort : Scalar → Prop
  | .number n _ => ∃ v, n.value = .ok v
  | .string .. | .word .. => True

/-- A part is no integer with too many digits. -/
def Part.IsShort : Part → Prop
  | .scalar s => s.IsShort
  | _ => True

/-- No part is an integer with too many digits. -/
def Parts.IsShort (ps : Parts) : Prop := ∀ p ∈ ps, p.2.IsShort

theorem Scalar.isScalar_text {s : Scalar} (h : s.IsShort) : IsScalar s.text s.value := by
  cases s with
  | string ps hps => exact .string ⟨ps, rfl, (Option.some_get hps).symm⟩
  | word t ht => exact .word (Option.some_get ht).symm
  | number n hn =>
    obtain ⟨v, hv⟩ := h
    have hvalue : n.amount = v := Numeral.amount_of_value hv
    exact .number ⟨n, hn, rfl, hv.trans (congrArg Except.ok hvalue.symm)⟩

/-- An integer with too many digits is the last token. -/
theorem tokensFrom_limit {n : Numeral} (hn : n.IsWellFormed) {e : Integer.LimitError}
    (he : n.value = .error e) {rest : Text} (hrest : IsBoundary rest) (pos : Nat) :
    tokensFrom pos 0 (n.text ++ rest) = [⟨pos, .bad (.limit e)⟩] := by
  have hread := Numeral.read?_text_append hn hrest
  obtain ⟨c, s, htext, hblank, hmark⟩ := exists_cons_text hn
  rw [htext, List.cons_append] at hread ⊢
  rw [tokensFrom, if_neg (by simp [hblank]), token_eq_of_notMem hmark, hread]
  simp only [he]

/-- Where the tokens go on behind a part, it is no integer with too many digits. -/
theorem Part.isShort_of_tokensFrom {p : Part} {rest : Text}
    (hrest : p.isScalar = true → IsBoundary rest) {pos : Nat}
    (h : ∀ l ∈ tokensFrom pos 0 (p.text ++ rest), l.token.isTooLong = false) : p.IsShort := by
  cases p with
  | opening | closing | comma | arrow => trivial
  | scalar s =>
    cases s with
    | string | word => trivial
    | number n hn =>
      cases hvalue : n.value with
      | ok v => exact ⟨v, hvalue⟩
      | error e =>
        have htokens := tokensFrom_limit hn hvalue (hrest rfl) pos
        cases h ⟨pos, .bad (.limit e)⟩ (htokens ▸ List.mem_singleton_self _)

theorem tokensFrom_part {p : Part} (h : p.IsShort) {rest : Text}
    (hrest : p.isScalar = true → IsBoundary rest) (pos : Nat) :
    tokensFrom pos 0 (p.text ++ rest) =
      ⟨pos, p.token⟩ :: tokensFrom (pos + p.text.length) 0 rest := by
  cases p with
  | opening => exact tokensFrom_opening rest pos
  | closing => exact tokensFrom_closing rest pos
  | comma => exact tokensFrom_comma rest pos
  | arrow => exact tokensFrom_arrow rest pos
  | scalar s => exact tokensFrom_scalar (s.isScalar_text h) (hrest rfl) pos

/-- Where a text has no token that is too long, neither has it such parts. -/
theorem Parts.isShort_of_tokensFrom {ps : Parts} (hps : IsApart ps) (b : Blanks) {pos : Nat}
    (h : ∀ l ∈ tokensFrom pos 0 (ps.text ++ b.1), l.token.isTooLong = false) : ps.IsShort := by
  induction ps generalizing pos with
  | nil => exact List.forall_mem_nil _
  | cons p ps ih =>
    obtain ⟨c, p⟩ := p
    have hrest : p.isScalar = true → IsBoundary (Parts.text ps ++ b.1) :=
      fun hp ↦ isBoundary_text (hps.1 hp) b
    rw [Parts.text_cons, List.append_assoc, List.append_assoc, tokensFrom_blanks c.2] at h
    have hp := Part.isShort_of_tokensFrom hrest h
    rw [tokensFrom_part hp hrest] at h
    exact List.forall_mem_cons.2 ⟨hp, ih hps.2 fun l hl ↦ h l (List.mem_cons_of_mem _ hl)⟩

/-! ## Trees denote -/

/-- What words stand for. -/
theorem cases_of_isWord {t : Text} {v : Value} (h : IsWord t v) : v = .null ∨ (∃ b, v = .bool b) ∨
    v = .double .nan ∨ ∃ negative, v = .double (.infinity negative) := by
  simp only [IsWord, wordValue?] at h
  grind

/-- A scalar can be a key. -/
theorem Scalar.exists_atom (s : Scalar) : ∃ k, s.value = .atom k := by
  cases s with
  | string ps h => exact ⟨_, rfl⟩
  | word t h =>
    rcases cases_of_isWord (Option.some_get h).symm with hv | ⟨b, hv⟩ | hv | ⟨negative, hv⟩ <;>
      exact ⟨_, hv⟩
  | number n h =>
    obtain ⟨negative, whole, fraction, power⟩ := n
    cases fraction <;> cases power <;> exact ⟨_, rfl⟩

theorem Closing.exists_text (c : Closing) : ∃ t, IsClosing t ∧ c.parts.text = t ++ [0x5D] := by
  cases c with
  | plain b => exact ⟨_, .blanks b.2, by simp [Closing.parts, Part.text]⟩
  | comma b c => exact ⟨_, .comma b.2 c.2, by simp [Closing.parts, Part.text]⟩

mutual
/-- The text of a tree is a literal of its value. -/
theorem Tree.denotes : ∀ t : Tree, t.parts.IsShort → Denotes t.parts.text t.value
  | .scalar b s, h => by
    have hs := s.isScalar_text (List.forall_mem_cons.1 h).1
    simpa [Tree.parts, Tree.value, Part.text] using Denotes.scalar b.2 hs
  | .empty b c, _ => by
    simpa [Tree.parts, Tree.value, Part.text] using Denotes.empty b.2 c.2
  | .array b first r c, h => by
    obtain ⟨-, hparts⟩ := List.forall_mem_cons.1 h
    obtain ⟨hfirst, hparts⟩ := List.forall_mem_append.1 hparts
    obtain ⟨hrest, -⟩ := List.forall_mem_append.1 hparts
    obtain ⟨t, ht, htext⟩ := c.exists_text
    have hitems := r.denotes (.one (first.denotes hfirst)) hrest
    simpa [Tree.parts, Tree.value, Part.text, htext] using Denotes.array b.2 hitems ht

theorem Entry.denotes : ∀ e : Entry, e.parts.IsShort → DenotesItem e.parts.text e.item
  | .unkeyed t, h => .unkeyed (t.denotes h)
  | .keyed b key c value, h => by
    obtain ⟨hkey, hparts⟩ := List.forall_mem_cons.1 h
    obtain ⟨-, hvalue⟩ := List.forall_mem_cons.1 hparts
    obtain ⟨k, hk⟩ := key.exists_atom
    have hdenotes : Denotes (b.1 ++ key.text) (.atom k) :=
      hk ▸ Denotes.scalar b.2 (key.isScalar_text hkey)
    rw [Entry.item, hk]
    simpa [Entry.parts, Part.text] using DenotesItem.keyed hdenotes c.2 (value.denotes hvalue)

/-- The entries behind others go on with their text. -/
theorem Rest.denotes : ∀ (r : Rest) {t : Text} {items : List Item}, DenotesItems t items →
    r.parts.IsShort → DenotesItems (t ++ r.parts.text) (items ++ r.items)
  | .nil, _, _, ht, _ => by simpa [Rest.parts, Rest.items] using ht
  | .more b e r, t, items, ht, h => by
    obtain ⟨-, hparts⟩ := List.forall_mem_cons.1 h
    obtain ⟨he, hr⟩ := List.forall_mem_append.1 hparts
    have hitems := r.denotes (.more ht b.2 (e.denotes he)) hr
    simpa [Rest.parts, Rest.items, Part.text] using hitems
end

/-- The text of a derivation is a literal of its value. -/
theorem Derivation.isLiteral {d : Derivation} (h : HasShortIntegers d.text) :
    IsLiteral d.text d.value :=
  ⟨_, _, rfl, d.tree.denotes (Parts.isShort_of_tokensFrom d.isApart d.blanks h), d.blanks.2⟩

/-- Derivations say of texts with short integers what the grammar says. -/
theorem isLiteral_iff {t : Text} (h : HasShortIntegers t) (v : Value) :
    IsLiteral t v ↔ ∃ d : Derivation, d.text = t ∧ d.value = v := by
  constructor
  · exact fun hv ↦ exists_derivation (read_of_isLiteral hv)
  · rintro ⟨d, rfl, rfl⟩
    exact Derivation.isLiteral h

end ActorFacade.Literal
