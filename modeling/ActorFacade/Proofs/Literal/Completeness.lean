import ActorFacade.Proofs.Literal.Tokens

/-! # Every literal is read

A text that the grammar says is a literal of a value is read as this value (`read_of_isLiteral`).
The derivation of the literal is followed by the tokens: `Advances s t s'` says that the tokens of
`t` take the reader from one state to another, whatever comes behind `t` and cannot go on with it.
-/

namespace ActorFacade.Literal

open State (put want)

/-! ## Boundaries -/

/-- Texts that no number or word in front of them can go on with. -/
def BeginsApart (t : Text) : Prop := ∀ rest, IsBoundary rest → IsBoundary (t ++ rest)

/-- No number or word goes on with a blank. -/
theorem isBlank_disjoint {c : CodePoint} (h : Text.isBlank c = true) :
    isWordPart c = false ∧ Text.isDigit c = false ∧ c ≠ 0x2E := by
  have hletter : Text.isAsciiLetter c = false := by
    by_contra hne
    rw [isBlank_of_isAsciiLetter (by simpa using hne)] at h
    cases h
  have hdigit : Text.isDigit c = false := by
    by_contra hne
    rw [(isDigit_disjoint (by simpa using hne)).1] at h
    cases h
  have hascii : Text.isAsciiDigit c = false := by
    by_contra hne
    rw [Text.isDigit_of_isAsciiDigit (by simpa using hne)] at hdigit
    cases hdigit
  have hmark : ∀ d ∈ ([0x2E, 0x5F] : Text), c ≠ d := by
    rintro d hd rfl
    have hall : ∀ d ∈ ([0x2E, 0x5F] : Text), Text.isBlank d = false := by decide
    rw [hall c hd] at h
    cases h
  refine ⟨?_, hdigit, hmark _ (by decide)⟩
  simpa [isWordPart, isWordStart, hletter, hascii] using hmark 0x5F (by decide)

theorem BeginsApart.blanks {b t : Text} (hb : IsBlanks b) (ht : BeginsApart t) :
    BeginsApart (b ++ t) := by
  intro rest hrest
  cases b with
  | nil => exact ht rest hrest
  | cons c b =>
    simp only [IsBlanks, Text.isAllBlank, List.all_cons, Bool.and_eq_true] at hb
    obtain ⟨hword, hdigit, hpoint⟩ := isBlank_disjoint hb.1
    exact isBoundary_cons hword hdigit hpoint _

theorem beginsApart_arrow (t : Text) : BeginsApart (0x3D :: t) :=
  fun _ _ ↦ isBoundary_cons rfl rfl (by decide) _

theorem beginsApart_comma (t : Text) : BeginsApart (0x2C :: t) :=
  fun _ _ ↦ isBoundary_cons rfl rfl (by decide) _

theorem beginsApart_closing (t : Text) : BeginsApart (0x5D :: t) :=
  fun _ _ ↦ isBoundary_cons rfl rfl (by decide) _

theorem IsClosing.beginsApart {c : Text} (h : IsClosing c) : BeginsApart (c ++ [0x5D]) := by
  cases h with
  | blanks hb => exact .blanks hb (beginsApart_closing [])
  | comma hb _ =>
    rw [List.append_assoc, List.cons_append]
    exact .blanks hb (beginsApart_comma _)

/-! ## Runs over texts -/

/-- The tokens of a text take the reader from one state to another. -/
def Advances (s : State) (t : Text) (s' : State) : Prop :=
  ∀ length pos rest, IsBoundary rest →
    run length s (tokensFrom pos 0 (t ++ rest)) = run length s' (tokensFrom (pos + t.length) 0 rest)

/-- A token that is taken makes one step. -/
theorem run_cons {s s' : State} {l : Lexeme} (h : s.next l.token = .ok s') (length : Nat)
    (ls : List Lexeme) : run length s (l :: ls) = run length s' ls := by
  rw [run, h]

namespace Advances

variable {s s' s'' : State} {b t u : Text}

theorem refl (s : State) : Advances s [] s := fun _ _ _ _ ↦ rfl

theorem trans (ht : Advances s t s') (hu : Advances s' u s'') (happart : BeginsApart u) :
    Advances s (t ++ u) s'' := by
  intro length pos rest hrest
  rw [List.append_assoc, ht length pos _ (happart rest hrest), hu length _ rest hrest,
    List.length_append, Nat.add_assoc]

theorem blanks (hb : IsBlanks b) (ht : Advances s t s') : Advances s (b ++ t) s' := by
  intro length pos rest hrest
  rw [List.append_assoc, tokensFrom_blanks hb, ht length _ rest hrest, List.length_append,
    Nat.add_assoc]

theorem scalar {v : Value} (ht : IsScalar t v) (h : s.next (.value v) = .ok s') :
    Advances s t s' := by
  intro length pos rest hrest
  rw [tokensFrom_scalar ht hrest, run_cons h]

theorem opening (h : s.next .opening = .ok s') (ht : Advances s' t s'') :
    Advances s (0x5B :: t) s'' := by
  intro length pos rest hrest
  rw [List.cons_append, tokensFrom_opening, run_cons h, ht length _ rest hrest, List.length_cons,
    Nat.add_assoc, Nat.add_comm 1]

theorem closing (h : s.next .closing = .ok s') : Advances s [0x5D] s' := by
  intro length pos rest _
  rw [List.singleton_append, tokensFrom_closing, run_cons h]
  rfl

theorem comma (h : s.next .comma = .ok s') (ht : Advances s' t s'') :
    Advances s (0x2C :: t) s'' := by
  intro length pos rest hrest
  rw [List.cons_append, tokensFrom_comma, run_cons h, ht length _ rest hrest, List.length_cons,
    Nat.add_assoc, Nat.add_comm 1]

theorem arrow (h : s.next .arrow = .ok s') (ht : Advances s' t s'') :
    Advances s (0x3D :: 0x3E :: t) s'' := by
  intro length pos rest hrest
  rw [List.cons_append, List.cons_append, tokensFrom_arrow, run_cons h, ht length _ rest hrest,
    List.length_cons, List.length_cons, Nat.add_assoc, Nat.add_comm 2]

end Advances

/-! ## States around values -/

/-- The state in which the innermost of some arrays is read on. -/
def wanting : List Frame → State
  | [] => .start
  | f :: outer => .inside f outer

/-- Whether a value may come next within some arrays. -/
def Wants : List Frame → Prop
  | [] => True
  | f :: _ => f.slot = .entry ∨ ∃ k, f.slot = .value k

theorem next_value {fs : List Frame} (h : Wants fs) (v : Value) :
    (wanting fs).next (.value v) = .ok (put v fs) := by
  cases fs with
  | nil => rfl
  | cons f outer => rcases h with hslot | ⟨k, hslot⟩ <;> simp [wanting, State.next, want, hslot]

theorem next_opening {fs : List Frame} (h : Wants fs) :
    (wanting fs).next .opening = .ok (.inside ⟨[], .entry⟩ fs) := by
  cases fs with
  | nil => rfl
  | cons f outer => rcases h with hslot | ⟨k, hslot⟩ <;> simp [wanting, State.next, want, hslot]

/-- An array is behind entries when they are complete, or the last one could still be a key. -/
structure IsBehind (f : Frame) (items : List Item) : Prop where
  slot : f.slot = .full ∨ ∃ v, f.slot = .item v
  items : State.closedItems f = items

theorem IsBehind.next_comma {f : Frame} {items : List Item} (h : IsBehind f items)
    (outer : List Frame) :
    (State.inside f outer).next .comma = .ok (.inside ⟨items, .entry⟩ outer) := by
  rcases h.slot with hslot | ⟨v, hslot⟩ <;> simp [State.next, hslot, h.items]

theorem IsBehind.next_closing {f : Frame} {items : List Item} (h : IsBehind f items)
    (outer : List Frame) :
    (State.inside f outer).next .closing = .ok (put (arrayValue items) outer) := by
  rcases h.slot with hslot | ⟨v, hslot⟩ <;> simp [State.next, hslot, h.items]

theorem IsBehind.closing {f : Frame} {items : List Item} (h : IsBehind f items) {c : Text}
    (hc : IsClosing c) (outer : List Frame) :
    Advances (.inside f outer) (c ++ [0x5D]) (put (arrayValue items) outer) := by
  cases hc with
  | blanks hb => exact .blanks hb (.closing (h.next_closing outer))
  | comma hb hc =>
    rw [List.append_assoc, List.cons_append]
    exact .blanks hb (.comma (h.next_comma outer) (.blanks hc (.closing rfl)))

/-! ## Derivations -/

mutual
/-- The tokens of a literal put its value where one is wanted. -/
theorem Denotes.advances : ∀ {t : Text} {v : Value}, Denotes t v → ∀ fs : List Frame, Wants fs →
    Advances (wanting fs) t (put v fs)
  | _, _, .scalar hb ht, _, hfs => .blanks hb (.scalar ht (next_value hfs _))
  | _, _, .empty hb hc, _, hfs => by
    rw [List.append_assoc, List.cons_append]
    exact .blanks hb (.opening (next_opening hfs) (.blanks hc (.closing rfl)))
  | _, _, .array hb ht hc, fs, hfs => by
    obtain ⟨f, hf, hitems⟩ := ht.advances fs
    rw [List.append_assoc, List.append_assoc, List.cons_append]
    exact .blanks hb (.opening (next_opening hfs) (hitems.trans (hf.closing hc fs) hc.beginsApart))

/-- The tokens of an entry add it to an array. -/
theorem DenotesItem.advances : ∀ {t : Text} {item : Item}, DenotesItem t item →
    ∀ (items : List Item) (outer : List Frame), ∃ f, IsBehind f (items ++ [item]) ∧
      Advances (.inside ⟨items, .entry⟩ outer) t (.inside f outer)
  | _, _, .unkeyed h, items, outer =>
    ⟨_, ⟨.inr ⟨_, rfl⟩, rfl⟩, h.advances (⟨items, .entry⟩ :: outer) (.inl rfl)⟩
  | _, _, .keyed (k := k) (v := v) hk hb hv, items, outer => by
    have hkey := hk.advances (⟨items, .entry⟩ :: outer) (.inl rfl)
    have hvalue := hv.advances (⟨items, .value (.atom k)⟩ :: outer) (.inr ⟨_, rfl⟩)
    refine ⟨⟨items ++ [.keyed (.atom k) v], .full⟩, ⟨.inl rfl, rfl⟩, ?_⟩
    rw [List.append_assoc]
    exact hkey.trans (.blanks hb (.arrow rfl hvalue)) (.blanks hb (beginsApart_arrow _))

/-- The tokens of entries make up an array of them. -/
theorem DenotesItems.advances : ∀ {t : Text} {items : List Item}, DenotesItems t items →
    ∀ (outer : List Frame), ∃ f, IsBehind f items ∧
      Advances (.inside ⟨[], .entry⟩ outer) t (.inside f outer)
  | _, _, .one h, outer => h.advances [] outer
  | _, _, .more ht hb hu, outer => by
    obtain ⟨f, hf, hitems⟩ := ht.advances outer
    obtain ⟨f', hf', hitem⟩ := hu.advances _ outer
    refine ⟨f', hf', ?_⟩
    rw [List.append_assoc]
    exact hitems.trans (.blanks hb (.comma (hf.next_comma outer) hitem))
      (.blanks hb (beginsApart_comma _))
end

/-- A literal of a value is read as this value. -/
theorem read_of_isLiteral {t : Text} {v : Value} (h : IsLiteral t v) : read t = .ok v := by
  obtain ⟨s, b, rfl, hs, hb⟩ := h
  have hboundary : IsBoundary b := by
    simpa using BeginsApart.blanks hb (t := []) (fun _ h ↦ h) [] isBoundary_nil
  have hrun := hs.advances [] trivial (s ++ b).length 0 b hboundary
  have hblanks := tokensFrom_blanks hb [] (0 + s.length)
  rw [List.append_nil] at hblanks
  rw [hblanks] at hrun
  unfold read tokens
  exact congrArg (Except.mapError _) hrun

end ActorFacade.Literal
