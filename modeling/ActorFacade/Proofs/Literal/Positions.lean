import ActorFacade.Proofs.Literal.Derivation

/-! # Positions of errors

A text that is refused is well formed up to the position that is reported: what stands before it
begins a literal (`read_error_position`).  What was read takes the reader to the state in which the
error arises (`ReadsTo`), and from every state a literal can be completed (`exists_completion`).
-/

namespace ActorFacade.Literal

open State (put closedItems putInto)

/-! ## Completing literals -/

/-- Whether reading stands behind a value, which a number or a word could go on with. -/
def State.isBehindValue : State → Bool
  | .start => false
  | .done _ => true
  | .inside f _ =>
    match f.slot with
    | .entry | .value _ => false
    | .item _ | .full => true

/-- Closing brackets for some arrays. -/
def closings (fs : List Frame) : Text := List.replicate fs.length 0x5D

theorem beginsApart_closings (fs : List Frame) : BeginsApart (closings fs) := by
  cases fs with
  | nil => exact fun _ h ↦ h
  | cons f outer => exact beginsApart_closing _

/-- Behind a value all arrays around it can be closed. -/
theorem exists_advances_closings (v : Value) (fs : List Frame) :
    ∃ w, Advances (put v fs) (closings fs) (.done w) := by
  induction fs generalizing v with
  | nil => exact ⟨v, .refl _⟩
  | cons f outer ih =>
    have hbehind : ∃ items, IsBehind (putInto v f) items := by
      refine ⟨_, ?_, rfl⟩
      cases hslot : f.slot <;> simp [putInto, hslot]
    obtain ⟨items, hbehind⟩ := hbehind
    obtain ⟨w, hw⟩ := ih (arrayValue items)
    have hclosing := Advances.closing (hbehind.next_closing outer)
    exact ⟨w, hclosing.trans hw (beginsApart_closings outer)⟩

/-- From every state a literal can be completed, and without going on with a number or a word. -/
theorem exists_completion (s : State) : ∃ c w, (s.isBehindValue = true → IsBoundary c) ∧
    Advances s c (.done w) := by
  have hnull : IsScalar "null" .null := .word rfl
  have hbrackets {t : Text} (ht : BeginsApart t) : IsBoundary t := by
    simpa using ht [] isBoundary_nil
  cases s with
  | start => exact ⟨_, _, nofun, .scalar hnull rfl⟩
  | done v => exact ⟨[], v, fun _ ↦ isBoundary_nil, .refl _⟩
  | inside f outer =>
    have hclose (s : State) {v : Value} (h : s.next .closing = .ok (put v outer)) :
        ∃ w, Advances s (0x5D :: closings outer) (.done w) := by
      obtain ⟨w, hw⟩ := exists_advances_closings v outer
      exact ⟨w, Advances.trans (.closing h) hw (beginsApart_closings outer)⟩
    obtain ⟨items, slot⟩ := f
    cases slot with
    | entry =>
      obtain ⟨w, hw⟩ := hclose (.inside ⟨items, .entry⟩ outer) rfl
      exact ⟨_, w, nofun, hw⟩
    | value k =>
      obtain ⟨w, hw⟩ := exists_advances_closings .null (⟨items, .value k⟩ :: outer)
      have hvalue : (State.inside ⟨items, .value k⟩ outer).next (.value .null) =
          .ok (put .null (⟨items, .value k⟩ :: outer)) := rfl
      exact ⟨_, w, nofun, Advances.trans (.scalar hnull hvalue) hw (beginsApart_closings _)⟩
    | item v =>
      obtain ⟨w, hw⟩ := hclose (.inside ⟨items, .item v⟩ outer) rfl
      exact ⟨_, w, fun _ ↦ hbrackets (beginsApart_closing _), hw⟩
    | full =>
      obtain ⟨w, hw⟩ := hclose (.inside ⟨items, .full⟩ outer) rfl
      exact ⟨_, w, fun _ ↦ hbrackets (beginsApart_closing _), hw⟩

/-! ## What was read -/

/-- A text at the beginning takes the reader to a state, whatever comes behind it and cannot go on
with it. -/
def ReadsTo (u : Text) (s : State) : Prop :=
  ∀ length rest, (s.isBehindValue = true → IsBoundary rest) →
    run length .start (tokensFrom 0 0 (u ++ rest)) = run length s (tokensFrom u.length 0 rest)

/-- What takes the reader somewhere begins a literal. -/
theorem ReadsTo.exists_read {u : Text} {s : State} (h : ReadsTo u s) :
    ∃ rest v, read (u ++ rest) = .ok v := by
  obtain ⟨c, w, hboundary, hadvances⟩ := exists_completion s
  have hrun := hadvances (u ++ c).length u.length [] isBoundary_nil
  rw [List.append_nil] at hrun
  refine ⟨c, w, mapError_eq_ok_iff.2 ?_⟩
  rw [tokens, h _ _ hboundary, hrun]
  rfl

/-- A value is taken where one is wanted, and then reading stands behind it. -/
theorem isBehindValue_of_next_value {s s' : State} {v : Value} (h : s.next (.value v) = .ok s') :
    s.isBehindValue = false ∧ s'.isBehindValue = true := by
  have hput : ∀ fs : List Frame, Wants fs → (put v fs).isBehindValue = true := by
    rintro (_ | ⟨⟨items, slot⟩, outer⟩) hfs
    · rfl
    · rcases hfs with rfl | ⟨k, rfl⟩ <;> rfl
  cases s with
  | start =>
    cases h
    exact ⟨rfl, hput [] trivial⟩
  | done => cases h
  | inside f outer =>
    obtain ⟨items, slot⟩ := f
    cases slot with
    | entry =>
      cases h
      exact ⟨rfl, hput (⟨items, .entry⟩ :: outer) (.inl rfl)⟩
    | value k =>
      cases h
      exact ⟨rfl, hput (⟨items, .value k⟩ :: outer) (.inr ⟨k, rfl⟩)⟩
    | item | full => cases h

/-- Keys are found not to be scalars at an arrow only. -/
theorem eq_arrow_of_next {s : State} {tok : Token} (h : s.next tok = .error .keyNotScalar) :
    tok = .arrow := by
  have hwant : ∀ outer, State.want outer tok ≠ .error .keyNotScalar := by
    intro outer h
    cases tok with
    | bad d => cases d <;> cases h
    | value | opening | closing | comma | arrow => cases h
  cases s with
  | start => exact absurd h (hwant [])
  | done => cases h
  | inside f outer =>
    obtain ⟨items, slot⟩ := f
    cases slot with
    | entry =>
      cases tok with
      | closing => cases h
      | value | opening | comma | arrow | bad => exact absurd h (hwant (⟨items, .entry⟩ :: outer))
    | value k => exact absurd h (hwant (⟨items, .value k⟩ :: outer))
    | item v =>
      cases tok with
      | arrow => rfl
      | value | opening | closing | comma | bad => cases h
    | full => cases tok <;> cases h

namespace ReadsTo

variable {u : Text} {s s' : State}

theorem start : ReadsTo [] .start := fun _ _ _ ↦ rfl

/-- A blank changes nothing. -/
theorem blank (h : ReadsTo u s) {c : CodePoint} (hc : Text.isBlank c = true) :
    ReadsTo (u ++ [c]) s := by
  intro length rest _
  have hrest : IsBoundary (c :: rest) := by
    obtain ⟨hword, hdigit, hpoint⟩ := isBlank_disjoint hc
    exact isBoundary_cons hword hdigit hpoint rest
  rw [List.append_assoc, List.singleton_append, h length _ fun _ ↦ hrest, tokensFrom, if_pos hc,
    List.length_append, List.length_singleton]

/-- A part whose token is taken makes a step. -/
theorem part (h : ReadsTo u s) {p : Part} (hscalar : ∀ v, p.token = .value v → IsScalar p.text v)
    (hnext : s.next p.token = .ok s') : ReadsTo (u ++ p.text) s' := by
  intro length rest hrest
  have hboundary : s.isBehindValue = true → IsBoundary (p.text ++ rest) := by
    intro hbehind
    have hp : p.isScalar = false := by
      cases p with
      | scalar v =>
        have hwanted := (isBehindValue_of_next_value hnext).1
        cases hwanted.symm.trans hbehind
      | opening | closing | comma | arrow => rfl
    simpa using p.beginsApart hp rest [] isBoundary_nil
  have htokens : tokensFrom u.length 0 (p.text ++ rest) =
      ⟨u.length, p.token⟩ :: tokensFrom (u.length + p.text.length) 0 rest := by
    cases p with
    | opening => exact tokensFrom_opening rest _
    | closing => exact tokensFrom_closing rest _
    | comma => exact tokensFrom_comma rest _
    | arrow => exact tokensFrom_arrow rest _
    | scalar v =>
      exact tokensFrom_scalar (hscalar _ rfl) (hrest (isBehindValue_of_next_value hnext).2) _
  rw [List.append_assoc, h length _ hboundary, htokens, run_cons hnext, List.length_append]

end ReadsTo

/-! ## Where an error arises -/

/-- An error arises behind a text that takes the reader to a state; it is reported there, or behind
the arrow that follows. -/
theorem exists_readsTo_of_error {u t : Text} {s : State} {cause : Cause} {position : Nat}
    (hu : ReadsTo u s)
    (h : run (u ++ t).length s (tokensFrom u.length 0 t) = .error (cause, position)) :
    ∃ w rest s', u ++ t = w ++ rest ∧ ReadsTo w s' ∧
      (cause ≠ .keyNotScalar → position = w.length) ∧
      (cause = .keyNotScalar → position = w.length + 2 ∧ 2 ≤ rest.length) := by
  induction hlength : t.length using Nat.strong_induction_on generalizing u t s with
  | _ n ih =>
    cases t with
    | nil =>
      rw [List.append_nil] at h
      have hposition : position = u.length ∧ cause ≠ .keyNotScalar := by
        cases s with
        | start =>
          cases h
          exact ⟨rfl, nofun⟩
        | done => cases h
        | inside f outer =>
          obtain ⟨items, slot⟩ := f
          cases slot <;>
          · cases h
            exact ⟨rfl, nofun⟩
      exact ⟨u, [], s, rfl, hu, fun _ ↦ hposition.1, fun hcause ↦ absurd hcause hposition.2⟩
    | cons c t =>
      cases hblank : Text.isBlank c with
      | true =>
        rw [tokensFrom, if_pos hblank, ← List.singleton_append, ← List.append_assoc,
          ← List.length_singleton (a := c), ← List.length_append] at h
        rw [← List.singleton_append, ← List.append_assoc]
        exact ih t.length (by rw [← hlength]; exact Nat.lt_succ_self _) (hu.blank hblank) h rfl
      | false =>
        -- The token is refused, or the text goes on behind its part.
        have hrefused {tok : Token} {ls : List Lexeme} {cause' : Cause}
            (htokens : tokensFrom u.length 0 (c :: t) = ⟨u.length, tok⟩ :: ls)
            (hnext : s.next tok = .error cause') :
            cause' = cause ∧ Lexeme.errorPosition ⟨u.length, tok⟩ cause' = position := by
          rw [htokens, run, hnext] at h
          cases h
          exact ⟨rfl, rfl⟩
        rcases exists_part_of_tokensFrom hblank t u.length with
          ⟨d, htokens⟩ | ⟨p, rest, htext, hscalar, htokens⟩
        · cases hnext : s.next (.bad d) with
          | ok s' => exact absurd hnext (next_bad_ne_ok s s' d)
          | error =>
            obtain ⟨rfl, rfl⟩ := hrefused htokens hnext
            refine ⟨u, c :: t, s, rfl, hu, fun hcause ↦ if_neg hcause, ?_⟩
            rintro rfl
            cases eq_arrow_of_next hnext
        · cases hnext : s.next p.token with
          | error =>
            obtain ⟨rfl, rfl⟩ := hrefused htokens hnext
            refine ⟨u, c :: t, s, rfl, hu, fun hcause ↦ if_neg hcause, ?_⟩
            rintro rfl
            have hp : p = .arrow := by
              cases p <;> first | rfl | cases eq_arrow_of_next hnext
            rw [htext, hp, List.length_append]
            exact ⟨if_pos rfl, Nat.le_add_right 2 _⟩
          | ok s' =>
            have hshort : rest.length < n := by
              obtain ⟨d, w, hp, -⟩ := p.exists_cons_text
              rw [← hlength, htext, hp, List.length_append, List.length_cons]
              omega
            rw [htokens, run_cons hnext, htext, ← List.append_assoc, ← List.length_append] at h
            rw [htext, ← List.append_assoc]
            exact ih rest.length hshort (hu.part hscalar hnext) h rfl

/-- A text that is refused is so at a position within it, and what stands before this position
begins a literal; where a key is no scalar, what stands before the arrow does. -/
theorem read_error_position {t : Text} {e : ReadError} (h : read t = .error e) :
    e.text = t ∧ e.position ≤ t.length ∧
      (e.cause ≠ .keyNotScalar → ∃ rest v, read (t.take e.position ++ rest) = .ok v) ∧
      (e.cause = .keyNotScalar → 2 ≤ e.position ∧
        ∃ rest v, read (t.take (e.position - 2) ++ rest) = .ok v) := by
  obtain ⟨⟨cause, position⟩, hrun, rfl⟩ := mapError_eq_error_iff.1 h
  obtain ⟨w, rest, s, ht, hw, hposition, hkey⟩ := exists_readsTo_of_error .start hrun
  rw [List.nil_append] at ht
  have hlength : t.length = w.length + rest.length := by rw [ht, List.length_append]
  have htake : t.take w.length = w := by rw [ht, List.take_left]
  refine ⟨rfl, ?_, ?_, ?_⟩
  · by_cases hcause : cause = .keyNotScalar
    · have hbehind := hkey hcause
      show position ≤ _
      omega
    · have hend := hposition hcause
      show position ≤ _
      omega
  · intro hcause
    show ∃ rest v, read (t.take position ++ rest) = .ok v
    rw [hposition hcause, htake]
    exact hw.exists_read
  · intro hcause
    show 2 ≤ position ∧ ∃ rest v, read (t.take (position - 2) ++ rest) = .ok v
    rw [(hkey hcause).1, Nat.add_sub_cancel, htake]
    exact ⟨Nat.le_add_left 2 _, hw.exists_read⟩

/-- A comma is missing within two arrays, and an array is a key. -/
theorem read_error_position_nested :
    let t := Text.ofString "[1 => [true, \"x\" !]]"
    let u := Text.ofString "[0, [1] => 2]"
    (read t = .error ⟨.expectedSeparator, 17, t⟩ ∧
      ∃ rest v, read (Text.ofString "[1 => [true, \"x\" " ++ rest) = .ok v) ∧
    read u = .error ⟨.keyNotScalar, 10, u⟩ ∧
      ∃ rest v, read (Text.ofString "[0, [1] " ++ rest) = .ok v := by
  intro t u
  have ht : read t = .error ⟨.expectedSeparator, 17, t⟩ := by decide +kernel
  have hu : read u = .error ⟨.keyNotScalar, 10, u⟩ := by decide +kernel
  exact ⟨⟨ht, (read_error_position ht).2.2.1 nofun⟩, hu, ((read_error_position hu).2.2.2 rfl).2⟩

end ActorFacade.Literal
