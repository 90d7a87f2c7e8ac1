import ActorFacade.Proofs.Literal.Completeness
import ActorFacade.Proofs.Literal.Lexing

/-! # What is read is a literal

Every text that is read has a derivation of the value that it is read as (`exists_derivation`).
A run of the reader over parts, from a state where a value is wanted, goes through a tree first;
what the tree is follows from what each state can take, by induction on the number of parts.
-/

namespace ActorFacade.Literal

open State (put want closedItems)

/-! ## Runs over parts -/

/-- Some parts lead the reader from one state to another. -/
def Leads (s : State) (ps : Parts) (s' : State) : Prop := ps.tokens.foldlM State.next s = .ok s'

theorem finish_eq_ok_iff {s : State} {v : Value} : s.finish = .ok v ↔ s = .done v := by
  cases s with
  | start => simp [State.finish]
  | done w => simp [State.finish]
  | inside f outer => cases hslot : f.slot <;> simp [State.finish, hslot]

theorem run_eq_ok_iff {length : Nat} {s : State} {ls : List Lexeme} {v : Value} :
    run length s ls = .ok v ↔ (ls.map (·.token)).foldlM State.next s = .ok (.done v) := by
  induction ls generalizing s with
  | nil =>
    rw [run, mapError_eq_ok_iff, finish_eq_ok_iff]
    exact ⟨congrArg Except.ok, Except.ok.inj⟩
  | cons l ls ih =>
    rw [run, List.map_cons, List.foldlM_cons]
    cases s.next l.token with
    | error e =>
      constructor
      · intro h
        cases h
      · intro h
        cases h
    | ok s => exact ih

/-- No state takes a bad token. -/
theorem next_bad_ne_ok (s s' : State) (d : Defect) : s.next (.bad d) ≠ .ok s' := by
  cases s with
  | start | done => simp [State.next, want]
  | inside f outer => cases hslot : f.slot <;> simp [State.next, want, hslot]

/-- A run that comes to an end had no bad tokens. -/
theorem not_bad_of_foldlM {s s' : State} {ts : List Token} (h : ts.foldlM State.next s = .ok s') :
    ∀ tok ∈ ts, ∀ d, tok ≠ .bad d := by
  induction ts generalizing s with
  | nil => exact List.forall_mem_nil _
  | cons tok ts ih =>
    rw [List.foldlM_cons] at h
    obtain ⟨s₁, hnext, h⟩ := bind_eq_ok_iff.1 h
    refine List.forall_mem_cons.2 ⟨?_, ih h⟩
    rintro d rfl
    exact next_bad_ne_ok s s₁ d hnext

namespace Leads

variable {s s' s'' : State} {ps : Parts} {b : Blanks} {p : Part} {v : Value}

theorem nil_iff : Leads s [] s' ↔ s = s' := ⟨Except.ok.inj, congrArg Except.ok⟩

theorem cons_iff :
    Leads s ((b, p) :: ps) s'' ↔ ∃ s', s.next p.token = .ok s' ∧ Leads s' ps s'' := by
  unfold Leads Parts.tokens
  rw [List.map_cons, List.foldlM_cons]
  exact bind_eq_ok_iff

theorem tail (h : Leads s ((b, p) :: ps) s'') (hnext : s.next p.token = .ok s') :
    Leads s' ps s'' := by
  obtain ⟨s₁, hs₁, h⟩ := cons_iff.1 h
  cases hnext.symm.trans hs₁
  exact h

theorem not_nil {f : Frame} {outer : List Frame} (h : Leads (.inside f outer) ps (.done v)) :
    ps ≠ [] := by
  rintro rfl
  cases nil_iff.1 h

end Leads

/-! ## Keys -/

/-- Arrays are no keys. -/
theorem isSome_unhashable?_arrayValue (items : List Item) :
    (arrayValue items).unhashable?.isSome = true := by
  unfold arrayValue
  split
  case isTrue => dsimp only; split <;> rfl
  case isFalse => rfl

/-- A literal that can be a key is a scalar. -/
theorem exists_scalar_of_unhashable? {t : Tree} (h : t.value.unhashable?.isSome = false) :
    ∃ b s, t = .scalar b s := by
  cases t with
  | scalar b s => exact ⟨b, s, rfl⟩
  | empty b c => simp [Tree.value, Value.unhashable?] at h
  | array b first rest closing =>
    rw [Tree.value, isSome_unhashable?_arrayValue] at h
    cases h

/-! ## Trees in runs -/

/-- Parts do not begin with a closing bracket. -/
def NotClosing (ps : Parts) : Prop := ∀ b rest, ps ≠ (b, .closing) :: rest

/-- Parts do not begin with an arrow. -/
def NotArrow (ps : Parts) : Prop := ∀ b rest, ps ≠ (b, .arrow) :: rest

/-- A run over parts that begin where a value is wanted goes through a tree first. -/
def FindsTree (ps : Parts) : Prop :=
  ∀ fs v, Wants fs → NotClosing ps → Leads (wanting fs) ps (.done v) →
    ∃ (t : Tree) (rest : Parts), ps = t.parts ++ rest ∧ Leads (put t.value fs) rest (.done v)

variable {ps : Parts} {v : Value}

/-- A run from before an entry goes through an entry. -/
theorem exists_entry (hfinds : ∀ qs : Parts, qs.length ≤ ps.length → FindsTree qs)
    {items : List Item} {outer : List Frame} (hclosing : NotClosing ps)
    (h : Leads (.inside ⟨items, .entry⟩ outer) ps (.done v)) :
    ∃ (e : Entry) (f : Frame) (rest : Parts), ps = e.parts ++ rest ∧
      IsBehind f (items ++ [e.item]) ∧ Leads (.inside f outer) rest (.done v) ∧ NotArrow rest := by
  obtain ⟨t, rest, rfl, hrest⟩ :=
    hfinds ps (le_refl _) (⟨items, .entry⟩ :: outer) v (.inl rfl) hclosing h
  by_cases harrow : NotArrow rest
  · exact ⟨.unkeyed t, ⟨items, .item t.value⟩, rest, rfl, ⟨.inr ⟨_, rfl⟩, rfl⟩, hrest, harrow⟩
  -- What was read is the key of the entry, and the tree of its value follows the arrow.
  obtain ⟨b, qs, rfl⟩ : ∃ b qs, rest = (b, .arrow) :: qs := by simpa [NotArrow] using harrow
  have hkey : t.value.unhashable?.isSome = false := by
    obtain ⟨s, hnext, -⟩ := Leads.cons_iff.1 hrest
    by_contra hsome
    exact absurd (hnext.symm.trans (if_pos (eq_true_of_ne_false hsome))) (by simp)
  obtain ⟨c, key, rfl⟩ := exists_scalar_of_unhashable? hkey
  have hkey : key.value.unhashable?.isSome = false := hkey
  have hnext : (put key.value (⟨items, .entry⟩ :: outer)).next .arrow =
      .ok (.inside ⟨items, .value key.value⟩ outer) := if_neg (by simp [hkey])
  have hvalue := hrest.tail hnext
  have hclosing : NotClosing qs := by
    rintro d rest rfl
    obtain ⟨_, hclose, -⟩ := Leads.cons_iff.1 hvalue
    cases hclose
  have hlength : qs.length ≤ ((Tree.scalar c key).parts ++ (b, .arrow) :: qs).length := by
    rw [List.length_append, List.length_cons]
    omega
  obtain ⟨value, rest, rfl, hend⟩ :=
    hfinds qs hlength (⟨items, .value key.value⟩ :: outer) v (.inr ⟨_, rfl⟩) hclosing hvalue
  have hend :
      Leads (.inside ⟨items ++ [.keyed key.value value.value], .full⟩ outer) rest (.done v) := hend
  refine ⟨.keyed c key b value, _, rest, rfl, ⟨.inl rfl, rfl⟩, hend, ?_⟩
  rintro d qs rfl
  obtain ⟨_, harrow, -⟩ := Leads.cons_iff.1 hend
  cases harrow

/-- A run from behind entries goes through the other entries and the end of the array. -/
theorem exists_rest (hfinds : ∀ qs : Parts, qs.length ≤ ps.length → FindsTree qs)
    {items : List Item} {outer : List Frame} {f : Frame} (hf : IsBehind f items)
    (harrow : NotArrow ps) (h : Leads (.inside f outer) ps (.done v)) :
    ∃ (r : Rest) (c : Closing) (rest : Parts), ps = r.parts ++ (c.parts ++ rest) ∧
      Leads (put (arrayValue (items ++ r.items)) outer) rest (.done v) := by
  induction hlength : ps.length using Nat.strong_induction_on generalizing items f ps with
  | _ n ih =>
    obtain ⟨⟨b, p⟩, qs, rfl⟩ := List.exists_cons_of_ne_nil h.not_nil
    rw [List.length_cons] at hlength
    cases p with
    | scalar | opening =>
      obtain ⟨_, hnext, -⟩ := Leads.cons_iff.1 h
      rcases hf.slot with hslot | ⟨w, hslot⟩ <;> simp [State.next, hslot, Part.token] at hnext
    | arrow => exact absurd rfl (harrow b qs)
    | closing =>
      refine ⟨.nil, .plain b, qs, rfl, ?_⟩
      rw [Rest.items, List.append_nil]
      exact h.tail (hf.next_closing outer)
    | comma =>
      have h := h.tail (hf.next_comma outer)
      by_cases hclosing : NotClosing qs
      · obtain ⟨e, f', rest, rfl, hf', hrest, harrow⟩ :=
          exists_entry (fun rs hrs ↦ hfinds rs (hrs.trans (Nat.le_succ _))) hclosing h
        rw [List.length_append] at hlength
        have hshort : ∀ rs : Parts, rs.length ≤ rest.length → FindsTree rs := by
          intro rs hrs
          refine hfinds rs (hrs.trans ?_)
          rw [List.length_cons, List.length_append]
          omega
        obtain ⟨r, c, rest, rfl, hend⟩ := ih rest.length (by omega) hshort hf' harrow hrest rfl
        refine ⟨.more b e r, c, rest, ?_, ?_⟩
        · simp [Rest.parts]
        · rw [Rest.items, ← List.singleton_append, ← List.append_assoc]
          exact hend
      · obtain ⟨c, rest, rfl⟩ : ∃ c rest, qs = (c, .closing) :: rest := by
          simpa [NotClosing] using hclosing
        refine ⟨.nil, .comma b c, rest, rfl, ?_⟩
        rw [Rest.items, List.append_nil]
        exact h.tail rfl

theorem findsTree (ps : Parts) : FindsTree ps := by
  induction hlength : ps.length using Nat.strong_induction_on generalizing ps with
  | _ n ih =>
    intro fs v hfs hclosing h
    cases ps with
    | nil => cases fs <;> cases Leads.nil_iff.1 h
    | cons p qs =>
      obtain ⟨b, p⟩ := p
      rw [List.length_cons] at hlength
      have hfinds : ∀ rs : Parts, rs.length ≤ qs.length → FindsTree rs :=
        fun rs hrs ↦ ih rs.length (by omega) rs rfl
      cases p with
      | scalar s => exact ⟨.scalar b s, qs, rfl, h.tail (next_value hfs _)⟩
      | closing => exact absurd rfl (hclosing b qs)
      | comma | arrow =>
        obtain ⟨_, hnext, -⟩ := Leads.cons_iff.1 h
        cases fs with
        | nil => cases hnext
        | cons f outer =>
          rcases hfs with hslot | ⟨k, hslot⟩ <;>
            simp [wanting, State.next, want, hslot, Part.token] at hnext
      | opening =>
        have h := h.tail (next_opening hfs)
        by_cases hclosing : NotClosing qs
        · obtain ⟨e, f, rest, rfl, hf, hrest, harrow⟩ := exists_entry hfinds hclosing h
          have hshort : ∀ rs : Parts, rs.length ≤ rest.length → FindsTree rs := by
            intro rs hrs
            refine hfinds rs (hrs.trans ?_)
            rw [List.length_append]
            omega
          obtain ⟨r, c, rest, rfl, hend⟩ := exists_rest hshort hf harrow hrest
          refine ⟨.array b e r c, rest, ?_, hend⟩
          simp [Tree.parts]
        · obtain ⟨c, rest, rfl⟩ : ∃ c rest, qs = (c, .closing) :: rest := by
            simpa [NotClosing] using hclosing
          exact ⟨.empty b c, rest, rfl, h.tail rfl⟩

/-! ## Derivations -/

/-- A text that is read as a value has a derivation of this value. -/
theorem exists_derivation {t : Text} {v : Value} (h : read t = .ok v) :
    ∃ d : Derivation, d.text = t ∧ d.value = v := by
  have hrun := run_eq_ok_iff.1 (mapError_eq_ok_iff.1 h)
  have hgood := not_bad_of_foldlM hrun
  have hlexemes : ∀ l ∈ tokensFrom 0 0 t, ∀ d, l.token ≠ .bad d :=
    fun l hl ↦ hgood l.token (List.mem_map_of_mem hl)
  obtain ⟨ps, b, rfl, htokens⟩ := exists_parts_of_tokensFrom hlexemes
  have hleads : Leads .start ps (.done v) := by
    rw [tokens, htokens] at hrun
    exact hrun
  have hclosing : NotClosing ps := by
    rintro c rest rfl
    obtain ⟨_, hnext, -⟩ := Leads.cons_iff.1 hleads
    cases hnext
  obtain ⟨tree, rest, rfl, hdone⟩ := findsTree ps [] v trivial hclosing hleads
  cases rest with
  | nil =>
    cases Leads.nil_iff.1 hdone
    exact ⟨⟨tree, b⟩, by rw [Derivation.text, List.append_nil], rfl⟩
  | cons p rest =>
    obtain ⟨_, hnext, -⟩ := Leads.cons_iff.1 hdone
    cases hnext

end ActorFacade.Literal
