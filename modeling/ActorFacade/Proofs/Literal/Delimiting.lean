import ActorFacade.Literal.Writer
import ActorFacade.Proofs.Digest.Sha256
import ActorFacade.Proofs.Except
import ActorFacade.Proofs.Literal.Numeral
import ActorFacade.Proofs.Text.Join

/-! # Where written literals end

A comma of a literal is in a string or between brackets.  `Nesting` keeps account of both along a
text, and `untilComma` is what stands before the first comma outside of them, so of a written
literal and a comma behind it the literal is left (`passes_of_write`).  A row of texts of this kind
with commas in between can therefore be taken apart in one way only (`eq_of_join_eq`).
-/

namespace ActorFacade.Literal

/-! ## Nesting -/

/-- Where a place is with respect to strings. -/
inductive Quoting where
  | outside
  | inside
  /-- In a string, behind a backslash. -/
  | escaped
deriving DecidableEq, Repr

/-- Where a place of a text is. -/
structure Nesting where
  /-- Whether it is in a string. -/
  quoting : Quoting
  /-- The number of brackets that are open there. -/
  depth : Nat
deriving DecidableEq, Repr

namespace Nesting

/-- A place outside of strings. -/
abbrev outside (depth : Nat) : Nesting := ⟨.outside, depth⟩

/-- A place in a string. -/
abbrev inside (depth : Nat) : Nesting := ⟨.inside, depth⟩

/-- Where the place behind a code point is. -/
def next (s : Nesting) (c : CodePoint) : Nesting :=
  match s.quoting with
  | .outside =>
    if c = 0x22 then inside s.depth
    else if c = 0x5B then outside (s.depth + 1)
    else if c = 0x5D then outside (s.depth - 1)
    else s
  | .inside =>
    if c = 0x22 then outside s.depth
    else if c = 0x5C then ⟨.escaped, s.depth⟩
    else s
  | .escaped => inside s.depth

end Nesting

open Nesting (outside inside)

/-- What a text has before its first comma outside of strings and brackets. -/
def untilComma (s : Nesting) : Text → Text
  | [] => []
  | c :: t => if c = 0x2C ∧ s = outside 0 then [] else c :: untilComma (s.next c) t

/-- From one place to another a text has no comma outside of strings and brackets. -/
def Passes (s : Nesting) (t : Text) (s' : Nesting) : Prop :=
  ∀ rest, untilComma s (t ++ rest) = t ++ untilComma s' rest

namespace Passes

variable {s s' s'' : Nesting} {t u : Text}

theorem nil (s : Nesting) : Passes s [] s := fun _ ↦ rfl

theorem cons {c : CodePoint} (hc : ¬(c = 0x2C ∧ s = outside 0)) (h : Passes (s.next c) t s') :
    Passes s (c :: t) s' := by
  intro rest
  rw [List.cons_append, untilComma, if_neg hc, h rest, List.cons_append]

theorem append (ht : Passes s t s') (hu : Passes s' u s'') : Passes s (t ++ u) s'' := by
  intro rest
  rw [List.append_assoc, ht, hu, List.append_assoc]

/-- A text that leads back to where it begins can be repeated with others of this kind. -/
theorem flatMap {α : Type} {f : α → Text} {xs : List α} (h : ∀ x ∈ xs, Passes s (f x) s) :
    Passes s (xs.flatMap f) s := by
  induction xs with
  | nil => exact .nil s
  | cons x xs ih =>
    obtain ⟨hx, hxs⟩ := List.forall_mem_cons.1 h
    rw [List.flatMap_cons]
    exact hx.append (ih hxs)

/-- A text that leads back to where it begins ends where a comma follows, or nothing does. -/
theorem untilComma_eq (h : Passes (outside 0) t (outside 0)) {rest : Text}
    (hrest : ∀ c, rest.head? = some c → c = 0x2C) : untilComma (outside 0) (t ++ rest) = t := by
  rw [h rest]
  cases rest with
  | nil => rw [untilComma, List.append_nil]
  | cons c rest =>
    obtain rfl := hrest c rfl
    rw [untilComma, if_pos ⟨rfl, rfl⟩, List.append_nil]

end Passes

/-! ## Plain texts -/

/-- The code points that begin or end something outside of strings. -/
def marks : Text := [0x22, 0x2C, 0x5B, 0x5D]

/-- A text without marks. -/
def IsPlain (t : Text) : Prop := ∀ c ∈ t, c ∉ marks

instance (t : Text) : Decidable (IsPlain t) := List.decidableBAll _ t

theorem isPlain_append {t u : Text} : IsPlain (t ++ u) ↔ IsPlain t ∧ IsPlain u :=
  List.forall_mem_append

theorem IsPlain.passes {t : Text} (h : IsPlain t) (n : Nat) :
    Passes (outside n) t (outside n) := by
  induction t with
  | nil => exact .nil _
  | cons c t ih =>
    obtain ⟨hc, ht⟩ := List.forall_mem_cons.1 h
    simp only [marks, List.mem_cons, List.not_mem_nil, or_false, not_or] at hc
    obtain ⟨hquote, hcomma, hopening, hclosing⟩ := hc
    have hnext : (outside n).next c = outside n := by
      simp only [Nesting.next, if_neg hquote, if_neg hopening, if_neg hclosing]
    refine .cons (fun h ↦ hcomma h.1) ?_
    rw [hnext]
    exact ih ht

theorem isPlain_of_isDigits {t : Text} (h : IsDigits t) : IsPlain t := by
  intro c hc hmark
  have hmarks : ∀ c ∈ marks, Text.isDigit c = false := by decide +kernel
  exact Bool.false_ne_true ((hmarks c hmark).symm.trans (h.2 c hc))

/-- Numerals have no marks. -/
theorem Numeral.IsWellFormed.isPlain_text {n : Numeral} (h : n.IsWellFormed) :
    IsPlain n.text := by
  obtain ⟨negative, whole, fraction, power⟩ := n
  obtain ⟨hwhole, hfraction, hpower⟩ := h
  have hnegative : IsPlain (if negative then [0x2D] else []) := by cases negative <;> decide
  have hfractionText : IsPlain (fractionText fraction) := by
    cases fraction with
    | none => exact List.forall_mem_nil _
    | some ds =>
      exact List.forall_mem_cons.2 ⟨by decide, isPlain_of_isDigits (hfraction ds rfl)⟩
  have hpowerText : IsPlain (powerText power) := by
    rcases power with - | ⟨mark, sign, ds⟩
    · exact List.forall_mem_nil _
    · obtain ⟨hmark, hsign, hds⟩ := hpower mark sign ds rfl
      refine List.forall_mem_cons.2 ⟨?_, isPlain_append.2 ⟨?_, isPlain_of_isDigits hds⟩⟩
      · rcases hmark with rfl | rfl <;> decide
      · rcases hsign with rfl | rfl | rfl <;> decide
  exact isPlain_append.2 ⟨isPlain_append.2 ⟨isPlain_append.2
    ⟨hnegative, isPlain_of_isDigits hwhole⟩, hfractionText⟩, hpowerText⟩

theorem isPlain_ofInt (n : Int) : IsPlain (Text.ofInt n) := by
  have hdigits := isPlain_of_isDigits (Numeral.isDigits_ofNat n.natAbs)
  unfold Text.ofInt
  split
  · exact List.forall_mem_cons.2 ⟨by decide, hdigits⟩
  · exact hdigits

theorem isPlain_writeDouble (x : Double) : IsPlain (writeDouble x) := by
  cases x with
  | nan => decide
  | infinity negative => cases negative <;> decide
  | finite negative m e =>
    refine isPlain_append.2 ⟨by cases negative <;> decide, ?_⟩
    split
    · decide
    · obtain ⟨n, hn, htext⟩ := Numeral.exists_spells_write Double.layout (Double.shortest m e)
      rw [← htext]
      exact hn.wellFormed.isPlain_text

/-! ## Strings -/

/-- In a string everything is passed over but a quotation mark and a backslash. -/
theorem passes_inside {t : Text} (h : ∀ c ∈ t, c ≠ 0x22 ∧ c ≠ 0x5C) (n : Nat) :
    Passes (inside n) t (inside n) := by
  induction t with
  | nil => exact .nil _
  | cons c t ih =>
    obtain ⟨⟨hquote, hbackslash⟩, ht⟩ := List.forall_mem_cons.1 h
    have hnext : (inside n).next c = inside n := by
      simp only [Nesting.next, if_neg hquote, if_neg hbackslash]
    refine .cons (fun h ↦ nomatch h.2) ?_
    rw [hnext]
    exact ih ht

/-- What stands behind a backslash is passed over. -/
theorem passes_escape (c : CodePoint) (n : Nat) : Passes (inside n) [0x5C, c] (inside n) :=
  .cons (fun h ↦ nomatch h.2) (.cons (fun h ↦ nomatch h.2) (.nil _))

theorem passes_unit (m n : Nat) : Passes (inside n) (Escaped.unit m) (inside n) := by
  have hdigits : ∀ c ∈ Text.hexDigits 4 m, c ≠ 0x22 ∧ c ≠ 0x5C := by
    intro c hc
    obtain ⟨d, hd, rfl⟩ := Text.exists_of_mem_hexDigits hc
    grind [Text.hexDigit]
  exact (passes_escape 0x75 n).append (passes_inside hdigits n)

theorem passes_writeCodePoint (c : CodePoint) (n : Nat) :
    Passes (inside n) (Escaped.writeCodePoint c) (inside n) := by
  unfold Escaped.writeCodePoint
  by_cases hquote : c = 0x22
  · rw [if_pos hquote]
    exact passes_escape 0x22 n
  by_cases hbackslash : c = 0x5C
  · rw [if_neg hquote, if_pos hbackslash]
    exact passes_escape 0x5C n
  rw [if_neg hquote, if_neg hbackslash]
  iterate 5
    split
    case isTrue => exact passes_escape _ n
  split
  case isTrue =>
    exact passes_inside (List.forall_mem_singleton.2 ⟨hquote, hbackslash⟩) n
  split
  case isTrue => exact passes_unit c n
  case isFalse => exact (passes_unit _ n).append (passes_unit _ n)

theorem passes_string (t : Text) (n : Nat) :
    Passes (outside n) (Escaped.write t) (outside n) := by
  have hopening : Passes (outside n) [0x22] (inside n) := .cons (fun h ↦ nomatch h.1) (.nil _)
  have hclosing : Passes (inside n) [0x22] (outside n) := .cons (fun h ↦ nomatch h.1) (.nil _)
  have hpieces : Passes (inside n) (t.flatMap Escaped.writeCodePoint) (inside n) :=
    .flatMap fun c _ ↦ passes_writeCodePoint c n
  exact (hopening.append hpieces).append hclosing

/-! ## Literals -/

theorem passes_of_writeAtom {a : Atom} {t : Text} (h : writeAtom a = .ok t) (n : Nat) :
    Passes (outside n) t (outside n) := by
  have hint : ∀ m, writeInt m = .ok t → IsPlain t := by
    intro m hm
    unfold writeInt Integer.write at hm
    split at hm
    case h_1 u hu =>
      split at hu
      · cases hu
      · cases hu
        cases hm
        exact isPlain_ofInt m
    case h_2 => cases hm
  cases a with
  | null | absent =>
    cases h
    exact IsPlain.passes (by decide) n
  | bool b => cases b <;> cases h <;> exact IsPlain.passes (by decide) n
  | int m | intMember m => exact (hint m h).passes n
  | double x | doubleMember x =>
    cases h
    exact (isPlain_writeDouble x).passes n
  | text u | textMember u =>
    cases h
    exact passes_string u n
  | bytes | constant | date | moment | enclosing | other => cases h

/-- Items in brackets are passed over, whatever separates them. -/
theorem passes_brackets {ts : List Text}
    (h : ∀ t ∈ ts, ∀ n, Passes (outside n) t (outside n)) (n : Nat) :
    Passes (outside n) (brackets ts) (outside n) := by
  have hopening : Passes (outside n) [0x5B] (outside (n + 1)) :=
    .cons (fun h ↦ nomatch h.1) (.nil _)
  have hclosing : Passes (outside (n + 1)) [0x5D] (outside n) :=
    .cons (fun h ↦ nomatch h.1) (.nil _)
  have hcomma : Passes (outside (n + 1)) ", " (outside (n + 1)) :=
    .cons (fun h ↦ nomatch h.2) (.cons (fun h ↦ nomatch h.1) (.nil _))
  have hitems : Passes (outside (n + 1)) (Text.join ", " ts) (outside (n + 1)) := by
    cases ts with
    | nil => exact .nil _
    | cons t ts =>
      obtain ⟨ht, hts⟩ := List.forall_mem_cons.1 h
      rw [Text.join_cons]
      exact (ht _).append (.flatMap fun u hu ↦ hcomma.append (hts u hu _))
  exact (hopening.append hitems).append hclosing

mutual
/-- A written literal is passed over as a whole. -/
theorem passes_of_write : ∀ {v : Value} {t : Text}, write v = .ok t → ∀ n,
    Passes (outside n) t (outside n)
  | .atom _, _, h, n => by
    rw [write] at h
    exact passes_of_writeAtom h n
  | .list xs, _, h, n | .tuple xs, _, h, n => by
    rw [write] at h
    obtain ⟨ts, hall, ⟨⟩⟩ := bind_eq_ok_iff.1 h
    exact passes_brackets (passes_of_writeAll hall) n
  | .set _, _, h, _ => nomatch h
  | .dict es, _, h, n | .mapping es, _, h, n => by
    rw [write] at h
    split at h
    case isTrue =>
      obtain ⟨ts, hall, ⟨⟩⟩ := bind_eq_ok_iff.1 h
      exact passes_brackets (passes_of_writeValues hall) n
    case isFalse =>
      obtain ⟨ts, hall, ⟨⟩⟩ := bind_eq_ok_iff.1 h
      exact passes_brackets (passes_of_writeEntries hall) n

theorem passes_of_writeAll : ∀ {xs : List Value} {ts : List Text}, writeAll xs = .ok ts →
    ∀ t ∈ ts, ∀ n, Passes (outside n) t (outside n)
  | [], _, h => by
    cases h
    exact List.forall_mem_nil _
  | _ :: _, _, h => by
    rw [writeAll] at h
    obtain ⟨t, ht, h⟩ := bind_eq_ok_iff.1 h
    obtain ⟨ts, hts, ⟨⟩⟩ := bind_eq_ok_iff.1 h
    exact List.forall_mem_cons.2 ⟨passes_of_write ht, passes_of_writeAll hts⟩

theorem passes_of_writeValues : ∀ {es : List (Value × Value)} {ts : List Text},
    writeValues es = .ok ts → ∀ t ∈ ts, ∀ n, Passes (outside n) t (outside n)
  | [], _, h => by
    cases h
    exact List.forall_mem_nil _
  | (_, _) :: _, _, h => by
    rw [writeValues] at h
    obtain ⟨t, ht, h⟩ := bind_eq_ok_iff.1 h
    obtain ⟨ts, hts, ⟨⟩⟩ := bind_eq_ok_iff.1 h
    exact List.forall_mem_cons.2 ⟨passes_of_write ht, passes_of_writeValues hts⟩

theorem passes_of_writeEntries : ∀ {es : List (Value × Value)} {ts : List Text},
    writeEntries es = .ok ts → ∀ t ∈ ts, ∀ n, Passes (outside n) t (outside n)
  | [], _, h => by
    cases h
    exact List.forall_mem_nil _
  | (_, _) :: _, _, h => by
    rw [writeEntries] at h
    obtain ⟨key, hkey, h⟩ := bind_eq_ok_iff.1 h
    obtain ⟨value, hvalue, h⟩ := bind_eq_ok_iff.1 h
    obtain ⟨ts, hts, ⟨⟩⟩ := bind_eq_ok_iff.1 h
    refine List.forall_mem_cons.2 ⟨?_, passes_of_writeEntries hts⟩
    intro n
    have harrow : IsPlain " => " := by decide
    exact ((passes_of_write hkey n).append (harrow.passes n)).append (passes_of_write hvalue n)
end

/-! ## Rows -/

/-- A text that can stand in a row: there is something of it, and it is passed over. -/
def IsItem (t : Text) : Prop := t ≠ [] ∧ Passes (outside 0) t (outside 0)

/-- What stands behind the first text of a row begins with a comma, if there is anything. -/
theorem head?_flatMap_comma (ts : List Text) {c : CodePoint}
    (h : (ts.flatMap (Text.ofString ", " ++ ·)).head? = some c) : c = 0x2C := by
  cases ts with
  | nil => cases h
  | cons t ts => exact (Option.some.inj h).symm

/-- What stands behind the first text of a row is made of no other texts. -/
theorem eq_of_flatMap_comma_eq {ts us : List Text} (hts : ∀ t ∈ ts, IsItem t)
    (hus : ∀ u ∈ us, IsItem u)
    (h : ts.flatMap (Text.ofString ", " ++ ·) = us.flatMap (Text.ofString ", " ++ ·)) :
    ts = us := by
  induction ts generalizing us with
  | nil =>
    cases us with
    | nil => rfl
    | cons u us => cases h
  | cons t ts ih =>
    cases us with
    | nil => cases h
    | cons u us =>
      rw [List.forall_mem_cons] at hts hus
      obtain ⟨ht, hts⟩ := hts
      obtain ⟨hu, hus⟩ := hus
      rw [List.flatMap_cons, List.flatMap_cons, List.append_assoc, List.append_assoc] at h
      have hrest := List.append_cancel_left h
      obtain rfl : t = u := by
        rw [← ht.2.untilComma_eq fun _ ↦ head?_flatMap_comma ts, hrest]
        exact hu.2.untilComma_eq fun _ ↦ head?_flatMap_comma us
      rw [ih hts hus (List.append_cancel_left hrest)]

/-- A row of texts with commas in between is a row of no other texts. -/
theorem eq_of_join_eq {ts us : List Text} (hts : ∀ t ∈ ts, IsItem t) (hus : ∀ u ∈ us, IsItem u)
    (h : Text.join ", " ts = Text.join ", " us) : ts = us := by
  cases ts with
  | nil =>
    cases us with
    | nil => rfl
    | cons u us =>
      rw [Text.join_cons] at h
      exact absurd (List.append_eq_nil_iff.1 h.symm).1 (hus u List.mem_cons_self).1
  | cons t ts =>
    cases us with
    | nil =>
      rw [Text.join_cons] at h
      exact absurd (List.append_eq_nil_iff.1 h).1 (hts t List.mem_cons_self).1
    | cons u us =>
      -- a comma in front of both rows makes each of their texts one that follows a comma
      refine eq_of_flatMap_comma_eq hts hus ?_
      rw [Text.join_cons, Text.join_cons] at h
      rw [List.flatMap_cons, List.flatMap_cons, List.append_assoc, h, List.append_assoc]

end ActorFacade.Literal
