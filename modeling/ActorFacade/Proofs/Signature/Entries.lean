import ActorFacade.Proofs.Literal.Delimiting
import ActorFacade.Signature
import ActorFacade.Text.Identifier

/-! # What a signature tells

Parameters without constants can be told from their signature: their names, which of them are
optional, and the literals of the defaults of these (`ofParameters_eq_iff`).  No default is mistaken
for another parameter, since its commas are in strings or between brackets.
-/

namespace ActorFacade

/-- No code point of an identifier ends a name in a signature. -/
theorem Text.notMem_of_isIdentifier {t : Text} (h : isIdentifier t = true) :
    ∀ c ∈ 0x20 :: Literal.marks, c ∉ t := by
  intro c hc hmem
  have hsigns : ∀ c ∈ 0x20 :: Literal.marks, isJoining c = false := by decide +kernel
  rw [isIdentifier, Bool.and_eq_true] at h
  have hjoining := List.all_eq_true.1 h.2 c hmem
  exact Bool.false_ne_true ((hsigns c hc).symm.trans hjoining)

namespace Signature

open Literal (IsItem IsPlain)

/-! ## Entries -/

/-- What stands behind a name. -/
def defaultClause : Option Text → Text
  | none => []
  | some t => " = " ++ t

/-- The text of a parameter with a name, and with a literal if it is optional. -/
def entry (name : Text) (literal : Option Text) : Text := 0x24 :: (name ++ defaultClause literal)

/-- A name without spaces stands before the first space. -/
theorem takeWhile_name {name : Text} (hname : 0x20 ∉ name) (literal : Option Text) :
    (name ++ defaultClause literal).takeWhile (· != 0x20) = name := by
  have hall : ∀ c ∈ name, (c != 0x20) = true := by
    intro c hc
    rw [bne_iff_ne]
    rintro rfl
    exact hname hc
  have hclause : (defaultClause literal).takeWhile (· != 0x20) = [] := by
    cases literal with
    | none => rfl
    | some t => rfl
  rw [List.takeWhile_append_of_pos hall, hclause, List.append_nil]

theorem defaultClause_injective : Function.Injective defaultClause := by
  intro l k h
  cases l with
  | none =>
    cases k with
    | none => rfl
    | some u => cases h
  | some t =>
    cases k with
    | none => cases h
    | some u => rw [List.append_cancel_left h]

/-- An entry tells the name and the literal. -/
theorem entry_inj {n m : Text} {l k : Option Text} (hn : 0x20 ∉ n) (hm : 0x20 ∉ m) :
    entry n l = entry m k ↔ n = m ∧ l = k := by
  constructor
  · intro h
    have htail : n ++ defaultClause l = m ++ defaultClause k := List.tail_eq_of_cons_eq h
    obtain rfl : n = m := by
      rw [← takeWhile_name hn l, htail, takeWhile_name hm k]
    exact ⟨rfl, defaultClause_injective (List.append_cancel_left htail)⟩
  · rintro ⟨rfl, rfl⟩
    rfl

/-- The entry of a plain name and a literal can stand in a row. -/
theorem isItem_entry {name : Text} {literal : Option Text} (hname : IsPlain name)
    (hliteral : ∀ t, literal = some t → ∃ v, Literal.write v = .ok t) :
    IsItem (entry name literal) := by
  have hdollar : IsPlain [0x24] := by decide
  have hequals : IsPlain " = " := by decide
  refine ⟨List.cons_ne_nil _ _, ((hdollar.passes 0).append (hname.passes 0)).append ?_⟩
  cases literal with
  | none => exact .nil _
  | some t =>
    obtain ⟨v, hv⟩ := hliteral t rfl
    exact (hequals.passes 0).append (Literal.passes_of_write hv 0)

/-! ## Parameters -/

/-- The literal of the default of a parameter that is optional. -/
def literal? (p : Parameter) : Option Text :=
  if p.optional then (Literal.write p.default).toOption else none

/-- A parameter with an identifier as its name that is written with its default if it is optional.
-/
structure IsExplicit (p : Parameter) : Prop where
  name : Text.isIdentifier p.name = true
  constant : p.optional = true → constant? p = none
  default : p.optional = true → ∃ t, Literal.write p.default = .ok t

/-- What a signature tells about two parameters is the same. -/
def Agree (p q : Parameter) : Prop :=
  p.name = q.name ∧ p.optional = q.optional ∧
    (p.optional = true → Literal.write p.default = Literal.write q.default)

namespace IsExplicit

variable {p q : Parameter}

theorem parameterText_eq (h : IsExplicit p) (declaringType : Text) :
    parameterText declaringType p = .ok (entry p.name (literal? p)) := by
  unfold parameterText literal? defaultText
  cases hoptional : p.optional with
  | false =>
    rw [if_neg Bool.false_ne_true, if_neg Bool.false_ne_true, entry, defaultClause,
      List.append_nil]
  | true =>
    obtain ⟨t, ht⟩ := h.default hoptional
    simp only [h.constant hoptional, ht, if_true, Except.toOption, entry, defaultClause,
      List.cons_append, List.append_assoc]

theorem isItem (h : IsExplicit p) : IsItem (entry p.name (literal? p)) := by
  have hname : IsPlain p.name := by
    intro c hc hmark
    exact Text.notMem_of_isIdentifier h.name c (List.mem_cons_of_mem _ hmark) hc
  refine isItem_entry hname fun t ht ↦ ?_
  rw [literal?, Option.ite_none_right_eq_some, toOption_eq_some_iff] at ht
  exact ⟨p.default, ht.2⟩

/-- Parameters have the same literal if both are required, or both are optional and their defaults
are written alike. -/
theorem literal?_eq_iff (hp : IsExplicit p) (hq : IsExplicit q) :
    literal? p = literal? q ↔ p.optional = q.optional ∧
      (p.optional = true → Literal.write p.default = Literal.write q.default) := by
  unfold literal?
  cases hpo : p.optional with
  | false =>
    cases hqo : q.optional with
    | false => simp
    | true =>
      obtain ⟨u, hu⟩ := hq.default hqo
      simp [hu, Except.toOption]
  | true =>
    obtain ⟨t, ht⟩ := hp.default hpo
    cases hqo : q.optional with
    | false => simp [ht, Except.toOption]
    | true =>
      obtain ⟨u, hu⟩ := hq.default hqo
      simp [ht, hu, Except.toOption]

theorem entry_eq_iff (hp : IsExplicit p) (hq : IsExplicit q) :
    entry p.name (literal? p) = entry q.name (literal? q) ↔ Agree p q := by
  have hspace : ∀ {r}, IsExplicit r → 0x20 ∉ r.name := fun hr ↦
    Text.notMem_of_isIdentifier hr.name 0x20 List.mem_cons_self
  rw [entry_inj (hspace hp) (hspace hq), literal?_eq_iff hp hq, Agree]

end IsExplicit

/-! ## Lists of parameters -/

theorem ofParameters_eq_join {ps : List Parameter} (h : ∀ p ∈ ps, IsExplicit p)
    (declaringType : Text) : ofParameters ps declaringType =
      .ok (Text.join ", " (ps.map fun p ↦ entry p.name (literal? p))) := by
  have hentries : ps.mapM (parameterText declaringType) =
      .ok (ps.map fun p ↦ entry p.name (literal? p)) :=
    mapM_eq_ok_map fun p hp ↦ (h p hp).parameterText_eq declaringType
  rw [ofParameters, hentries]
  rfl

theorem map_entry_eq_iff {ps qs : List Parameter} (hps : ∀ p ∈ ps, IsExplicit p)
    (hqs : ∀ q ∈ qs, IsExplicit q) :
    (ps.map fun p ↦ entry p.name (literal? p)) = (qs.map fun q ↦ entry q.name (literal? q)) ↔
      List.Forall₂ Agree ps qs := by
  induction ps generalizing qs with
  | nil => rw [List.map_nil, List.forall₂_nil_left_iff, eq_comm, List.map_eq_nil_iff]
  | cons p ps ih =>
    cases qs with
    | nil => simp
    | cons q qs =>
      rw [List.forall_mem_cons] at hps hqs
      obtain ⟨hp, hps⟩ := hps
      obtain ⟨hq, hqs⟩ := hqs
      rw [List.map_cons, List.map_cons, List.cons_eq_cons, List.forall₂_cons, ih hps hqs,
        hp.entry_eq_iff hq]

/-- Parameters without constants have a signature, and it is that of other ones if and only if the
names, which of them are optional, and the literals of their defaults are the same one by one. -/
theorem ofParameters_eq_iff {ps qs : List Parameter} (hps : ∀ p ∈ ps, IsExplicit p)
    (hqs : ∀ q ∈ qs, IsExplicit q) (a b : Text) :
    ∃ t u, ofParameters ps a = .ok t ∧ ofParameters qs b = .ok u ∧
      (t = u ↔ List.Forall₂ Agree ps qs) := by
  refine ⟨_, _, ofParameters_eq_join hps a, ofParameters_eq_join hqs b, ?_⟩
  rw [← map_entry_eq_iff hps hqs]
  constructor
  · refine Literal.eq_of_join_eq ?_ ?_
    · intro t ht
      obtain ⟨p, hp, rfl⟩ := List.mem_map.1 ht
      exact (hps p hp).isItem
    · intro u hu
      obtain ⟨q, hq, rfl⟩ := List.mem_map.1 hu
      exact (hqs q hq).isItem
  · exact congrArg _

/-- A default that looks like the end of a string and one more parameter is one default. -/
theorem ofParameters_of_imitation : ∃ t u,
    ofParameters [⟨"x", true, .text "1\", $y = \"2", none⟩] [] = .ok t ∧
      ofParameters [⟨"x", true, .text "1", none⟩, ⟨"y", true, .text "2", none⟩] [] = .ok u ∧
        t ≠ u := by
  have hone : ∀ p ∈ [Parameter.mk "x" true (.text "1\", $y = \"2") none], IsExplicit p := by
    rw [List.forall_mem_singleton]
    exact ⟨by decide +kernel, fun _ ↦ rfl, fun _ ↦ ⟨_, rfl⟩⟩
  have htwo : ∀ q ∈ [Parameter.mk "x" true (.text "1") none, ⟨"y", true, .text "2", none⟩],
      IsExplicit q := by
    rw [List.forall_mem_cons, List.forall_mem_singleton]
    exact ⟨⟨by decide +kernel, fun _ ↦ rfl, fun _ ↦ ⟨_, rfl⟩⟩,
      by decide +kernel, fun _ ↦ rfl, fun _ ↦ ⟨_, rfl⟩⟩
  obtain ⟨t, u, ht, hu, hiff⟩ := ofParameters_eq_iff hone htwo [] []
  refine ⟨t, u, ht, hu, ?_⟩
  intro htu
  cases (hiff.1 htu).length_eq

end Signature

end ActorFacade
