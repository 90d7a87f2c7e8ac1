import ActorFacade.Proofs.Literal.Derivation
import ActorFacade.Proofs.Literal.RoundTrip
import ActorFacade.Proofs.Text.Utf8
import ActorFacade.Proofs.Value.Key

/-! # Literals of what was read

What a text of scalar values is read as is normal and made of atoms that literals denote
(`isStable_of_read`), so writing it yields a text that is read as the same value again: the
literal of what was read stands for all texts of this value.  Only integers keep a value that was
read from having a literal.  No integer in a text is too long, but the index after a key can be.
-/

namespace ActorFacade

/-- Values that are their own normal values and made of legible atoms. -/
structure Value.IsStable (v : Value) : Prop where
  isMadeOf : v.IsMadeOf Atom.IsLegible
  normal_eq : v.normal = v

namespace Value

theorem isStable_atom {a : Atom} (h : a.IsLegible) (hnormal : a.normal = a) :
    (atom a).IsStable :=
  ⟨h, by rw [normal, hnormal]⟩

theorem IsStable.isPlainKey {a : Atom} (h : (atom a).IsStable) : a.IsPlainKey := by
  obtain ⟨hlegible, hnormal⟩ := h
  cases a with
  | absent => cases hnormal
  | bytes | constant | date | moment | enclosing | other => exact hlegible.elim
  | null | bool | int | double | text | intMember | doubleMember | textMember => trivial

theorem isStable_list {xs : List Value} (h : ∀ x ∈ xs, x.IsStable) : (list xs).IsStable where
  isMadeOf := areMadeOf_iff.2 fun x hx ↦ (h x hx).isMadeOf
  normal_eq := by rw [normal, normalAll_eq_map, List.map_congr_left fun x hx ↦ (h x hx).normal_eq,
    List.map_id']

/-- A key and a value as literals denote them. -/
structure IsStableEntry (e : Value × Value) : Prop where
  exists_atom : ∃ a, e.1 = .atom a
  key : e.1.IsStable
  value : e.2.IsStable

theorem isStable_dict {es : Entries} (hkeys : HasDistinctKeys es)
    (hseq : Entries.isSequence es = false) (h : ∀ e ∈ es, IsStableEntry e) :
    (dict es).IsStable where
  isMadeOf := by
    refine ⟨hkeys, entriesAreMadeOf_iff.2 fun e he ↦ ⟨?_, (h e he).key.isMadeOf,
      (h e he).value.isMadeOf⟩⟩
    obtain ⟨⟨a, hatom⟩, hkey, -⟩ := h e he
    rw [hatom] at hkey ⊢
    exact hkey.isPlainKey
  normal_eq := by
    have hentry : ∀ e ∈ es, (normal e.1, normal e.2) = e :=
      fun e he ↦ Prod.ext (h e he).key.normal_eq (h e he).value.normal_eq
    rw [normal, if_neg (by simp [hseq]), normalEntries_eq_map, List.map_congr_left hentry,
      List.map_id']

end Value

namespace Literal

open Value (HasDistinctKeys IsStableEntry)

/-! ## Arrays -/

/-- An entry of an array as literals denote it. -/
def Item.IsStable : Item → Prop
  | .unkeyed v => v.IsStable
  | .keyed k v => IsStableEntry (k, v)

theorem Item.IsStable.value {item : Item} (h : item.IsStable) : item.value.IsStable := by
  cases item with
  | unkeyed v => exact h
  | keyed k v => exact IsStableEntry.value h

/-- Stored entries with distinct keys. -/
structure AreStable (es : Entries) : Prop where
  keys : HasDistinctKeys es
  entries : ∀ e ∈ es, IsStableEntry e

theorem AreStable.insert {es : Entries} (h : AreStable es) {k v : Value}
    (he : IsStableEntry (k, v)) : AreStable (es.insert k v) where
  keys := Entries.hasDistinctKeys_insert h.keys k v
  entries := by
    intro f hf
    rcases Entries.mem_insert hf with hf | ⟨rfl, rfl | ⟨e, he', hkey⟩⟩
    · exact h.entries f hf
    · exact he
    · obtain ⟨hatom, hstable, -⟩ := h.entries e he'
      exact ⟨hkey ▸ hatom, hkey ▸ hstable, he.value⟩

/-- Adding an entry keeps what is collected stable: an index is an integer. -/
theorem AreStable.add {es : Entries} (h : AreStable es) {item : Item} (hitem : item.IsStable)
    (n : Int) : AreStable (item.add (es, n)).1 := by
  cases item with
  | unkeyed v => exact h.insert ⟨⟨.int n, rfl⟩, Value.isStable_atom trivial rfl, hitem⟩
  | keyed k v => exact h.insert hitem

theorem areStable_collect {items : List Item} (h : ∀ item ∈ items, item.IsStable) :
    AreStable (collect items) := by
  suffices ∀ {es : Entries}, AreStable es → ∀ n, AreStable (items.foldl Item.add (es, n)).1 from
    this ⟨.nil, List.forall_mem_nil _⟩ 0
  induction items with
  | nil => exact fun hes _ ↦ hes
  | cons item items ih =>
    intro es hes n
    obtain ⟨hitem, hitems⟩ := List.forall_mem_cons.1 h
    exact ih hitems (hes.add hitem n) _

theorem isStable_arrayValue {items : List Item} (h : ∀ item ∈ items, item.IsStable) :
    (arrayValue items).IsStable := by
  unfold arrayValue
  split
  case isTrue =>
    have hcollect := areStable_collect h
    dsimp only
    split
    case isTrue =>
      refine Value.isStable_list fun x hx ↦ ?_
      obtain ⟨e, he, rfl⟩ := List.mem_map.1 hx
      exact (hcollect.entries e he).value
    case isFalse hseq =>
      exact Value.isStable_dict hcollect.keys (Bool.eq_false_iff.2 hseq) hcollect.entries
  case isFalse =>
    refine Value.isStable_list fun x hx ↦ ?_
    obtain ⟨item, hitem, rfl⟩ := List.mem_map.1 hx
    exact (h item hitem).value

/-! ## Trees -/

theorem isScalar_append {s t : Text} : (s ++ t).IsScalar ↔ s.IsScalar ∧ t.IsScalar :=
  List.forall_mem_append

theorem isStable_of_isWord {t : Text} {v : Value} (h : IsWord t v) : v.IsStable := by
  rcases cases_of_isWord h with rfl | ⟨b, rfl⟩ | rfl | ⟨negative, rfl⟩ <;>
    exact Value.isStable_atom trivial rfl

theorem Numeral.isStable_amount (n : Numeral) : n.amount.IsStable := by
  unfold amount
  split
  · exact Value.isStable_atom trivial rfl
  · exact Value.isStable_atom (Double.isCanonical_ofDecimal ..) rfl

/-- A scalar of scalar values has a stable value. -/
theorem Scalar.isStable {s : Scalar} (h : s.text.IsScalar) : s.value.IsStable := by
  cases s with
  | string ps hps =>
    have hpieces : Text.IsScalar (ps.flatMap Piece.text) :=
      fun c hc ↦ h c (List.mem_cons_of_mem _ (List.mem_append_left _ hc))
    exact Value.isStable_atom (isJoined_of_values? (Option.some_get hps).symm hpieces) rfl
  | number n _ => exact n.isStable_amount
  | word t ht => exact isStable_of_isWord (Option.some_get ht).symm

mutual
/-- A tree of scalar values has a stable value. -/
theorem Tree.isStable : ∀ t : Tree, t.parts.text.IsScalar → t.value.IsStable
  | .scalar _ s, h => by
    rw [Tree.parts, Parts.text_cons, isScalar_append, isScalar_append] at h
    exact Scalar.isStable h.2.1
  | .empty _ _, _ => Value.isStable_list (List.forall_mem_nil _)
  | .array _ first rest _, h => by
    simp only [Tree.parts, Parts.text_cons, Parts.text_append, isScalar_append] at h
    obtain ⟨-, -, hfirst, hrest, -⟩ := h
    exact isStable_arrayValue (List.forall_mem_cons.2 ⟨first.isStable hfirst, rest.isStable hrest⟩)

theorem Entry.isStable : ∀ e : Entry, e.parts.text.IsScalar → e.item.IsStable
  | .unkeyed t, h => t.isStable h
  | .keyed _ key _ value, h => by
    simp only [Entry.parts, Parts.text_cons, isScalar_append] at h
    obtain ⟨-, hkey, -, -, hvalue⟩ := h
    exact ⟨key.exists_atom, Scalar.isStable hkey, value.isStable hvalue⟩

theorem Rest.isStable : ∀ r : Rest, r.parts.text.IsScalar → ∀ item ∈ r.items, item.IsStable
  | .nil, _ => List.forall_mem_nil _
  | .more _ e rest, h => by
    simp only [Rest.parts, Parts.text_cons, Parts.text_append, isScalar_append] at h
    obtain ⟨-, -, he, hrest⟩ := h
    exact List.forall_mem_cons.2 ⟨e.isStable he, rest.isStable hrest⟩
end

/-- What a text of scalar values is read as is stable. -/
theorem isStable_of_read {t : Text} (ht : t.IsScalar) {v : Value} (h : read t = .ok v) :
    v.IsStable := by
  obtain ⟨d, rfl, rfl⟩ := exists_derivation h
  exact d.tree.isStable (List.forall_mem_append.1 ht).1

/-! ## Writing what was read -/

/-- What a text of scalar values is read as has a literal, which is read as the same value, if no
integer in it has too many digits, and has none otherwise. -/
theorem write_of_read {t : Text} (ht : t.IsScalar) {v : Value} (h : read t = .ok v) :
    ((∀ x ∈ v.leaves, x.isTooLong = false) → ∃ s, write v = .ok s ∧ read s = .ok v) ∧
      ((∃ x ∈ v.leaves, x.isTooLong = true) → write v = .error (.limit .write)) := by
  obtain ⟨hmade, hnormal⟩ := isStable_of_read ht h
  have hrefusal : ∀ x ∈ v.leaves,
      refusal? x = if x.isTooLong then some (.limit .write) else none := by
    intro x hx
    obtain ⟨a, rfl, ha⟩ := Value.exists_atom_of_mem_leaves hmade x hx
    exact refusal?_of_isLegible ha
  constructor
  · intro hshort
    have hsome : ∃ s, write v = .ok s := by
      refine exists_write_of_leaves fun x hx ↦ ?_
      rw [hrefusal x hx, hshort x hx, if_neg Bool.false_ne_true]
    obtain ⟨s, hs⟩ := hsome
    have hdenotes := denotes_of_write hmade hs
    rw [hnormal] at hdenotes
    exact ⟨s, hs, read_of_isLiteral ⟨s, [], (List.append_nil s).symm, hdenotes, rfl⟩⟩
  · rintro ⟨x, hx, hlong⟩
    rw [← failure?_eq_some_iff, failure?_write]
    cases hfirst : v.leaves.findSome? refusal? with
    | none =>
      have hnone := List.findSome?_eq_none_iff.1 hfirst x hx
      simp [hrefusal x hx, hlong] at hnone
    | some e =>
      obtain ⟨y, hy, hrefused⟩ := List.exists_of_findSome?_eq_some hfirst
      rw [hrefusal y hy] at hrefused
      split at hrefused
      · exact hrefused.symm
      · cases hrefused

/-- Equal keys, half of a pair, a digit of another script and a number that is none. -/
theorem write_of_read_mixed :
    let t := Text.ofString "[ TRUE => 1, 1.0 => [ ], \"\\uD800\", " ++
      0x663 :: Text.ofString " => nAn, null ,]"
    let v := Value.dict [(.bool true, .list []), (.int 0, .text [0xD800]),
      (.int 3, .double .nan), (.int 4, .null)]
    t.IsScalar ∧ read t = .ok v ∧ (∀ x ∈ v.leaves, x.isTooLong = false) ∧
      ∃ s, write v = .ok s ∧ read s = .ok v := by
  intro t v
  have ht : t.IsScalar := by decide
  have h : read t = .ok v := by decide +kernel
  have hshort : ∀ x ∈ v.leaves, x.isTooLong = false := by decide +kernel
  exact ⟨ht, h, hshort, (write_of_read ht h).1 hshort⟩

theorem isScalar_ofInt (n : Int) : (Text.ofInt n).IsScalar := by
  have hdigits : (Text.ofNat n.natAbs).IsScalar := by
    refine Utf8.isScalar_of_ascii fun c hc ↦ ?_
    have := Text.isAsciiDigit_of_mem_ofNat hc
    grind [Text.isAsciiDigit]
  unfold Text.ofInt
  split
  · exact List.forall_mem_cons.2 ⟨by decide, hdigits⟩
  · exact hdigits

/-- The index after the greatest key with 4300 digits has one digit more. -/
theorem write_of_read_nines :
    let t := brackets [Text.ofInt (10 ^ 4300 - 1) ++ Text.ofString " => " ++ Text.ofInt 1,
      Text.ofInt 2]
    let v := Value.dict [(.int (10 ^ 4300 - 1), .int 1), (.int (10 ^ 4300), .int 2)]
    t.IsScalar ∧ read t = .ok v ∧ write v = .error (.limit .write) := by
  intro t v
  have hdenotes : ∀ {n : Int}, Integer.isTooLong n = false → Denotes (Text.ofInt n) (.int n) :=
    fun hn ↦ .scalar (b := []) rfl (.number (isNumber_ofInt hn))
  have hkeyed := denotes_entry (hdenotes (n := 10 ^ 4300 - 1) (by decide +kernel))
    (hdenotes (n := 1) (by decide +kernel))
  have hunkeyed := DenotesItem.unkeyed (hdenotes (n := 2) (by decide +kernel))
  have hvalue : arrayValue [.keyed (.int (10 ^ 4300 - 1)) (.int 1), .unkeyed (.int 2)] = v := by
    decide +kernel
  have ht : Denotes t v := hvalue ▸ denotes_brackets (.cons hkeyed (.cons hunkeyed .nil))
  have hscalar : t.IsScalar := by
    have hmarks : Text.IsScalar [0x5B] ∧ Text.IsScalar [0x5D] := by decide
    have harrow : (Text.ofString " => ").IsScalar := by decide
    have hcomma : (Text.ofString ", ").IsScalar := by decide
    have hjoined : t = [0x5B] ++ (Text.ofInt (10 ^ 4300 - 1) ++ Text.ofString " => " ++
        Text.ofInt 1 ++ (Text.ofString ", " ++ Text.ofInt 2) ++ [0x5D]) := by
      simp only [t, brackets, Text.join_cons, List.flatMap_cons, List.flatMap_nil,
        List.append_nil, List.cons_append, List.nil_append]
    rw [hjoined]
    simp only [isScalar_append, isScalar_ofInt, hmarks, harrow, hcomma, and_self]
  exact ⟨hscalar, read_of_isLiteral ⟨t, [], (List.append_nil t).symm, ht, rfl⟩, by decide +kernel⟩

end Literal

end ActorFacade
