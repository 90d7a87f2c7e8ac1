import ActorFacade.Proofs.Literal.Completeness
import ActorFacade.Proofs.Literal.Refusal
import ActorFacade.Proofs.Text.Join

/-! # Written literals

Writing a writable value yields a literal of its normal value (`denotes_write`), and every literal
is read as what it denotes, so reading what was written gives the normal value back.  The normal
value has the same literal.
-/

namespace ActorFacade

/-- Atoms whose literals, where they have one, denote their normal forms.  Integers may be of any
length here. -/
def Atom.IsLegible : Atom → Prop
  | .null | .absent | .bool _ | .int _ | .intMember _ => True
  | .double x | .doubleMember x => x.IsCanonical
  | .text t | .textMember t => Literal.IsJoined t
  | _ => False

theorem Atom.IsWritable.isLegible {a : Atom} (h : a.IsWritable) : a.IsLegible := by
  cases a with
  | null | absent | bool | int | intMember => trivial
  | double | doubleMember => exact h
  | text | textMember => exact Literal.isJoined_of_isScalar h
  | bytes | constant | date | moment | enclosing | other => exact h.elim

namespace Literal

open Value

/-! ## Entries of arrays -/

/-- Entries with new keys are collected in order. -/
theorem foldl_add_keyed {es before : Entries} (h : HasDistinctKeys (before ++ es)) (n : Int) :
    ((es.map fun e ↦ Item.keyed e.1 e.2).foldl Item.add (before, n)).1 = before ++ es := by
  induction es generalizing before n with
  | nil => simp
  | cons e es ih =>
    have hnew : ∀ f ∈ before, f.1.sameKey e.1 = false :=
      fun f hf ↦ (List.pairwise_append.1 h).2.2 f hf e List.mem_cons_self
    rw [List.map_cons, List.foldl_cons]
    simp only [Item.add, Item.value]
    rw [Entries.insert_of_new hnew, ih (by simpa using h), List.append_assoc, List.singleton_append]

theorem collect_keyed {es : Entries} (h : HasDistinctKeys es) :
    collect (es.map fun e ↦ .keyed e.1 e.2) = es := by
  have h : HasDistinctKeys ([] ++ es) := h
  exact foldl_add_keyed h 0

theorem arrayValue_keyed {es : Entries} (h : HasDistinctKeys es)
    (hseq : Entries.isSequence es = false) :
    arrayValue (es.map fun e ↦ .keyed e.1 e.2) = .dict es := by
  cases es with
  | nil => cases hseq
  | cons e es =>
    unfold arrayValue
    rw [collect_keyed h, if_pos (by simp [Item.isKeyed]), if_neg (by simp [hseq])]

theorem arrayValue_unkeyed (xs : List Value) : arrayValue (xs.map .unkeyed) = .list xs := by
  have hvalue : Item.value ∘ Item.unkeyed = id := rfl
  have hkeyed : (xs.map Item.unkeyed).any Item.isKeyed = false := by simp [Item.isKeyed]
  rw [arrayValue, hkeyed, List.map_map, hvalue, List.map_id]
  rfl

/-! ## Brackets -/

theorem Denotes.blanks {b t : Text} {v : Value} (hb : IsBlanks b) (h : Denotes t v) :
    Denotes (b ++ t) v := by
  have happend : ∀ {c : Text}, IsBlanks c → IsBlanks (b ++ c) := by
    intro c hc
    simp only [IsBlanks, Text.isAllBlank, List.all_append, Bool.and_eq_true]
    exact ⟨hb, hc⟩
  cases h with
  | scalar hc ht =>
    rw [← List.append_assoc]
    exact .scalar (happend hc) ht
  | empty hc hd =>
    simpa [List.append_assoc] using Denotes.empty (happend hc) hd
  | array hc ht hd =>
    simpa [List.append_assoc] using Denotes.array (happend hc) ht hd

theorem DenotesItem.blanks {b t : Text} {item : Item} (hb : IsBlanks b) (h : DenotesItem t item) :
    DenotesItem (b ++ t) item := by
  cases h with
  | unkeyed h => exact .unkeyed (h.blanks hb)
  | keyed hk hc hv =>
    rw [← List.append_assoc, ← List.append_assoc]
    exact .keyed (hk.blanks hb) hc hv

theorem denotesItems_flatMap {t : Text} {items : List Item} (h : DenotesItems t items)
    {us : List Text} {more : List Item} (hus : List.Forall₂ DenotesItem us more) :
    DenotesItems (t ++ us.flatMap (Text.ofString ", " ++ ·)) (items ++ more) := by
  induction hus generalizing t items with
  | nil => simpa using h
  | cons hu _ ih =>
    have hblank : IsBlanks [0x20] := rfl
    have hmore := ih (.more h (b := []) rfl (hu.blanks hblank))
    simpa [Text.ofString, List.append_assoc] using hmore

/-- Entries in brackets are an array. -/
theorem denotes_brackets {ts : List Text} {items : List Item}
    (h : List.Forall₂ DenotesItem ts items) : Denotes (brackets ts) (arrayValue items) := by
  cases h with
  | nil => exact .empty (b := []) (c := []) rfl rfl
  | cons ht hts =>
    have hitems := denotesItems_flatMap (.one ht) hts
    rw [brackets, Text.join_cons]
    simpa using Denotes.array (b := []) (c := []) rfl hitems (.blanks rfl)

/-! ## Writing -/

/-- Of legible atoms only integers with too many digits have no literal. -/
theorem refusal?_of_isLegible {a : Atom} (h : a.IsLegible) :
    refusal? (.atom a) = if isTooLong (.atom a) then some (.limit .write) else none := by
  have hsupported : (Value.atom a).unsupported? = none := by
    cases a with
    | bytes | constant | date | moment | enclosing | other => exact h.elim
    | _ => rfl
  have hleaf : Value.atom a ∈ (Value.atom a).leaves := List.mem_singleton_self _
  rw [refusal?_of_mem_leaves _ hleaf, hsupported, Option.map_none]

theorem isScalar_writeDouble {x : Double} (h : x.IsCanonical) :
    IsScalar (writeDouble x) (.double x) := by
  cases x with
  | nan => exact .word rfl
  | infinity negative => cases negative <;> exact .word rfl
  | finite negative m e => exact .number (isNumber_finiteText h)

theorem isScalar_of_writeInt {n : Int} {t : Text} (hwrite : writeInt n = .ok t) :
    IsScalar t (.int n) := by
  unfold writeInt Integer.write at hwrite
  cases hn : Integer.isTooLong n with
  | true =>
    rw [hn, if_pos rfl] at hwrite
    cases hwrite
  | false =>
    rw [hn, if_neg Bool.false_ne_true] at hwrite
    cases hwrite
    exact .number (isNumber_ofInt hn)

/-- The literal of a legible atom denotes its normal form. -/
theorem isScalar_of_writeAtom {a : Atom} (h : a.IsLegible) {t : Text}
    (hwrite : writeAtom a = .ok t) : IsScalar t (.atom a.normal) := by
  cases a with
  | null | absent =>
    cases hwrite
    exact .word rfl
  | bool b =>
    cases b <;> cases hwrite <;> exact .word rfl
  | int n | intMember n => exact isScalar_of_writeInt hwrite
  | double x | doubleMember x =>
    cases hwrite
    exact isScalar_writeDouble h
  | text u | textMember u =>
    cases hwrite
    exact .string (isString_write h)
  | bytes | constant | date | moment | enclosing | other => exact h.elim

theorem denotes_entry {t u : Text} {k : Atom} {v : Value} (hk : Denotes t (.atom k))
    (hv : Denotes u v) : DenotesItem (t ++ Text.ofString " => " ++ u) (.keyed (.atom k) v) := by
  have hblank : IsBlanks [0x20] := rfl
  simpa [Text.ofString, List.append_assoc] using DenotesItem.keyed hk hblank (hv.blanks hblank)

mutual
/-- The literal of a value made of legible atoms denotes its normal value. -/
theorem denotes_of_write : ∀ {v : Value}, v.IsMadeOf Atom.IsLegible → ∀ {t : Text},
    write v = .ok t → Denotes t v.normal
  | .atom a, h, t, hwrite => by
    rw [write] at hwrite
    exact .scalar (b := []) rfl (isScalar_of_writeAtom h hwrite)
  | .list xs, h, t, hwrite | .tuple xs, h, t, hwrite => by
    rw [write] at hwrite
    obtain ⟨ts, hall, ⟨⟩⟩ := bind_eq_ok_iff.1 hwrite
    rw [normal, ← arrayValue_unkeyed]
    exact denotes_brackets (denotes_of_writeAll h hall)
  | .set _, h, _, _ => h.elim
  | .dict es, ⟨hkeys, hes⟩, t, hwrite | .mapping es, ⟨hkeys, hes⟩, t, hwrite => by
    rw [write] at hwrite
    cases hseq : Entries.isSequence es with
    | true =>
      rw [hseq, if_pos rfl] at hwrite
      obtain ⟨ts, hall, ⟨⟩⟩ := bind_eq_ok_iff.1 hwrite
      rw [normal, if_pos hseq, ← arrayValue_unkeyed]
      exact denotes_brackets (denotes_of_writeValues hes hall)
    | false =>
      rw [hseq, if_neg Bool.false_ne_true] at hwrite
      obtain ⟨ts, hall, ⟨⟩⟩ := bind_eq_ok_iff.1 hwrite
      have hplain : ∀ e ∈ es, e.1.IsPlainKey := fun e he ↦ (entriesAreMadeOf_iff.1 hes e he).1
      rw [normal, if_neg (by simp [hseq]), ← arrayValue_keyed (hkeys.normalEntries hplain)
        (by rw [isSequence_normalEntries, hseq])]
      exact denotes_brackets (denotes_of_writeEntries hes hall)

/-- Values are written as entries without keys. -/
theorem denotes_of_writeAll : ∀ {xs : List Value},
    AreMadeOf Atom.IsLegible xs → ∀ {ts : List Text}, writeAll xs = .ok ts →
      List.Forall₂ DenotesItem ts ((normalAll xs).map .unkeyed)
  | [], _, _, hwrite => by
    cases hwrite
    exact .nil
  | x :: xs, ⟨hx, hxs⟩, ts, hwrite => by
    rw [writeAll] at hwrite
    obtain ⟨t, ht, hwrite⟩ := bind_eq_ok_iff.1 hwrite
    obtain ⟨ts, hts, ⟨⟩⟩ := bind_eq_ok_iff.1 hwrite
    exact .cons (.unkeyed (denotes_of_write hx ht)) (denotes_of_writeAll hxs hts)

/-- The values of entries are written as entries without keys. -/
theorem denotes_of_writeValues : ∀ {es : List (Value × Value)},
    EntriesAreMadeOf Atom.IsLegible es → ∀ {ts : List Text}, writeValues es = .ok ts →
      List.Forall₂ DenotesItem ts ((normalValues es).map .unkeyed)
  | [], _, _, hwrite => by
    cases hwrite
    exact .nil
  | (_, v) :: es, ⟨_, _, hv, hes⟩, ts, hwrite => by
    rw [writeValues] at hwrite
    obtain ⟨t, ht, hwrite⟩ := bind_eq_ok_iff.1 hwrite
    obtain ⟨ts, hts, ⟨⟩⟩ := bind_eq_ok_iff.1 hwrite
    exact .cons (.unkeyed (denotes_of_write hv ht)) (denotes_of_writeValues hes hts)

/-- Entries are written with their keys. -/
theorem denotes_of_writeEntries : ∀ {es : List (Value × Value)},
    EntriesAreMadeOf Atom.IsLegible es → ∀ {ts : List Text}, writeEntries es = .ok ts →
      List.Forall₂ DenotesItem ts ((normalEntries es).map fun e ↦ .keyed e.1 e.2)
  | [], _, _, hwrite => by
    cases hwrite
    exact .nil
  | (k, v) :: es, ⟨hplain, hk, hv, hes⟩, ts, hwrite => by
    rw [writeEntries] at hwrite
    obtain ⟨t, ht, hwrite⟩ := bind_eq_ok_iff.1 hwrite
    obtain ⟨u, hu, hwrite⟩ := bind_eq_ok_iff.1 hwrite
    obtain ⟨ts, hts, ⟨⟩⟩ := bind_eq_ok_iff.1 hwrite
    obtain ⟨a, rfl, -⟩ := hplain.exists_atom
    have hkey := denotes_of_write hk ht
    rw [normal] at hkey
    exact .cons (denotes_entry hkey (denotes_of_write hv hu)) (denotes_of_writeEntries hes hts)
end

/-- A writable value is written as a literal of its normal value. -/
theorem denotes_write {v : Value} (h : v.IsWritable) :
    ∃ t, write v = .ok t ∧ Denotes t v.normal := by
  have hsome : ∃ t, write v = .ok t := by
    refine exists_write_of_leaves fun x hx ↦ ?_
    obtain ⟨a, rfl, ha⟩ := exists_atom_of_mem_leaves (h.isMadeOf id) x hx
    have hshort : isTooLong (.atom a) = false := by
      cases a with
      | int | intMember => rwa [isTooLong_of_index? rfl]
      | null | absent | bool | double | doubleMember | text | textMember => rfl
      | bytes | constant | date | moment | enclosing | other => exact ha.elim
    rw [refusal?_of_isLegible (Atom.IsWritable.isLegible ha), hshort, if_neg Bool.false_ne_true]
  obtain ⟨t, ht⟩ := hsome
  exact ⟨t, ht, denotes_of_write (h.isMadeOf Atom.IsWritable.isLegible) ht⟩

/-! ## Writing normal values -/

theorem writeAtom_normal (a : Atom) : writeAtom a.normal = writeAtom a := by cases a <;> rfl

mutual
/-- A value and its normal value have the same literal. -/
theorem write_normal : ∀ v : Value, write v.normal = write v
  | .atom a => by rw [normal, write, write, writeAtom_normal]
  | .list xs | .tuple xs => by rw [normal, write, write, writeAll_normalAll]
  | .set _ => rfl
  | .dict es | .mapping es => by
    cases hseq : Entries.isSequence es with
    | true =>
      rw [normal, if_pos hseq, write, write, if_pos hseq, writeAll_normalValues]
    | false =>
      have hnormal : Entries.isSequence (normalEntries es) = false := by
        rw [isSequence_normalEntries, hseq]
      rw [normal, if_neg (by simp [hseq]), write, write, if_neg (by simp [hnormal]),
        if_neg (by simp [hseq]), writeEntries_normalEntries]

theorem writeAll_normalAll : ∀ xs : List Value, writeAll (normalAll xs) = writeAll xs
  | [] => rfl
  | x :: xs => by rw [normalAll, writeAll, writeAll, write_normal x, writeAll_normalAll xs]

theorem writeAll_normalValues : ∀ es : List (Value × Value),
    writeAll (normalValues es) = writeValues es
  | [] => rfl
  | (_, v) :: es => by
    rw [normalValues, writeAll, writeValues, write_normal v, writeAll_normalValues es]

theorem writeEntries_normalEntries : ∀ es : List (Value × Value),
    writeEntries (normalEntries es) = writeEntries es
  | [] => rfl
  | (k, v) :: es => by
    rw [normalEntries, writeEntries, writeEntries, write_normal k, write_normal v,
      writeEntries_normalEntries es]
end

/-! ## Round trip -/

/-- Every writable value has a literal, which is read as the normal value of the value and is the
literal of the normal value too. -/
theorem read_write {v : Value} (h : v.IsWritable) :
    ∃ t, write v = .ok t ∧ read t = .ok v.normal ∧ write v.normal = .ok t := by
  obtain ⟨t, hwrite, ht⟩ := denotes_write h
  refine ⟨t, hwrite, ?_, ?_⟩
  · exact read_of_isLiteral ⟨t, [], (List.append_nil t).symm, ht, rfl⟩
  · rw [write_normal, hwrite]

/-- Keys of several kinds, a mapping that is a sequence, a tuple, members of enumerations, a halved
code point and numbers that are none. -/
theorem read_write_nested :
    let v : Value := .dict [(.bool true, .tuple [.atom (.intMember (-7)), .atom .absent,
        .double (.finite false 7205759403792794 (-56))]),
      (.double .nan, .text [0x1F600, 0x22, 0x0A]),
      (.text (Text.ofString "k"),
        .mapping [(.int 0, .double (.infinity true)), (.int 1, .dict [])])]
    v.IsWritable ∧ ∃ t, write v = .ok t ∧
      read t = .ok (.dict [(.bool true, .list [.int (-7), .null,
          .double (.finite false 7205759403792794 (-56))]),
        (.double .nan, .text [0x1F600, 0x22, 0x0A]),
        (.text (Text.ofString "k"), .list [.double (.infinity true), .list []])]) ∧
      write v.normal = .ok t := by
  intro v
  have hkeys : HasDistinctKeys [(.int 0, .double (.infinity true)), (.int 1, .dict [])] := by
    unfold HasDistinctKeys
    decide
  have hshort : ∀ n ∈ ([-7, 0, 1] : List Int), Integer.isTooLong n = false := by decide +kernel
  have hdouble : (Double.finite false 7205759403792794 (-56)).IsCanonical := by
    refine ⟨?_, ?_, ?_, ?_⟩ <;> decide
  have h : v.IsWritable := by
    refine ⟨by unfold HasDistinctKeys; decide, ?_⟩
    refine ⟨trivial, trivial, ⟨hshort (-7) (by decide), trivial, hdouble, trivial⟩, ?_⟩
    refine ⟨trivial, trivial, (by decide : Text.IsScalar _), ?_⟩
    refine ⟨trivial, (by decide : Text.IsScalar _), ⟨hkeys, ?_⟩, trivial⟩
    refine ⟨trivial, hshort 0 (by decide), trivial, ?_⟩
    exact ⟨trivial, hshort 1 (by decide), ⟨.nil, trivial⟩, trivial⟩
  exact ⟨h, read_write h⟩

end Literal

end ActorFacade
