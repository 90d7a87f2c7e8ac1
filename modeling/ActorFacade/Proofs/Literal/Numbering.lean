import ActorFacade.Proofs.Literal.Stability

/-! # Numbering of entries

An entry without a key gets the index behind the greatest integer key so far.  This index is new
among the integers (`lt_indexBehind`), but a truth value or a binary number may be worth as much:
those do not move the index, and the entry takes the place of theirs.
-/

namespace ActorFacade.Literal

/-! ## Keys -/

/-- The index of an entry without a key behind some entries. -/
def indexBehind (before : List Item) : Int := (before.foldl Item.add ([], 0)).2

/-- The key of an entry behind some entries. -/
def Item.keyBehind (before : List Item) : Item → Value
  | .keyed k _ => k
  | .unkeyed _ => .int (indexBehind before)

/-- The keys of some entries behind others. -/
def keysFrom (before : List Item) : List Item → List Value
  | [] => []
  | item :: items => item.keyBehind before :: keysFrom (before ++ [item]) items

/-- The keys of the entries of an array. -/
def keysOf (items : List Item) : List Value := keysFrom [] items

theorem foldl_add_concat (before : List Item) (item : Item) :
    (before ++ [item]).foldl Item.add ([], 0) =
      ((collect before).insert (item.keyBehind before) item.value,
        Item.nextIndex (indexBehind before) (item.keyBehind before)) := by
  rw [List.foldl_append, List.foldl_cons, List.foldl_nil]
  cases item <;> rfl

theorem collect_concat (before : List Item) (item : Item) :
    collect (before ++ [item]) =
      (collect before).insert (item.keyBehind before) item.value := by
  rw [collect, foldl_add_concat]

theorem indexBehind_concat (before : List Item) (item : Item) :
    indexBehind (before ++ [item]) =
      Item.nextIndex (indexBehind before) (item.keyBehind before) := by
  rw [indexBehind, foldl_add_concat]

theorem keysFrom_append (before items more : List Item) :
    keysFrom before (items ++ more) = keysFrom before items ++ keysFrom (before ++ items) more := by
  induction items generalizing before with
  | nil => simp [keysFrom]
  | cons item items ih => simp [keysFrom, ih]

theorem keysOf_concat (before : List Item) (item : Item) :
    keysOf (before ++ [item]) = keysOf before ++ [item.keyBehind before] := by
  simp [keysOf, keysFrom_append, keysFrom]

/-! ## Indexes -/

/-- A key leaves the index where it is or moves it behind itself. -/
theorem nextIndex_bounds (n : Int) (k : Value) :
    n ≤ Item.nextIndex n k ∧ ∀ m, k.index? = some m → m < Item.nextIndex n k := by
  unfold Item.nextIndex
  cases k.index? with
  | none => simp
  | some m =>
    dsimp only
    split <;> simp <;> omega

/-- Every integer among the keys lies before the index. -/
theorem lt_indexBehind {before : List Item} {k : Value} (hk : k ∈ keysOf before) {n : Int}
    (hn : k.index? = some n) : n < indexBehind before := by
  induction before using List.reverseRecOn with
  | nil => cases hk
  | append_singleton before item ih =>
    rw [keysOf_concat] at hk
    rw [indexBehind_concat]
    obtain ⟨hle, hlt⟩ := nextIndex_bounds (indexBehind before) (item.keyBehind before)
    rcases List.mem_append.1 hk with hk | hk
    · exact (ih hk).trans_le hle
    · obtain rfl := List.mem_singleton.1 hk
      exact hlt n hn

/-- The index never moves back. -/
theorem indexBehind_le_append (before after : List Item) :
    indexBehind before ≤ indexBehind (before ++ after) := by
  induction after using List.reverseRecOn with
  | nil => simp
  | append_singleton after item ih =>
    rw [← List.append_assoc, indexBehind_concat]
    exact ih.trans (nextIndex_bounds _ _).1

/-! ## Keys of literals -/

/-- An entry whose key, if it has one, is of a kind that keys in literals have. -/
def Item.HasProperKey : Item → Prop
  | .keyed k _ => k.IsKey
  | .unkeyed _ => True

theorem Item.HasProperKey.keyBehind {item : Item} (h : item.HasProperKey) (before : List Item) :
    (item.keyBehind before).IsKey := by
  cases item with
  | keyed k v => exact h
  | unkeyed v => exact ⟨.int _, rfl, trivial⟩

theorem isKey_of_isScalar {t : Text} {k : Atom} (h : IsScalar t (.atom k)) : k.IsKey := by
  generalize hv : Value.atom k = v at h
  cases h with
  | string => cases hv; trivial
  | number h =>
    obtain ⟨n, -, -, hvalue⟩ := h
    rw [← hv, Numeral.value.eq_def] at hvalue
    split at hvalue
    · obtain ⟨m, -, hm⟩ := map_eq_ok_iff.1 hvalue
      cases hm
      trivial
    · cases hvalue
      exact Double.isCanonical_ofDecimal ..
  | word h =>
    rcases cases_of_isWord h with rfl | ⟨b, rfl⟩ | rfl | ⟨negative, rfl⟩ <;> cases hv <;> trivial

/-- Only scalars are atoms. -/
theorem isKey_of_denotes {t : Text} {k : Atom} (h : Denotes t (.atom k)) : k.IsKey := by
  generalize hv : Value.atom k = v at h
  cases h with
  | scalar _ ht => exact isKey_of_isScalar (hv ▸ ht)
  | empty => cases hv
  | array =>
    unfold arrayValue at hv
    dsimp only at hv
    split_ifs at hv

theorem hasProperKey_of_denotesItem {t : Text} {item : Item} (h : DenotesItem t item) :
    item.HasProperKey := by
  cases h with
  | unkeyed => trivial
  | keyed hk => exact ⟨_, rfl, isKey_of_denotes hk⟩

theorem hasProperKey_of_denotesItems {t : Text} {items : List Item} :
    DenotesItems t items → ∀ item ∈ items, item.HasProperKey
  | .one h => List.forall_mem_singleton.2 (hasProperKey_of_denotesItem h)
  | .more ht _ hu => List.forall_mem_append.2
    ⟨hasProperKey_of_denotesItems ht,
      List.forall_mem_singleton.2 (hasProperKey_of_denotesItem hu)⟩

section

variable {items before after : List Item} {k l : Value} {v w : Value}

/-! ## What is collected -/

theorem isKey_of_mem_collect (h : ∀ item ∈ items, item.HasProperKey) :
    ∀ e ∈ collect items, e.1.IsKey := by
  induction items using List.reverseRecOn with
  | nil => exact List.forall_mem_nil _
  | append_singleton before item ih =>
    obtain ⟨hbefore, hitem⟩ := List.forall_mem_append.1 h
    have hkey := (List.forall_mem_singleton.1 hitem).keyBehind before
    rw [collect_concat]
    intro e he
    rcases Entries.mem_insert he with he | ⟨-, hnew | ⟨f, hf, hsame⟩⟩
    · exact ih hbefore e he
    · rwa [hnew]
    · exact hsame ▸ ih hbefore f hf

/-- The keys of the collected entries are those of all entries. -/
theorem any_sameKey_collect (h : ∀ item ∈ items, item.HasProperKey) (hk : k.IsKey) :
    (collect items).any (·.1.sameKey k) = (keysOf items).any (·.sameKey k) := by
  induction items using List.reverseRecOn with
  | nil => rfl
  | append_singleton before item ih =>
    obtain ⟨hbefore, hitem⟩ := List.forall_mem_append.1 h
    have hkey := (List.forall_mem_singleton.1 hitem).keyBehind before
    rw [collect_concat, keysOf_concat, List.any_append, ← ih hbefore, ← Entries.isSome_find?,
      Entries.find?_insert (isKey_of_mem_collect hbefore) hkey hk, ← Entries.isSome_find?]
    cases hsame : (item.keyBehind before).sameKey k <;> simp [hsame]

/-! ## Entries without keys -/

theorem sameKey_int_of_index? {k : Value} {m : Int} (hm : k.index? = some m) (n : Int) :
    k.sameKey (.int n) = (m == n) := by
  cases k with
  | atom a =>
    cases a with
    | int | intMember =>
      cases hm
      rfl
    | _ => cases hm
  | _ => cases hm

theorem mem_keysOf_of_keyed (h : .keyed k w ∈ items) : k ∈ keysOf items := by
  induction items using List.reverseRecOn with
  | nil => cases h
  | append_singleton before item ih =>
    rw [keysOf_concat]
    rcases List.mem_append.1 h with h | h
    · exact List.mem_append_left _ (ih h)
    · obtain rfl := List.mem_singleton.1 h
      exact List.mem_append_right _ (List.mem_singleton_self k)

/-- A key is one that an entry has, or an index. -/
theorem keyed_or_index_of_mem_keysOf (h : k ∈ keysOf items) :
    (∃ w, .keyed k w ∈ items) ∨ ∃ n, k = .int n := by
  induction items using List.reverseRecOn with
  | nil => cases h
  | append_singleton before item ih =>
    rw [keysOf_concat] at h
    rcases List.mem_append.1 h with h | h
    · exact (ih h).imp_left fun ⟨w, hw⟩ ↦ ⟨w, List.mem_append_left _ hw⟩
    · obtain rfl := List.mem_singleton.1 h
      cases item with
      | keyed k w => exact .inl ⟨w, List.mem_append_right _ (List.mem_singleton_self _)⟩
      | unkeyed v => exact .inr ⟨_, rfl⟩

/-- An index is the key of an entry before it only where an entry has a truth value or a binary
number as its key that is worth as much. -/
theorem exists_sameKey_index_iff (h : ∀ item ∈ before, item.HasProperKey) :
    (∃ k ∈ keysOf before, k.sameKey (.int (indexBehind before)) = true) ↔
      ∃ k w, .keyed k w ∈ before ∧ ((∃ b, k = .bool b) ∨ ∃ x, k = .double x) ∧
        k.sameKey (.int (indexBehind before)) = true := by
  constructor
  · rintro ⟨k, hk, hsame⟩
    have hindex : ∀ m, k.index? ≠ some m := by
      intro m hm
      have hlt := lt_indexBehind hk hm
      rw [sameKey_int_of_index? hm, beq_iff_eq] at hsame
      omega
    rcases keyed_or_index_of_mem_keysOf hk with ⟨w, hw⟩ | ⟨n, rfl⟩
    · refine ⟨k, w, hw, ?_, hsame⟩
      obtain ⟨a, rfl, ha⟩ := h _ hw
      cases a with
      | bool b => exact .inl ⟨b, rfl⟩
      | double x => exact .inr ⟨x, rfl⟩
      | int n => exact absurd rfl (hindex n)
      | null | text => cases hsame
      | _ => exact ha.elim
    · exact absurd rfl (hindex n)
  · rintro ⟨k, w, hw, -, hsame⟩
    exact ⟨k, mem_keysOf_of_keyed hw, hsame⟩

/-- What stands without a key is collected under its index, unless an entry behind it has the index
as its key. -/
theorem find?_index (h : ∀ item ∈ before ++ .unkeyed v :: after, item.HasProperKey)
    (hafter : ∀ k w, .keyed k w ∈ after → k.sameKey (.int (indexBehind before)) = false) :
    (collect (before ++ .unkeyed v :: after)).find? (.int (indexBehind before)) = some v := by
  have hn : (Value.int (indexBehind before)).IsKey := ⟨_, rfl, trivial⟩
  rw [← List.singleton_append, ← List.append_assoc] at h ⊢
  induction after using List.reverseRecOn with
  | nil =>
    rw [List.append_nil] at h ⊢
    have hbefore := (List.forall_mem_append.1 h).1
    rw [collect_concat, Item.keyBehind, Entries.find?_insert (isKey_of_mem_collect hbefore) hn hn]
    exact if_pos hn.sameKey_self
  | append_singleton after item ih =>
    rw [← List.append_assoc] at h ⊢
    obtain ⟨hbefore, hitem⟩ := List.forall_mem_append.1 h
    have hother : (item.keyBehind (before ++ [.unkeyed v] ++ after)).sameKey
        (.int (indexBehind before)) = false := by
      cases item with
      | keyed k w => exact hafter k w (by simp)
      | unkeyed w =>
        have hlt : indexBehind before < indexBehind (before ++ [.unkeyed v] ++ after) :=
          ((nextIndex_bounds _ _).2 _ rfl).trans_le
            (indexBehind_concat before (.unkeyed v) ▸ indexBehind_le_append _ after)
        rw [Item.keyBehind, sameKey_int_of_index? rfl]
        exact beq_false_of_ne hlt.ne'
    rw [collect_concat, Entries.find?_insert (isKey_of_mem_collect hbefore)
      ((List.forall_mem_singleton.1 hitem).keyBehind _) hn, hother, if_neg Bool.false_ne_true]
    exact ih hbefore fun k w hw ↦ hafter k w (List.mem_append_left _ hw)

/-! ## The number of entries -/

/-- Whether the key of an entry is the key of one of some entries before it. -/
def repeatsKey (before : List Item) (item : Item) : Bool :=
  (keysOf before).any (·.sameKey (item.keyBehind before))

/-- How many of some entries `p` holds for, each with the entries before it. -/
def countBehind (p : List Item → Item → Bool) (before : List Item) : List Item → Nat
  | [] => 0
  | item :: items => (if p before item then 1 else 0) + countBehind p (before ++ [item]) items

/-- Of all entries those are missing that repeat a key, with a key of their own or without one. -/
theorem length_collect (before : List Item) (h : ∀ item ∈ before ++ items, item.HasProperKey) :
    (collect (before ++ items)).length +
        countBehind (fun b i ↦ i.isKeyed && repeatsKey b i) before items +
        countBehind (fun b i ↦ !i.isKeyed && repeatsKey b i) before items =
      (collect before).length + items.length := by
  induction items generalizing before with
  | nil => simp [countBehind]
  | cons item items ih =>
    have hsplit : before ++ item :: items = before ++ [item] ++ items := by simp
    rw [hsplit] at h ⊢
    have hlength := ih _ h
    have hbefore := (List.forall_mem_append.1 (List.forall_mem_append.1 h).1).1
    have hkey : (item.keyBehind before).IsKey := (h item (by simp)).keyBehind before
    rw [collect_concat before item, Entries.length_insert, any_sameKey_collect hbefore hkey,
      ← repeatsKey] at hlength
    rw [countBehind, countBehind, List.length_cons]
    cases item.isKeyed <;> cases hrepeats : repeatsKey before item <;>
      simp only [hrepeats, Bool.and_true, Bool.and_false, Bool.not_true, Bool.not_false, if_true,
        if_false, Bool.false_eq_true] at hlength ⊢ <;> omega

end

/-! ## Arrays -/

/-- An array with keys is read as its collected entries.  The index of an entry without a key is the
key of an entry before it if and only if it is worth as much as a truth value or a binary number
that an entry before it has as its key.  What stands without a key is kept until an entry behind it
has its index as its key.  All entries are kept but those that repeat a key. -/
theorem read_keyed {a t c b : Text} {items : List Item} (ha : IsBlanks a) (hb : IsBlanks b)
    (ht : DenotesItems t items) (hc : IsClosing c) (hkeyed : items.any Item.isKeyed = true) :
    read (a ++ 0x5B :: t ++ c ++ [0x5D] ++ b) = .ok (if Entries.isSequence (collect items)
      then .list ((collect items).map (·.2)) else .dict (collect items)) ∧
    (∀ before v after, items = before ++ .unkeyed v :: after →
      ((∃ k ∈ keysOf before, k.sameKey (.int (indexBehind before)) = true) ↔
        ∃ k w, .keyed k w ∈ before ∧ ((∃ b, k = .bool b) ∨ ∃ x, k = .double x) ∧
          k.sameKey (.int (indexBehind before)) = true) ∧
      ((∀ k w, .keyed k w ∈ after → k.sameKey (.int (indexBehind before)) = false) →
        (collect items).find? (.int (indexBehind before)) = some v)) ∧
    (collect items).length + countBehind (fun b i ↦ i.isKeyed && repeatsKey b i) [] items +
      countBehind (fun b i ↦ !i.isKeyed && repeatsKey b i) [] items = items.length := by
  have hproper := hasProperKey_of_denotesItems ht
  refine ⟨?_, ?_, ?_⟩
  · have hdenotes := Denotes.array ha ht hc
    rw [arrayValue, if_pos hkeyed] at hdenotes
    exact read_of_isLiteral ⟨_, b, rfl, hdenotes, hb⟩
  · rintro before v after rfl
    exact ⟨exists_sameKey_index_iff (List.forall_mem_append.1 hproper).1, find?_index hproper⟩
  · simpa [collect] using length_collect [] hproper

/-- A key that moves the index, an entry behind it and the same key in another kind. -/
theorem read_keyed_again :
    let t := Text.ofString "1 => null, NaN, TRUE => false"
    let items : List Item := [.keyed (.int 1) .null, .unkeyed (.double .nan),
      .keyed (.bool true) (.bool false)]
    IsBlanks [0x20] ∧ IsBlanks [] ∧ DenotesItems t items ∧ IsClosing [] ∧
      items.any Item.isKeyed = true ∧
      read ([0x20] ++ 0x5B :: t ++ [] ++ [0x5D] ++ []) =
        .ok (.dict [(.int 1, .bool false), (.int 2, .double .nan)]) ∧
      (collect items).find? (.int 2) = some (.double .nan) ∧
      (collect items).length + 1 + 0 = 3 := by
  intro t items
  have hword : ∀ {u : Text} {v : Value}, wordValue? u = some v → Denotes u v :=
    fun h ↦ .scalar (b := []) rfl (.word h)
  have hone : Denotes (Text.ofString "1") (.int 1) := by
    have hnumber : IsNumber (Text.ofInt 1) (.int 1) := isNumber_ofInt (by decide +kernel)
    have htext : Text.ofInt 1 = Text.ofString "1" := by decide
    rw [htext] at hnumber
    exact .scalar (b := []) rfl (.number hnumber)
  have hfirst := denotes_entry hone (hword (u := Text.ofString "null") rfl)
  have hsecond := DenotesItem.unkeyed (hword (u := Text.ofString "NaN") rfl)
  have hthird := denotes_entry (hword (u := Text.ofString "TRUE") rfl)
    (hword (u := Text.ofString "false") rfl)
  have hblank : IsBlanks [0x20] := rfl
  have ht : DenotesItems t items :=
    .more (b := []) (.more (b := []) (.one hfirst) rfl (hsecond.blanks hblank)) rfl
      (hthird.blanks hblank)
  have hkeyed : items.any Item.isKeyed = true := rfl
  obtain ⟨hread, hentries, hlength⟩ := read_keyed hblank (b := []) rfl ht
    (.blanks (b := []) rfl) hkeyed
  have hcollect : collect items = [(.int 1, .bool false), (.int 2, .double .nan)] := by
    decide +kernel
  have hsequence : Entries.isSequence (collect items) = false := by decide +kernel
  have hrepeats : countBehind (fun b i ↦ i.isKeyed && repeatsKey b i) [] items = 1 ∧
      countBehind (fun b i ↦ !i.isKeyed && repeatsKey b i) [] items = 0 := by decide +kernel
  rw [hsequence, if_neg Bool.false_ne_true, hcollect] at hread
  rw [hrepeats.1, hrepeats.2] at hlength
  refine ⟨hblank, rfl, ht, .blanks rfl, hkeyed, hread, ?_, hlength⟩
  refine (hentries [.keyed (.int 1) .null] _ [.keyed (.bool true) (.bool false)] rfl).2 ?_
  intro k w h
  obtain ⟨rfl, -⟩ := Item.keyed.inj (List.mem_singleton.1 h)
  decide +kernel

/-- The index of the second entry is worth as much as the key of the first one. -/
theorem read_keyed_false :
    let t := Text.ofString "[false => \"a\", \"b\"]"
    read t = .ok (.dict [(.bool false, .text (Text.ofString "b"))]) ∧
      (Value.bool false).sameKey (.int 0) = true := by
  exact ⟨by decide +kernel, by decide⟩

end ActorFacade.Literal
