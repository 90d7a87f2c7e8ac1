import ActorFacade.Proofs.Template.Substitution

/-! # Filling templates

Filling replaces the placeholders of one name after the other, also within the values that are there
already.  In a template whose texts begin and end with code points of no placeholder (`AreWalled`) a
value never grows together with what is around it, so filling is substitution of `settled` values:
each of them has the placeholders of the later names replaced (`fillWith_eq_substitute`).
-/

namespace ActorFacade.Template

/-! ## Settled values -/

/-- Values with the placeholders of the names behind them replaced, one after the other. -/
def settled : List (Text × Text) → List (Text × Text)
  | [] => []
  | (name, value) :: rest => (name, fill ⟨value, rest⟩) :: settled rest

/-- No value has a placeholder of a name behind it. -/
def AreFinal : List (Text × Text) → Prop
  | [] => True
  | (_, value) :: rest =>
    (∀ nv ∈ rest, Text.occursIn (placeholder nv.1) value = false) ∧ AreFinal rest

@[simp] theorem fill_nil (t : Text) : fill ⟨t, []⟩ = t := rfl

theorem fill_cons (t name value : Text) (rest : List (Text × Text)) :
    fill ⟨t, (name, value) :: rest⟩ = fill ⟨t.replaceAll (placeholder name) value, rest⟩ := rfl

theorem map_fst_settled (values : List (Text × Text)) :
    (settled values).map (·.1) = values.map (·.1) := by
  induction values with
  | nil => rfl
  | cons nv rest ih => rw [settled, List.map_cons, List.map_cons, ih]

/-- A text without placeholders of some names stays as it is. -/
theorem fill_eq_self {t : Text} {values : List (Text × Text)}
    (h : ∀ nv ∈ values, Text.occursIn (placeholder nv.1) t = false) : fill ⟨t, values⟩ = t := by
  induction values with
  | nil => rfl
  | cons nv rest ih =>
    obtain ⟨hnv, hrest⟩ := List.forall_mem_cons.1 h
    rw [fill_cons, Text.replaceAll_eq_self (Text.occursIn_eq_false_iff.1 hnv), ih hrest]

/-- Values without placeholders of the names behind them are settled. -/
theorem settled_eq_self {values : List (Text × Text)} (h : AreFinal values) :
    settled values = values := by
  induction values with
  | nil => rfl
  | cons nv rest ih =>
    obtain ⟨hnv, hrest⟩ := h
    rw [settled, fill_eq_self hnv, ih hrest]

/-! ## Walls -/

/-- Whether a code point stands in no placeholder of some names. -/
def isWall (names : List Text) (c : CodePoint) : Bool :=
  names.all fun name ↦ !(placeholder name).contains c

/-- A text between placeholders begins with a code point of none and, before a placeholder, ends
with one. -/
def IsWalled (names : List Text) (isBefore : Bool) (t : Text) : Prop :=
  t.head?.any (isWall names) = true ∧ (isBefore → t.getLast?.any (isWall names) = true)

/-- Segments whose texts are walled. -/
def AreWalled (names : List Text) : List Segment → Prop
  | [] => True
  | [.text t] => IsWalled names false t
  | .text t :: .placeholder _ :: rest => IsWalled names true t ∧ AreWalled names rest
  | _ => False

instance decidableIsWalled (names : List Text) (isBefore : Bool) (t : Text) :
    Decidable (IsWalled names isBefore t) :=
  inferInstanceAs (Decidable (_ ∧ _))

instance decidableAreWalled (names : List Text) : ∀ segments, Decidable (AreWalled names segments)
  | [] => .isTrue trivial
  | [.text t] => decidableIsWalled names false t
  | .text t :: .placeholder _ :: rest =>
    have := decidableAreWalled names rest
    inferInstanceAs (Decidable (IsWalled names true t ∧ AreWalled names rest))
  | .placeholder _ :: _ => .isFalse id
  | .text _ :: .text _ :: _ => .isFalse id

variable {names : List Text} {name : Text}

theorem notMem_of_isWall {c : CodePoint} (h : isWall names c = true) (hname : name ∈ names) :
    c ∉ placeholder name := by
  have hnot := List.all_eq_true.1 h name hname
  simpa using hnot

theorem IsWalled.ne_nil {isBefore : Bool} {t : Text} (h : IsWalled names isBefore t) : t ≠ [] := by
  rintro rfl
  cases h.1

theorem IsWalled.notMem_head {isBefore : Bool} {t : Text} (h : IsWalled names isBefore t)
    (hname : name ∈ names) : ∀ c, t.head? = some c → c ∉ placeholder name := by
  intro c hc
  refine notMem_of_isWall ?_ hname
  simpa [hc] using h.1

theorem IsWalled.replaceAll_append {t : Text} (h : IsWalled names true t) (hname : name ∈ names)
    (value rest : Text) : Text.replaceAll (t ++ rest) (placeholder name) value =
      Text.replaceAll t (placeholder name) value ++
        Text.replaceAll rest (placeholder name) value := by
  obtain ⟨s, c, rfl⟩ := (List.eq_nil_or_concat t).resolve_left h.ne_nil
  have hc : c ∉ placeholder name := notMem_of_isWall (by simpa using h.2 rfl) hname
  rw [List.concat_eq_append]
  exact Text.replaceAll_concat_append (placeholder_ne_nil name) hc s rest

/-- What follows a placeholder begins with a code point that belongs to none. -/
theorem AreWalled.notMem_head {segments : List Segment} (h : AreWalled names segments)
    (hname : name ∈ names) (values : List (Text × Text)) :
    ∀ c, (filledOf values segments).head? = some c → c ∉ placeholder name := by
  match segments, h with
  | [], _ => simp [filledOf]
  | [.text t], h =>
    have ht : IsWalled names false t := h
    simpa [filledOf, Segment.filled] using ht.notMem_head hname
  | .text t :: .placeholder n :: rest, h =>
    have ht : IsWalled names true t := h.1
    obtain ⟨c, s, rfl⟩ := List.exists_cons_of_ne_nil ht.ne_nil
    exact ht.notMem_head hname

/-! ## One more value -/

variable {values : List (Text × Text)} {value : Text}

/-- Values with the placeholder of one more name replaced, and the value of this name. -/
def placed (values : List (Text × Text)) (name value : Text) : List (Text × Text) :=
  values.map (fun nv ↦ (nv.1, Text.replaceAll nv.2 (placeholder name) value)) ++ [(name, value)]

/-- A sound text has no placeholders. -/
theorem replaceAll_text {isBefore : Bool} {t : Text} (h : IsSoundText isBefore t) :
    Text.replaceAll t (placeholder name) value = t :=
  Text.replaceAll_eq_self fun hwithin ↦
    h.not_infix ((opening_prefix_placeholder name).isInfix.trans hwithin)

/-- The placeholder of another name stays. -/
theorem replaceAll_placeholder_of_ne {other : Text} (hname : IsBraceFree name)
    (hother : IsBraceFree other) (hne : name ≠ other) :
    Text.replaceAll (placeholder other) (placeholder name) value = placeholder other := by
  refine Text.replaceAll_eq_self ?_
  rw [placeholder_eq other, List.infix_cons_iff, not_or]
  constructor
  · intro hlead
    exact hne (eq_of_prefix_placeholder hname hother (t := []) (by simpa [placeholder_eq other]))
  · intro hwithin
    exact not_opening_infix_tail hother
      ((opening_prefix_placeholder name).isInfix.trans hwithin)

theorem replaceAll_placeholder_self :
    Text.replaceAll (placeholder name) (placeholder name) value = value := by
  have h : Text.replaceAll (placeholder name ++ []) (placeholder name) value = _ :=
    Text.replaceAll_of_prefix (placeholder_ne_nil name) []
  rwa [List.append_nil, Text.replaceAll_nil, List.append_nil] at h

/-- Replacing a placeholder in what stands in the place of a placeholder. -/
theorem replaceAll_filled (hname : IsBraceFree name) {n : Text} (hn : IsBraceFree n) :
    Text.replaceAll (Segment.filled values (.placeholder n)) (placeholder name) value =
      Segment.filled (placed values name value) (.placeholder n) := by
  have hfind : (placed values name value).find? (fun nv ↦ nv.1 == n) =
      ((values.find? fun nv ↦ nv.1 == n).map fun nv ↦
        (nv.1, Text.replaceAll nv.2 (placeholder name) value)).or
          (if name == n then some (name, value) else none) := by
    -- placing keeps the names, by which values are found
    have hnames : ((fun nv : Text × Text ↦ nv.1 == n) ∘ fun nv : Text × Text ↦
        (nv.1, Text.replaceAll nv.2 (placeholder name) value)) = fun nv ↦ nv.1 == n := rfl
    rw [placed, List.find?_append, List.find?_map, hnames]
    cases hn : name == n <;> simp [hn]
  simp only [Segment.filled, hfind]
  cases hold : values.find? fun nv ↦ nv.1 == n with
  | some nv => rfl
  | none =>
    by_cases he : name = n
    · subst he
      simpa using replaceAll_placeholder_self
    · simpa [he] using replaceAll_placeholder_of_ne hname hn he

/-- Replacing a placeholder in a template that is filled as far as it has values. -/
theorem replaceAll_filledOf (hname : IsBraceFree name) (hmem : name ∈ names) :
    ∀ {segments : List Segment}, AreSound segments → AreWalled names segments →
      Text.replaceAll (filledOf values segments) (placeholder name) value =
        filledOf (placed values name value) segments
  | [], _, _ => rfl
  | [.text t], hsound, _ => by
    have ht : IsSoundText false t := hsound
    simpa [filledOf, Segment.filled] using replaceAll_text ht
  | .text t :: .placeholder n :: rest, ⟨ht, hn, hrest⟩, ⟨hwall, hwalls⟩ => by
    have hfilled : ∀ values, filledOf values (.text t :: .placeholder n :: rest) =
        t ++ (Segment.filled values (.placeholder n) ++ filledOf values rest) := fun _ ↦ rfl
    rw [hfilled, hfilled, hwall.replaceAll_append hmem, replaceAll_text ht,
      Text.replaceAll_append (placeholder_ne_nil name) (hwalls.notMem_head hmem values),
      replaceAll_filled hname hn, replaceAll_filledOf hname hmem hrest hwalls]
  | .placeholder _ :: _, hsound, _ => hsound.elim
  | .text _ :: .text _ :: _, hsound, _ => hsound.elim

/-! ## All values -/

/-- Filling a template on replaces the placeholders in the values that are there and adds settled
values. -/
theorem fill_filledOf {segments : List Segment} (hsound : AreSound segments)
    (hwalled : AreWalled names segments) {rest : List (Text × Text)}
    (hbrace : ∀ nv ∈ rest, IsBraceFree nv.1) (hmem : ∀ nv ∈ rest, nv.1 ∈ names) :
    fill ⟨filledOf values segments, rest⟩ =
      filledOf (values.map (fun nv ↦ (nv.1, fill ⟨nv.2, rest⟩)) ++ settled rest) segments := by
  induction rest generalizing values with
  | nil => simp [settled]
  | cons nv rest ih =>
    obtain ⟨name, value⟩ := nv
    obtain ⟨hname, hbrace⟩ := List.forall_mem_cons.1 hbrace
    obtain ⟨hin, hmem⟩ := List.forall_mem_cons.1 hmem
    rw [fill_cons, replaceAll_filledOf hname hin hsound hwalled, ih hbrace hmem]
    simp [placed, settled, fill_cons, Function.comp_def]

theorem setValue_of_new (h : name ∉ values.map (·.1)) :
    setValue name value values = values ++ [(name, value)] := by
  induction values with
  | nil => rfl
  | cons nv values ih =>
    rw [List.map_cons, List.mem_cons, not_or] at h
    rw [setValue, if_neg (Ne.symm h.1), ih h.2, List.cons_append]

/-- Values of different names are placed in order. -/
theorem fillWith_eq_fill {t : Text} (hnodup : (values.map (·.1)).Nodup) :
    fillWith t values = fill ⟨t, values⟩ := by
  suffices ∀ (rest before : List (Text × Text)), ((before ++ rest).map (·.1)).Nodup →
      rest.foldl (fun t nv ↦ t.place nv.1 nv.2) (⟨t, before⟩ : Template) = ⟨t, before ++ rest⟩ by
    rw [fillWith, this values [] hnodup, List.nil_append]
  intro rest
  induction rest with
  | nil => simp
  | cons nv rest ih =>
    intro before hnodup
    have hnew : nv.1 ∉ before.map (·.1) := by
      rw [List.map_append, List.nodup_append] at hnodup
      exact fun h ↦ hnodup.2.2 _ h _ List.mem_cons_self rfl
    rw [List.foldl_cons, place, setValue_of_new hnew, ih _ (by simpa using hnodup)]
    simp

/-- Segments in which values of some names can be placed one after the other. -/
structure IsPlaceable (names : List Text) (segments : List Segment) : Prop where
  sound : AreSound segments
  walled : AreWalled names segments
  braceFree : ∀ name ∈ names, IsBraceFree name
  nodup : names.Nodup

theorem IsPlaceable.braceFree_settled {segments : List Segment}
    (h : IsPlaceable (values.map (·.1)) segments) :
    ∀ nv ∈ settled values, IsBraceFree nv.1 := by
  intro nv hnv
  exact h.braceFree _ (map_fst_settled values ▸ List.mem_map_of_mem hnv)

/-- Filling a walled template is substitution of settled values. -/
theorem fillWith_eq_substitute {segments : List Segment}
    (h : IsPlaceable (values.map (·.1)) segments) :
    fillWith (sourceOf segments) values = substitute (settled values) (sourceOf segments) := by
  have hbrace : ∀ nv ∈ values, IsBraceFree nv.1 :=
    fun nv hnv ↦ h.braceFree _ (List.mem_map_of_mem hnv)
  have hfill : fill ⟨filledOf [] segments, values⟩ = _ :=
    fill_filledOf h.sound h.walled hbrace fun nv hnv ↦ List.mem_map_of_mem hnv
  rw [substitute_sourceOf h.braceFree_settled h.sound, fillWith_eq_fill h.nodup,
    sourceOf_eq_filledOf, hfill]
  rfl

end ActorFacade.Template
