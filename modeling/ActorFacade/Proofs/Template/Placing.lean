import ActorFacade.Proofs.FirstPlaces
import ActorFacade.Proofs.Template.Substitution

/-! # Placing values without opening braces

A value without opening braces makes no placeholder with what is around it, so filling a sound
template with such values, one after the other, replaces all of its placeholders at once
(`fillWith_sourceOf`).  Of several values of a name the last one counts, and nothing else about the
order of the calls does.
-/

namespace ActorFacade.Template

variable {values more calls : List (Text × Text)} {segments : List Segment}

/-! ## Filling -/

/-- Replacing the placeholder of one name is substitution of one value, in every text. -/
theorem replaceAll_placeholder (t name value : Text) :
    Text.replaceAll t (placeholder name) value = substitute [(name, value)] t := by
  unfold Text.replaceAll substitute
  generalize 0 = skip
  induction t generalizing skip with
  | nil => cases skip <;> rfl
  | cons c t ih =>
    cases skip with
    | succ skip => exact ih skip
    | zero =>
      rw [Text.replaceFrom, substituteFrom, leading?, List.find?_singleton, ih, ih]
      cases (placeholder name).isPrefixOf (c :: t) <;> rfl

/-- What has no opening brace is no part of a placeholder. -/
theorem substitute_append_of_notMem {v : Text} (h : 0x7B ∉ v) (rest : Text) :
    substitute values (v ++ rest) = v ++ substitute values rest := by
  apply substitute_text
  · intro hwithin
    exact h (hwithin.subset List.mem_cons_self)
  · intro hlast
    exact absurd (List.mem_of_getLast? hlast) h

/-- Substitution in a template that is filled already replaces the placeholders that are left. -/
theorem substitute_filledOf (hvalues : ∀ nv ∈ values, 0x7B ∉ nv.2)
    (hmore : ∀ nv ∈ more, IsBraceFree nv.1) : ∀ {segments : List Segment}, AreSound segments →
      substitute more (filledOf values segments) = filledOf (values ++ more) segments
  | [], _ => rfl
  | [.text t], h => by
    have htext : substitute more (t ++ []) = t ++ substitute more [] :=
      substitute_text h.not_infix (by simp)
    simpa [filledOf, Segment.filled] using htext
  | .text t :: .placeholder name :: rest, ⟨ht, hname, hrest⟩ => by
    have hfilled (values : List (Text × Text)) :
        filledOf values (.text t :: .placeholder name :: rest) =
          t ++ (Segment.filled values (.placeholder name) ++ filledOf values rest) := rfl
    rw [hfilled, hfilled, substitute_text ht.not_infix fun hlast ↦ absurd hlast (ht.2 rfl)]
    congr 1
    cases hfind : values.find? fun nv ↦ nv.1 == name with
    | some nv =>
      have hvalue : 0x7B ∉ nv.2 := hvalues nv (List.mem_of_find?_eq_some hfind)
      have hplace (more : List (Text × Text)) :
          Segment.filled (values ++ more) (.placeholder name) = nv.2 := by
        rw [Segment.filled, List.find?_append, hfind]
        rfl
      rw [← List.append_nil values, hplace, List.append_nil, hplace,
        substitute_append_of_notMem hvalue, substitute_filledOf hvalues hmore hrest]
    | none =>
      have hplace : Segment.filled values (.placeholder name) = placeholder name := by
        rw [Segment.filled, hfind]
        rfl
      have hplaceMore : Segment.filled (values ++ more) (.placeholder name) =
          Segment.filled more (.placeholder name) := by
        rw [Segment.filled, List.find?_append, hfind]
        rfl
      rw [hplace, hplaceMore, substitute_placeholder hmore hname,
        substitute_filledOf hvalues hmore hrest]
  | .placeholder _ :: _, h => h.elim
  | .text _ :: .text _ :: _, h => h.elim

/-- Filling a template on adds values to those that it is filled with. -/
theorem fill_filledOf_append (hsound : AreSound segments) (hvalues : ∀ nv ∈ values, 0x7B ∉ nv.2)
    (hnames : ∀ nv ∈ more, IsBraceFree nv.1) (hmore : ∀ nv ∈ more, 0x7B ∉ nv.2) :
    fill ⟨filledOf values segments, more⟩ = filledOf (values ++ more) segments := by
  induction more generalizing values with
  | nil => rw [List.append_nil]; rfl
  | cons nv more ih =>
    obtain ⟨hname, hnames⟩ := List.forall_mem_cons.1 hnames
    obtain ⟨hvalue, hmore⟩ := List.forall_mem_cons.1 hmore
    have hstep : fill ⟨filledOf values segments, nv :: more⟩ =
        fill ⟨substitute [nv] (filledOf values segments), more⟩ := by
      rw [← replaceAll_placeholder]
      rfl
    rw [hstep, substitute_filledOf hvalues (List.forall_mem_singleton.2 hname) hsound,
      ih (List.forall_mem_append.2 ⟨hvalues, List.forall_mem_singleton.2 hvalue⟩) hnames hmore,
      List.append_assoc, List.singleton_append]

/-! ## Values of names -/

/-- The first value of a name. -/
def valueOf? (values : List (Text × Text)) (name : Text) : Option Text :=
  (values.find? fun nv ↦ nv.1 == name).map (·.2)

theorem valueOf?_cons (name value n : Text) (values : List (Text × Text)) :
    valueOf? ((name, value) :: values) n = if name = n then some value else valueOf? values n := by
  rw [valueOf?, List.find?_cons]
  by_cases hn : name = n
  · simp [hn]
  · rw [beq_eq_false_iff_ne.2 hn, if_neg hn]
    rfl

theorem mem_of_valueOf? {name value : Text} (h : valueOf? values name = some value) :
    (name, value) ∈ values := by
  obtain ⟨⟨n, v⟩, hfind, rfl⟩ := Option.map_eq_some_iff.1 h
  obtain rfl : n = name := by simpa using List.find?_some hfind
  exact List.mem_of_find?_eq_some hfind

/-- Only the first value of each name is filled in. -/
theorem filledOf_congr (h : ∀ name, valueOf? values name = valueOf? more name)
    (segments : List Segment) : filledOf values segments = filledOf more segments := by
  refine congrArg (segments.flatMap ·) (funext ?_)
  intro segment
  cases segment with
  | text t => rfl
  | placeholder name => exact congrArg (·.getD (placeholder name)) (h name)

/-! ## Placing -/

/-- The values that calls have placed. -/
def placedBy (calls : List (Text × Text)) : List (Text × Text) :=
  calls.foldl (fun values nv ↦ setValue nv.1 nv.2 values) []

/-- The value that the last call with a name has placed. -/
def lastValue? (calls : List (Text × Text)) (name : Text) : Option Text :=
  valueOf? calls.reverse name

theorem fillWith_eq_fill_placedBy (t : Text) (calls : List (Text × Text)) :
    fillWith t calls = fill ⟨t, placedBy calls⟩ := by
  suffices ∀ values, calls.foldl (fun t nv ↦ t.place nv.1 nv.2) (⟨t, values⟩ : Template) =
      ⟨t, calls.foldl (fun values nv ↦ setValue nv.1 nv.2 values) values⟩ by
    rw [fillWith, this, placedBy]
  induction calls with
  | nil => exact fun _ ↦ rfl
  | cons nv calls ih => exact fun values ↦ ih (setValue nv.1 nv.2 values)

theorem placedBy_concat (calls : List (Text × Text)) (name value : Text) :
    placedBy (calls ++ [(name, value)]) = setValue name value (placedBy calls) :=
  List.foldl_concat ..

theorem valueOf?_setValue (name value n : Text) (values : List (Text × Text)) :
    valueOf? (setValue name value values) n =
      if name = n then some value else valueOf? values n := by
  induction values with
  | nil => exact valueOf?_cons name value n []
  | cons nv values ih =>
    obtain ⟨m, v⟩ := nv
    rw [setValue]
    split
    case isTrue hname =>
      rw [valueOf?_cons, valueOf?_cons, hname]
      split <;> rfl
    case isFalse hname =>
      rw [valueOf?_cons, valueOf?_cons, ih]
      by_cases hn : m = n
      · rw [if_pos hn, if_neg (hn ▸ Ne.symm hname), if_pos hn]
      · rw [if_neg hn, if_neg hn]

/-- What calls have placed for a name is its last value. -/
theorem valueOf?_placedBy (calls : List (Text × Text)) (name : Text) :
    valueOf? (placedBy calls) name = lastValue? calls name := by
  induction calls using List.reverseRecOn with
  | nil => rfl
  | append_singleton calls nv ih =>
    obtain ⟨n, v⟩ := nv
    rw [placedBy_concat, valueOf?_setValue, ih, lastValue?, lastValue?, List.reverse_concat,
      valueOf?_cons]

theorem nodup_keys_placedBy (calls : List (Text × Text)) :
    ((placedBy calls).map (·.1)).Nodup := by
  induction calls using List.reverseRecOn with
  | nil => exact .nil
  | append_singleton calls nv ih =>
    obtain ⟨n, v⟩ := nv
    rw [placedBy_concat, keys_setValue]
    split
    case isTrue => exact ih
    case isFalse hnew =>
      rw [← List.concat_eq_append]
      exact ih.concat hnew

/-- Everything that calls have placed is the last value of its name. -/
theorem lastValue?_of_mem_placedBy {nv : Text × Text} (h : nv ∈ placedBy calls) :
    lastValue? calls nv.1 = some nv.2 := by
  have hfind := (find?_fst_eq_some_iff (nodup_keys_placedBy calls)).2 ⟨h, rfl⟩
  rw [← valueOf?_placedBy, valueOf?, hfind]
  rfl

/-- In a template where two opening braces stand in placeholders only, filling in values without
opening braces, one after the other, replaces all placeholders of their names at once, each by its
last value, and keeps all others.  So calls with the same last values give the same text, in
whatever order they are. -/
theorem fillWith_sourceOf (hsound : AreSound segments) (hnames : ∀ nv ∈ calls, IsBraceFree nv.1)
    (hvalues : ∀ nv ∈ calls, 0x7B ∉ nv.2) :
    fillWith (sourceOf segments) calls = substitute calls.reverse (sourceOf segments) ∧
      fillWith (sourceOf segments) calls = filledOf calls.reverse segments ∧
      ∀ others, (∀ name, lastValue? others name = lastValue? calls name) →
        fillWith (sourceOf segments) others = fillWith (sourceOf segments) calls := by
  have hfill : ∀ others, (∀ name, lastValue? others name = lastValue? calls name) →
      fillWith (sourceOf segments) others = filledOf calls.reverse segments := by
    intro others hothers
    have hmem : ∀ nv ∈ placedBy others, nv ∈ calls := by
      intro nv hnv
      have hlast := lastValue?_of_mem_placedBy hnv
      rw [hothers] at hlast
      exact List.mem_reverse.1 (mem_of_valueOf? hlast)
    rw [fillWith_eq_fill_placedBy, sourceOf_eq_filledOf,
      fill_filledOf_append hsound (List.forall_mem_nil _)
        (fun nv hnv ↦ hnames nv (hmem nv hnv)) fun nv hnv ↦ hvalues nv (hmem nv hnv)]
    apply filledOf_congr
    intro name
    rw [List.nil_append, valueOf?_placedBy, hothers, lastValue?]
  have hcalls := hfill calls fun _ ↦ rfl
  have hreverse : ∀ nv ∈ calls.reverse, IsBraceFree nv.1 :=
    fun nv hnv ↦ hnames nv (List.mem_reverse.1 hnv)
  refine ⟨?_, hcalls, ?_⟩
  · rw [hcalls, substitute_sourceOf hreverse hsound]
  · intro others hothers
    rw [hfill others hothers, hcalls]

/-- An empty value between a text and a placeholder, closing braces in a value, a name that is
placed twice, one that is in no placeholder and a placeholder without a value. -/
theorem fillWith_sourceOf_twice :
    let segments : List Segment := [.text (Text.ofString "\x7ba"), .placeholder "x", .text [],
      .placeholder "y", .text (Text.ofString "\x7bb\x7d\x7d"), .placeholder "x", .text "c",
      .placeholder "z", .text (Text.ofString "\x7b")]
    let calls : List (Text × Text) := [("y", "1"), ("x", []), ("w", "2"), ("y", "z\x7d\x7d")]
    let others : List (Text × Text) := [("y", "z\x7d\x7d"), ("w", "2"), ("x", [])]
    AreSound segments ∧ (∀ nv ∈ calls, IsBraceFree nv.1) ∧ (∀ nv ∈ calls, 0x7B ∉ nv.2) ∧
      (∀ name, lastValue? others name = lastValue? calls name) ∧
      fillWith (sourceOf segments) calls =
        "\x7baz\x7d\x7d\x7bb\x7d\x7dc\x7b\x7bz\x7d\x7d\x7b" ∧
      fillWith (sourceOf segments) others = fillWith (sourceOf segments) calls := by
  intro segments calls others
  have hsound : AreSound segments := by decide
  have hnames : ∀ nv ∈ calls, IsBraceFree nv.1 := by decide
  have hvalues : ∀ nv ∈ calls, 0x7B ∉ nv.2 := by decide
  have hlast : ∀ name, lastValue? others name = lastValue? calls name := by
    intro name
    by_cases hx : Text.ofString "x" = name
    · subst hx
      rfl
    by_cases hy : Text.ofString "y" = name
    · subst hy
      rfl
    simp only [lastValue?, others, calls, List.reverse_cons, List.reverse_nil, List.nil_append,
      List.cons_append, valueOf?_cons, if_neg hx, if_neg hy]
  obtain ⟨-, hfill, hothers⟩ := fillWith_sourceOf hsound hnames hvalues
  exact ⟨hsound, hnames, hvalues, hlast, hfill, hothers others hlast⟩

end ActorFacade.Template
