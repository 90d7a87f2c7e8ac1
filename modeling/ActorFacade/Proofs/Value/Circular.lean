import ActorFacade.Proofs.Value.Display
import ActorFacade.Value.Circular

/-! # Short integers in circular values

What is seen of a circular value consists of the atoms that its containers hold.  So if no integer
there has too many digits, the value in full and all that is found on the way to it can be shown
(`Circular.isShort_value`).
-/

namespace ActorFacade

/-! ## Members of tables -/

namespace Scattered

variable {α : Type} {t : Scattered α} {m x : UInt64 × α}

theorem mem_members_iff : m ∈ t.members ↔ some m ∈ t := by
  rw [members, List.mem_filterMap]
  simp

theorem mem_put (h : m ∈ (t.put x).members) : m ∈ t.members ∨ m = x := by
  rw [mem_members_iff] at h ⊢
  rcases Array.mem_or_eq_of_mem_setIfInBounds h with h | h
  · exact .inl h
  · exact .inr (Option.some.inj h)

theorem notMem_ofSize (n : Nat) : m ∉ (ofSize n : Scattered α).members := by
  rw [mem_members_iff, ofSize]
  intro h
  cases Array.eq_of_mem_replicate h

theorem mem_resize {n : Nat} (h : m ∈ (t.resize n).members) : m ∈ t.members := by
  have hfold : ∀ (ms : List (UInt64 × α)) (t : Scattered α), m ∈ (ms.foldl put t).members →
      m ∈ t.members ∨ m ∈ ms := by
    intro ms
    induction ms with
    | nil => exact fun t ht ↦ .inl ht
    | cons x ms ih =>
      intro t ht
      rcases ih _ ht with hput | hms
      · rcases mem_put hput with ht | rfl
        · exact .inl ht
        · exact .inr List.mem_cons_self
      · exact .inr (List.mem_cons_of_mem _ hms)
  rcases hfold _ _ h with hempty | hmem
  · exact absurd hempty (notMem_ofSize _)
  · exact hmem

theorem mem_add {used : Nat} (h : m ∈ (t.add used x).members) : m ∈ t.members ∨ m = x := by
  rw [add] at h
  split at h
  case isTrue => exact mem_put (mem_resize h)
  case isFalse => exact mem_put h

theorem mem_addAll {ms : List (UInt64 × α)} {used : Nat}
    (h : m ∈ (t.addAll used ms).members) : m ∈ t.members ∨ m ∈ ms := by
  induction ms generalizing t used with
  | nil => exact .inl h
  | cons x ms ih =>
    rcases ih h with hadd | hms
    · rcases mem_add hadd with ht | rfl
      · exact .inl ht
      · exact .inr List.mem_cons_self
    · exact .inr (List.mem_cons_of_mem _ hms)

/-- Putting members in order adds none. -/
theorem mem_of_mem_order {together : Bool} {ms : List (UInt64 × α)} {a : α}
    (h : a ∈ order together ms) : a ∈ ms.map (·.2) := by
  obtain ⟨m, hm, rfl⟩ := List.mem_map.1 h
  refine List.mem_map_of_mem ?_
  rcases mem_addAll hm with hempty | hmem
  · split at hempty
    · exact absurd hempty (notMem_ofSize _)
    · exact absurd hempty (notMem_ofSize _)
  · exact hmem

end Scattered

/-! ## Short integers -/

namespace Value

/-- No integer in a value has too many digits. -/
def IsShort (v : Value) : Prop := ∀ n ∈ v.integers, Integer.isTooLong n = false

theorem IsShort.exists_display {v : Value} (h : v.IsShort) : ∃ t, v.display = .ok t := by
  cases hdisplay : v.display with
  | ok t => exact ⟨t, rfl⟩
  | error e =>
    obtain ⟨⟨n, hn, hlong⟩, -⟩ := display_eq_error_iff.1 hdisplay
    rw [h n hn] at hlong
    cases hlong

theorem isShort_of_eq_nil {v : Value} (h : v.integers = []) : v.IsShort := by
  intro n hn
  rw [h] at hn
  cases hn

theorem mem_integersOfAll_iff {xs : List Value} {n : Int} :
    n ∈ integersOfAll xs ↔ ∃ x ∈ xs, n ∈ x.integers := by
  induction xs with
  | nil => simp [integersOfAll]
  | cons x xs ih => simp [integersOfAll, ih]

theorem mem_integersOfEntries_iff {es : Entries} {n : Int} :
    n ∈ integersOfEntries es ↔ ∃ e ∈ es, n ∈ e.1.integers ∨ n ∈ e.2.integers := by
  induction es with
  | nil => simp [integersOfEntries]
  | cons e es ih => simp [integersOfEntries, ih, or_assoc]

/-- A container is short if its parts are. -/
theorem isShort_of_all {v : Value} {xs : List Value}
    (hv : v = .list xs ∨ v = .tuple xs ∨ v = .set xs) (h : ∀ x ∈ xs, x.IsShort) : v.IsShort := by
  intro n hn
  have hmem : n ∈ integersOfAll xs := by
    rcases hv with rfl | rfl | rfl
    all_goals rwa [integers] at hn
  obtain ⟨x, hx, hn⟩ := mem_integersOfAll_iff.1 hmem
  exact h x hx n hn

theorem isShort_dict {es : Entries} (h : ∀ e ∈ es, e.1.IsShort ∧ e.2.IsShort) :
    (Value.dict es).IsShort := by
  intro n hn
  rw [integers, mem_integersOfEntries_iff] at hn
  obtain ⟨e, he, hkey | hvalue⟩ := hn
  · exact (h e he).1 n hkey
  · exact (h e he).2 n hvalue

theorem isShort_ofKeys {together : Bool} {xs : List Value} (h : ∀ x ∈ xs, x.IsShort) :
    (ofKeys together xs).IsShort := by
  unfold ofKeys
  split
  case h_1 codes hcodes =>
    refine isShort_of_all (.inr (.inr rfl)) ?_
    intro x hx
    obtain ⟨m, hm, rfl⟩ := List.mem_map.1 (Scattered.mem_of_mem_order hx)
    exact h _ (List.of_mem_zip hm).2
  case h_2 => exact isShort_of_all (.inr (.inr rfl)) h

end Value

/-! ## Circular values -/

/-- The atom that a part is. -/
def Part.atoms : Part → List Atom
  | .atom a => [a]
  | .container _ => []

/-- The atoms that a container holds. -/
def Container.atoms : Container → List Atom
  | .list xs | .tuple xs => xs.flatMap Part.atoms
  | .set xs => xs
  | .dict es => es.map (·.1) ++ es.flatMap (·.2.atoms)

namespace Circular

/-- No integer in a part has too many digits. -/
def IsShortPart (p : Part) : Prop := ∀ a ∈ p.atoms, (Value.atom a).IsShort

/-- No integer in a container has too many digits, leaving containers within it aside. -/
def IsShortContainer (k : Container) : Prop := ∀ a ∈ k.atoms, (Value.atom a).IsShort

/-- No integer in a circular value has too many digits. -/
structure IsShort (c : Circular) : Prop where
  part : IsShortPart c.part
  containers : ∀ k ∈ c.containers, IsShortContainer k

theorem IsShortContainer.partsOf {k : Container} (h : IsShortContainer k) :
    ∀ p ∈ partsOf k, IsShortPart p := by
  intro p hp a ha
  refine h a ?_
  cases k with
  | list xs | tuple xs => exact List.mem_flatMap.2 ⟨p, hp, ha⟩
  | set xs => cases hp
  | dict es =>
    obtain ⟨e, he, rfl⟩ := List.mem_map.1 hp
    exact List.mem_append_right _ (List.mem_flatMap.2 ⟨e, he, ha⟩)

theorem IsShortContainer.assemble {k : Container} (h : IsShortContainer k) {parts : List Value}
    (hparts : ∀ v ∈ parts, v.IsShort) : (assemble k parts).IsShort := by
  cases k with
  | list xs => exact Value.isShort_of_all (.inl rfl) hparts
  | tuple xs => exact Value.isShort_of_all (.inr (.inl rfl)) hparts
  | set xs =>
    refine Value.isShort_ofKeys ?_
    intro v hv
    obtain ⟨a, ha, rfl⟩ := List.mem_map.1 hv
    exact h a ha
  | dict es =>
    refine Value.isShort_dict ?_
    rintro ⟨k, v⟩ hentry
    obtain ⟨hkey, hvalue⟩ := List.of_mem_zip hentry
    obtain ⟨e, he, rfl⟩ := List.mem_map.1 hkey
    exact ⟨h e.1 (List.mem_append_left _ (List.mem_map_of_mem he)), hparts v hvalue⟩

/-! ### Values in full

The values that were found before are short all the time, and so is what is found with them. -/

section

variable {α β : Type}

/-- The values of containers that were found are short. -/
def AreShort (whole : Whole) : Prop := ∀ e ∈ whole, e.2.IsShort

/-- A computation finds short values only, and what it returns has a property. -/
def Finds (x : StateM Whole α) (P : α → Prop) : Prop :=
  ∀ whole, AreShort whole → P (x whole).1 ∧ AreShort (x whole).2

theorem Finds.pure {P : α → Prop} {a : α} (h : P a) : Finds (Pure.pure a) P :=
  fun _ hwhole ↦ ⟨h, hwhole⟩

theorem Finds.bind {P : α → Prop} {Q : β → Prop} {x : StateM Whole α} {f : α → StateM Whole β}
    (hx : Finds x P) (hf : ∀ a, P a → Finds (f a) Q) : Finds (x >>= f) Q := by
  intro whole hwhole
  obtain ⟨ha, hnext⟩ := hx whole hwhole
  exact hf _ ha _ hnext

theorem finds_get : Finds get AreShort := fun _ hwhole ↦ ⟨hwhole, hwhole⟩

theorem finds_modify {e : Nat × Value} (h : e.2.IsShort) :
    Finds (modify (e :: ·)) fun _ ↦ True := by
  intro whole hwhole
  exact ⟨trivial, List.forall_mem_cons.2 ⟨h, hwhole⟩⟩

theorem Finds.mapM {P : β → Prop} {f : α → StateM Whole β} {xs : List α}
    (hf : ∀ x ∈ xs, Finds (f x) P) : Finds (xs.mapM f) fun ys ↦ ∀ y ∈ ys, P y := by
  induction xs with
  | nil =>
    rw [List.mapM_nil]
    exact .pure (List.forall_mem_nil _)
  | cons x xs ih =>
    obtain ⟨hx, hxs⟩ := List.forall_mem_cons.1 hf
    rw [List.mapM_cons]
    refine hx.bind fun y hy ↦ (ih hxs).bind fun ys hys ↦ ?_
    exact .pure (List.forall_mem_cons.2 ⟨hy, hys⟩)

end

/-- What is seen in short containers is short. -/
theorem finds_see {containers : Array Container} (h : ∀ k ∈ containers, IsShortContainer k)
    (steps : Nat) (around : List Nat) {p : Part} (hp : IsShortPart p) :
    Finds (see containers steps around p) (·.1.IsShort) := by
  induction steps generalizing around p with
  | zero =>
    cases p with
    | atom a => exact .pure (hp a (List.mem_singleton_self a))
    | container n => exact .pure (Value.isShort_of_eq_nil rfl)
  | succ steps ih =>
    cases p with
    | atom a => exact .pure (hp a (List.mem_singleton_self a))
    | container n =>
      have hcontainer : IsShortContainer (containers.getD n (.list [])) := by
        rw [Array.getD_eq_getD_getElem?]
        cases hn : containers[n]? with
        | none => exact List.forall_mem_nil _
        | some k => exact h k (Array.mem_of_getElem? hn)
      rw [see]
      split
      case isTrue =>
        refine .pure (Value.isShort_of_eq_nil ?_)
        cases containers.getD n (.list []) <;> rfl
      case isFalse =>
        refine finds_get.bind fun whole hwhole ↦ ?_
        split
        case h_1 v hv =>
          obtain ⟨before, after, rfl, -⟩ := List.lookup_eq_some_iff.1 hv
          exact .pure (hwhole (n, v) (List.mem_append_right _ List.mem_cons_self))
        case h_2 =>
          refine (Finds.mapM fun p hp ↦ ih _ (hcontainer.partsOf p hp)).bind fun parts hparts ↦ ?_
          have hvalue := hcontainer.assemble (List.forall_mem_map.2 hparts)
          show Finds (if parts.all (·.2) = true then _ else _) _
          split
          case isTrue => exact (finds_modify hvalue).bind fun _ _ ↦ .pure hvalue
          case isFalse => exact .pure hvalue

/-- The value of short containers in full is short. -/
theorem IsShort.value {c : Circular} (h : c.IsShort) : c.value.IsShort :=
  (finds_see h.containers _ [] h.part [] (List.forall_mem_nil _)).1

end Circular

/-! ## Part by part -/

namespace Inspectable

/-- A property that goes over to the parts of things, and with which no integer that is read or
shown has too many digits. -/
structure KeepsShort {α : Type} [Inspectable α] (P : α → Prop) : Prop where
  value {x : α} (h : P x) : (value x).IsShort
  atom {x : α} (h : P x) {a : Atom} (ha : atom? x = some a) : (Value.atom a).IsShort
  items {x : α} (h : P x) {xs : List α} (hxs : items? x = some xs) : ∀ y ∈ xs, P y
  entries {x : α} (h : P x) {es : List (Value × α)} (hes : entries? x = some es) :
    ∀ e ∈ es, e.1.IsShort ∧ P e.2

end Inspectable

namespace Circular

theorem IsShort.seek {c : Circular} (h : c.IsShort) {p : Part} (hp : IsShortPart p) :
    (c.seek p).IsShort := ⟨hp, h.containers⟩

theorem IsShort.container {c : Circular} (h : c.IsShort) {k : Container}
    (hk : c.container? = some k) : IsShortContainer k := by
  unfold container? at hk
  split at hk
  case h_1 => cases hk
  case h_2 => exact h.containers k (Array.mem_of_getElem? hk)

theorem keepsShort : Inspectable.KeepsShort IsShort where
  value h := h.value
  atom {c} h a ha := by
    have ha : c.atom? = some a := ha
    unfold atom? at ha
    split at ha
    case h_1 hpart =>
      cases ha
      exact h.part a (hpart ▸ List.mem_singleton_self a)
    case h_2 => cases ha
  items {c} h xs hxs := by
    have hxs : c.items? = some xs := hxs
    unfold items? at hxs
    split at hxs
    case h_1 ps hk | h_2 ps hk =>
      cases hxs
      intro y hy
      obtain ⟨p, hp, rfl⟩ := List.mem_map.1 hy
      exact h.seek ((h.container hk).partsOf p hp)
    case h_3 => cases hxs
  entries {c} h es hes := by
    have hes : c.entries? = some es := hes
    unfold entries? at hes
    split at hes
    case h_1 ps hk =>
      cases hes
      intro y hy
      obtain ⟨e, he, rfl⟩ := List.mem_map.1 hy
      have hshort := h.container hk
      exact ⟨hshort e.1 (List.mem_append_left _ (List.mem_map_of_mem he)),
        h.seek (hshort.partsOf e.2 (List.mem_map_of_mem he))⟩
    case h_2 => cases hes

end Circular

end ActorFacade
