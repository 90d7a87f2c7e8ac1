import ActorFacade.Proofs.Number.Rational
import ActorFacade.Value.Normal

/-! # Keys

Keys that literals can have are the same if and only if they have the same worth (`sameKey_iff`):
numbers of all kinds are worth their exact values.  So being the same key is an equivalence of such
keys, and what is stored under one of them is found under every key that is the same, and under no
other (`find?_insert`).
-/

namespace ActorFacade

/-! ## Worth -/

/-- What keys are compared by. -/
inductive Worth where
  | null
  | number (q : ℚ)
  | infinity (negative : Bool)
  | noNumber
  | text (t : Text)

namespace Double

/-- What a number is worth as a key. -/
def worth : Double → Worth
  | .nan => .noNumber
  | .infinity negative => .infinity negative
  | .finite negative m e => .number (toRat negative m e)

@[simp] theorem worth_ne_null (x : Double) : x.worth ≠ .null := by cases x <;> simp [worth]

@[simp] theorem worth_ne_text (x : Double) (t : Text) : x.worth ≠ .text t := by
  cases x <;> simp [worth]

theorem isInteger_iff_worth {x : Double} {n : Int} :
    x.isInteger n = true ↔ x.worth = .number n := by
  cases x with
  | nan | infinity => simp [isInteger, worth]
  | finite negative m e => rw [isInteger_iff, worth, Worth.number.injEq]

theorem sameDouble_iff {x y : Double} (hx : x.IsCanonical) (hy : y.IsCanonical) :
    Atom.sameDouble x y = true ↔ x.worth = y.worth := by
  cases x with
  | nan | infinity => cases y <;> simp [Atom.sameDouble, sameNumber, isNaN, worth]
  | finite =>
    cases y with
    | nan | infinity => simp [Atom.sameDouble, sameNumber, isNaN, worth]
    | finite =>
      rw [worth, worth, Worth.number.injEq, ← sameNumber_iff hx hy]
      simp [Atom.sameDouble, isNaN]

end Double

namespace Atom

/-- Atoms of the kinds that keys in literals have. -/
def IsKey : Atom → Prop
  | .null | .bool _ | .int _ | .text _ => True
  | .double x => x.IsCanonical
  | _ => False

/-- What an atom is worth as a key. -/
def worth : Atom → Worth
  | .bool b => .number (if b then 1 else 0 : Int)
  | .int n => .number n
  | .double x => x.worth
  | .text t => .text t
  | _ => .null

/-- Keys are the same if and only if they have the same worth. -/
theorem sameKey_iff {a b : Atom} (ha : a.IsKey) (hb : b.IsKey) :
    a.sameKey b = true ↔ a.worth = b.worth := by
  cases a <;> first | exact ha.elim | skip
  all_goals cases b <;> first | exact hb.elim | skip
  case double.double x y => exact Double.sameDouble_iff ha hb
  -- An integer is compared with a binary number from its other side.
  case bool.double | int.double =>
    rw [worth, worth, eq_comm (a := Worth.number _)]
    exact Double.isInteger_iff_worth
  case double.bool | double.int => exact Double.isInteger_iff_worth
  case bool.bool | bool.int | int.bool | int.int =>
    simp only [sameKey, integer?, worth, beq_iff_eq, Worth.number.injEq, Int.cast_inj]
  all_goals simp [sameKey, integer?, double?, text?, worth, eq_comm (b := Double.worth _)]

end Atom

namespace Value

/-- Keys of the kinds that keys in literals have. -/
def IsKey (k : Value) : Prop := ∃ a : Atom, k = .atom a ∧ a.IsKey

variable {k l m : Value}

theorem IsKey.sameKey_self (hk : k.IsKey) : k.sameKey k = true := by
  obtain ⟨a, rfl, ha⟩ := hk
  exact (Atom.sameKey_iff ha ha).2 rfl

theorem IsKey.sameKey_comm (hk : k.IsKey) (hl : l.IsKey) : k.sameKey l = l.sameKey k := by
  obtain ⟨a, rfl, ha⟩ := hk
  obtain ⟨b, rfl, hb⟩ := hl
  rw [Bool.eq_iff_iff, sameKey, sameKey, Atom.sameKey_iff ha hb, Atom.sameKey_iff hb ha, eq_comm]

/-- A key can stand for every key that is the same. -/
theorem IsKey.sameKey_congr (hk : k.IsKey) (hl : l.IsKey) (hm : m.IsKey)
    (h : k.sameKey l = true) : k.sameKey m = l.sameKey m := by
  obtain ⟨a, rfl, ha⟩ := hk
  obtain ⟨b, rfl, hb⟩ := hl
  obtain ⟨c, rfl, hc⟩ := hm
  rw [Bool.eq_iff_iff, sameKey, sameKey, Atom.sameKey_iff ha hc, Atom.sameKey_iff hb hc,
    (Atom.sameKey_iff ha hb).1 h]

end Value

namespace Entries

open Value (HasDistinctKeys)

/-! ## Storing -/

/-- What is stored under a new key adds the key behind the others. -/
theorem map_fst_insert (k v : Value) (es : Entries) : (insert k v es).map (·.1) =
    if es.any (·.1.sameKey k) then es.map (·.1) else es.map (·.1) ++ [k] := by
  induction es with
  | nil => rfl
  | cons e es ih =>
    cases hkey : e.1.sameKey k with
    | true => simp [insert, hkey]
    | false =>
      rw [insert, if_neg (by simp [hkey]), List.map_cons, ih, List.any_cons, hkey, Bool.false_or]
      split <;> rfl

/-- An entry has its old or its new value, and its key was there or is the new one. -/
theorem mem_insert {k v : Value} {es : Entries} {f : Value × Value} (h : f ∈ insert k v es) :
    f ∈ es ∨ f.2 = v ∧ (f.1 = k ∨ ∃ e ∈ es, e.1 = f.1) := by
  induction es with
  | nil =>
    obtain rfl := List.mem_singleton.1 h
    exact .inr ⟨rfl, .inl rfl⟩
  | cons e es ih =>
    rw [insert] at h
    split at h
    · rcases List.mem_cons.1 h with rfl | h
      · exact .inr ⟨rfl, .inr ⟨e, List.mem_cons_self, rfl⟩⟩
      · exact .inl (List.mem_cons_of_mem _ h)
    · rcases List.mem_cons.1 h with rfl | h
      · exact .inl List.mem_cons_self
      · grind

theorem hasDistinctKeys_iff {es : Entries} :
    HasDistinctKeys es ↔ (es.map (·.1)).Pairwise fun k l ↦ k.sameKey l = false :=
  (List.pairwise_map (R := fun k l : Value ↦ k.sameKey l = false)).symm

/-- Storing keeps keys distinct. -/
theorem hasDistinctKeys_insert {es : Entries} (h : HasDistinctKeys es) (k v : Value) :
    HasDistinctKeys (insert k v es) := by
  rw [hasDistinctKeys_iff] at h ⊢
  rw [map_fst_insert]
  split
  case isTrue => exact h
  case isFalse hnew =>
    simp only [List.any_eq_true, not_exists, not_and, Bool.not_eq_true] at hnew
    refine List.pairwise_append.2 ⟨h, List.pairwise_singleton .., fun l hl m hm ↦ ?_⟩
    obtain ⟨e, he, rfl⟩ := List.mem_map.1 hl
    obtain rfl := List.mem_singleton.1 hm
    exact hnew e he

theorem length_insert (k v : Value) (es : Entries) : (insert k v es).length =
    if es.any (·.1.sameKey k) then es.length else es.length + 1 := by
  rw [← List.length_map (f := (·.1)), map_fst_insert]
  split <;> simp

/-! ## Finding -/

theorem find?_cons (e : Value × Value) (es : Entries) (l : Value) :
    find? (e :: es) l = if e.1.sameKey l then some e.2 else find? es l := by
  cases h : e.1.sameKey l <;> simp [find?, h]

/-- What is stored under a key is found under the keys that are the same, and nothing else changes.
-/
theorem find?_insert {k l : Value} {es : Entries} (hes : ∀ e ∈ es, e.1.IsKey) (hk : k.IsKey)
    (hl : l.IsKey) (v : Value) :
    find? (insert k v es) l = if k.sameKey l then some v else find? es l := by
  induction es with
  | nil => rw [insert, find?_cons]
  | cons e es ih =>
    obtain ⟨he, hes⟩ := List.forall_mem_cons.1 hes
    rw [insert, find?_cons]
    cases hkey : e.1.sameKey k with
    | true =>
      rw [if_pos rfl, find?_cons, he.sameKey_congr hk hl hkey]
      split <;> rfl
    | false =>
      rw [if_neg Bool.false_ne_true, find?_cons, ih hes]
      cases hsame : k.sameKey l with
      | false => rfl
      | true =>
        rw [hk.sameKey_comm hl] at hsame
        have hother : e.1.sameKey l = false := by
          rw [he.sameKey_comm hl, hl.sameKey_congr hk he hsame, hk.sameKey_comm he, hkey]
        rw [hother]
        rfl

theorem isSome_find? (es : Entries) (l : Value) :
    (find? es l).isSome = es.any (·.1.sameKey l) := by
  rw [find?, Option.isSome_map, List.isSome_find?]

end Entries

end ActorFacade
