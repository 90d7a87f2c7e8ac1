import ActorFacade.Proofs.Journal
import ActorFacade.Registry

/-! # Modules that can be made again

A registry is stable for a suite if making the modules of the suite a second time gives the same
providers and changes no class that making them once has not changed.  Its table is then the same
both times (`IsStable.actionTable`).  Registries that are given their providers are stable as long
as making the providers changes no class (`isStable_of_given`).
-/

namespace ActorFacade.Registry

variable {r : Registry} {suite : Suite}

/-- The modules of a suite can be made again. -/
structure IsStable (r : Registry) (suite : Suite) : Prop where
  /-- Nothing changes that did not change at first. -/
  settled : (r.settled suite).settled suite = r.settled suite
  /-- The providers are the same. -/
  resolved : ((r.settled suite).resolveModules suite).result = (r.resolveModules suite).result

/-- The table is the same. -/
theorem IsStable.actionTable (h : r.IsStable suite) {table : ActionTable}
    (htable : (r.actionTable suite).result = .ok table) :
    ((r.settled suite).actionTable suite).result = .ok table := by
  unfold Registry.actionTable at htable ⊢
  rw [h.settled]
  unfold withSource at htable ⊢
  cases hkind : (r.settled suite).kind
  all_goals
    simp only [hkind, Logged.result_bind_eq_ok_iff] at htable ⊢
    rw [h.resolved]
    exact htable

theorem isStable_of_settled_eq (h : r.settled suite = r) : r.IsStable suite :=
  ⟨by rw [h, h], by rw [h]⟩

/-! ## Given providers -/

/-- A name is that of a given provider, and making the provider changes no class. -/
def IsGiven (r : Registry) (name : Text) : Prop :=
  ∃ p, r.source? name = some (.given p) ∧
    ∀ options, settleObject r.environment.hierarchy p options = r.environment.hierarchy

/-- Objects that are no classes change none. -/
theorem settleObject_of_ne_class {h : Hierarchy} {p : Provider} (hp : ∀ c, p ≠ .class c)
    (options : Value) : settleObject h p options = h := by
  unfold settleObject
  split
  case h_1 => exact absurd rfl (hp _)
  case h_2 => rfl

theorem IsGiven.afterLookup {name : Text} (h : r.IsGiven name) : r.afterLookup name = r := by
  obtain ⟨p, hsource, -⟩ := h
  rw [Registry.afterLookup, hsource]

theorem IsGiven.settleObject {name : Text} {object : Provider} (h : r.IsGiven name)
    (hlookup : r.lookup name = .ok object) (options : Value) :
    settleObject r.environment.hierarchy object options = r.environment.hierarchy := by
  obtain ⟨p, hsource, hp⟩ := h
  rw [lookup, hsource] at hlookup
  cases hlookup
  exact hp options

/-- What a plan makes is what its name leads to, and its name is new. -/
theorem of_plan {resolved : ResolvedModules} {name : Value} {p : Plan}
    (h : r.plan suite resolved name = .ok (some p)) :
    name.text? = some p.name ∧ r.lookup p.name = .ok p.object ∧ p.name ∉ resolved.map (·.1) := by
  unfold plan at h
  split at h
  case h_1 => cases h
  case h_2 => cases h
  case h_3 t _ htext =>
    split at h
    case isTrue => cases h
    case isFalse hnew =>
      obtain ⟨object, hobject, h⟩ := bind_eq_ok_iff.1 h
      obtain ⟨options, -, h⟩ := bind_eq_ok_iff.1 h
      cases h
      exact ⟨htext, hobject, hnew⟩

/-- Making given providers changes nothing. -/
theorem resolveFrom_of_given {names : List Value}
    (h : ∀ name ∈ names, ∀ t, name.text? = some t → r.IsGiven t) (resolved : ResolvedModules) :
    (resolveFrom suite r resolved names).1 = r := by
  induction names generalizing resolved with
  | nil => rfl
  | cons name names ih =>
    obtain ⟨hname, hnames⟩ := List.forall_mem_cons.1 h
    rw [resolveFrom]
    split
    case h_1 =>
      cases htext : name.text? with
      | none => rfl
      | some t => exact (hname t htext).afterLookup
    case h_2 => exact ih hnames resolved
    case h_3 p hplan =>
      obtain ⟨htext, hlookup, -⟩ := of_plan hplan
      have hgiven := hname p.name htext
      have hr : r.withHierarchy r.environment.hierarchy = r := rfl
      simp only [hgiven.afterLookup, hgiven.settleObject hlookup, hr]
      split
      case h_1 => rfl
      case h_2 => exact ih hnames _

/-- Making the modules of a suite changes nothing if all of them are given providers. -/
theorem settled_of_given (h : ∀ names, suite.moduleItems = .ok names →
    ∀ name ∈ names, ∀ t, name.text? = some t → r.IsGiven t) : r.settled suite = r := by
  unfold settled
  split
  case h_1 names hnames => exact resolveFrom_of_given (h names hnames) []
  case h_2 => rfl

/-- Given providers can be made again. -/
theorem isStable_of_given (h : ∀ names, suite.moduleItems = .ok names →
    ∀ name ∈ names, ∀ t, name.text? = some t → r.IsGiven t) : r.IsStable suite :=
  isStable_of_settled_eq (settled_of_given h)

end ActorFacade.Registry
