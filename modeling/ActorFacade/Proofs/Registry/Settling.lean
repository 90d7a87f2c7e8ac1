import ActorFacade.Proofs.Hierarchy.Declaring
import ActorFacade.Proofs.Registry.Exposure
import ActorFacade.Proofs.Registry.Stability
import ActorFacade.Proofs.Source.Resolution

/-! # What making modules leaves behind

Making the modules of a suite looks up attributes and makes instances, and what both keep is kept by
the whole (`settled_invariant`): classes stay lawful, and nothing changes but classes
(`settled_eq_withHierarchy`).  The modules that are made have different names
(`nodup_of_resolveModules`).
-/

namespace ActorFacade

/-! ## Looking up -/

namespace Environment

variable {env : Environment}

theorem isLawful_afterLooking (hlawful : env.hierarchy.IsLawful) (p : Provider) (name : Text) :
    (env.afterLooking p name).hierarchy.IsLawful := by
  unfold afterLooking
  split
  case h_1 c =>
    split
    · exact hlawful.setAttribute c name _
    · exact hlawful
  case h_2 => exact hlawful

theorem isLawful_afterPath (hlawful : env.hierarchy.IsLawful) (p : Provider) (path : List Text) :
    (env.afterPath p path).hierarchy.IsLawful := by
  induction path generalizing env p with
  | nil => exact hlawful
  | cons name path ih =>
    unfold afterPath
    split
    case h_1 q _ => exact ih (isLawful_afterLooking hlawful p name) q
    case h_2 => exact hlawful

theorem isLawful_afterLookup (hlawful : env.hierarchy.IsLawful) (reference : Text) :
    (env.afterLookup reference).hierarchy.IsLawful := by
  unfold afterLookup
  simp only
  split
  · exact isLawful_afterPath hlawful _ _
  · exact hlawful

theorem isLawful_afterLoad (hlawful : env.hierarchy.IsLawful) (e : EntryPoint) :
    (env.afterLoad e).hierarchy.IsLawful := by
  unfold afterLoad
  split
  · split
    · exact isLawful_afterPath hlawful _ _
    · exact hlawful
  · exact hlawful

/-! ## Looking changes nothing but classes -/

theorem afterLooking_eq (env : Environment) (p : Provider) (name : Text) :
    ∃ h, env.afterLooking p name = { env with hierarchy := h } := by
  unfold afterLooking
  split
  · split
    · exact ⟨_, rfl⟩
    · exact ⟨env.hierarchy, rfl⟩
  · exact ⟨env.hierarchy, rfl⟩

theorem afterPath_eq (env : Environment) (p : Provider) (path : List Text) :
    ∃ h, env.afterPath p path = { env with hierarchy := h } := by
  induction path generalizing env p with
  | nil => exact ⟨env.hierarchy, rfl⟩
  | cons name path ih =>
    unfold afterPath
    split
    case h_1 q _ =>
      obtain ⟨h, hlooked⟩ := env.afterLooking_eq p name
      obtain ⟨h', hpath⟩ := ih (env.afterLooking p name) q
      exact ⟨h', by rw [hpath, hlooked]⟩
    case h_2 => exact ⟨env.hierarchy, rfl⟩

theorem afterLookup_eq (env : Environment) (reference : Text) :
    ∃ h, env.afterLookup reference = { env with hierarchy := h } := by
  unfold afterLookup
  simp only
  split
  · exact env.afterPath_eq _ _
  · exact ⟨env.hierarchy, rfl⟩

theorem afterLoad_eq (env : Environment) (e : EntryPoint) :
    ∃ h, env.afterLoad e = { env with hierarchy := h } := by
  unfold afterLoad
  split
  · split
    · exact env.afterPath_eq _ _
    · exact ⟨env.hierarchy, rfl⟩
  · exact ⟨env.hierarchy, rfl⟩

end Environment

namespace Registry

variable {r : Registry} {suite : Suite} {resolved modules : ResolvedModules} {names : List Value}

theorem isLawful_afterLookup (hlawful : r.environment.hierarchy.IsLawful) (name : Text) :
    (r.afterLookup name).environment.hierarchy.IsLawful := by
  unfold afterLookup
  split
  · exact Environment.isLawful_afterLoad hlawful _
  · exact Environment.isLawful_afterLookup hlawful name
  · exact hlawful
  · exact hlawful

/-- Looking up a name changes nothing but classes. -/
theorem afterLookup_eq_withHierarchy (r : Registry) (name : Text) :
    ∃ h, r.afterLookup name = r.withHierarchy h := by
  unfold afterLookup withHierarchy
  split
  case h_1 e _ =>
    obtain ⟨h, he⟩ := r.environment.afterLoad_eq e
    exact ⟨h, by rw [he]⟩
  case h_2 =>
    obtain ⟨h, he⟩ := r.environment.afterLookup_eq name
    exact ⟨h, by rw [he]⟩
  case h_3 => exact ⟨r.environment.hierarchy, rfl⟩
  case h_4 => exact ⟨r.environment.hierarchy, rfl⟩

theorem isLawful_settleObject {h : Hierarchy} (hlawful : h.IsLawful) (object : Provider)
    (options : Value) : (settleObject h object options).IsLawful := by
  unfold settleObject
  split
  · exact hlawful.settle _ _
  · exact hlawful

/-! ## Making the modules -/

section Invariant

variable {P : Registry → Prop} (hlookup : ∀ r name, P r → P (r.afterLookup name))
  (hsettle : ∀ r object options, P r →
    P (r.withHierarchy (settleObject r.environment.hierarchy object options)))

include hlookup hsettle

/-- What looking up names and making instances keep is kept by making modules. -/
theorem resolveFrom_invariant (hr : P r) : P (resolveFrom suite r resolved names).1 := by
  induction names generalizing r resolved with
  | nil => exact hr
  | cons name names ih =>
    rw [resolveFrom]
    split
    case h_1 =>
      -- A name that has no plan was looked up all the same, if it is a text.
      cases name.text? with
      | none => exact hr
      | some t => exact hlookup r t hr
    case h_2 => exact ih hr
    case h_3 p _ =>
      have hmade := hsettle _ p.object p.options (hlookup r p.name hr)
      simp only
      split
      case h_1 => exact hmade
      case h_2 => exact ih hmade

theorem settled_invariant (hr : P r) : P (r.settled suite) := by
  unfold settled
  split
  · exact resolveFrom_invariant hlookup hsettle hr
  · exact hr

end Invariant

/-- The classes stay lawful. -/
theorem isLawful_settled (hlawful : r.environment.hierarchy.IsLawful) (suite : Suite) :
    (r.settled suite).environment.hierarchy.IsLawful := by
  refine settled_invariant (P := fun r ↦ r.environment.hierarchy.IsLawful) ?_ ?_ hlawful
  · intro r name hr
    exact isLawful_afterLookup hr name
  · intro r object options hr
    exact isLawful_settleObject hr object options

/-- Making modules changes nothing but classes. -/
theorem settled_eq_withHierarchy (r : Registry) (suite : Suite) :
    ∃ h, r.settled suite = r.withHierarchy h := by
  refine settled_invariant (P := fun r' ↦ ∃ h, r' = r.withHierarchy h) ?_ ?_ ?_
  · rintro r' name ⟨h, rfl⟩
    exact (r.withHierarchy h).afterLookup_eq_withHierarchy name
  · rintro r' object options ⟨h, rfl⟩
    exact ⟨_, rfl⟩
  · exact ⟨r.environment.hierarchy, rfl⟩

/-- The registry gets no rows of its own. -/
theorem extraActions_settled (r : Registry) (suite : Suite) :
    (r.settled suite).extraActions = r.extraActions := by
  obtain ⟨h, hr⟩ := r.settled_eq_withHierarchy suite
  rw [hr]
  rfl

/-- A registry with lawful classes has a coherent source of metadata. -/
theorem exists_isCoherent (hlawful : r.environment.hierarchy.IsLawful) :
    ∃ (ρ : Type) (s : Source ρ), s.IsCoherent ∧
      ∀ {α : Type} (f : {ρ : Type} → Source ρ → α), r.withSource f = f s := by
  unfold withSource
  cases r.kind with
  | declared => exact ⟨_, _, r.types.isCoherent r.environment.hierarchy, fun _ ↦ rfl⟩
  | inspected => exact ⟨_, _, hlawful.isCoherent, fun _ ↦ rfl⟩

/-- A module is added under a new name. -/
theorem nodup_of_resolveFrom (hnodup : (resolved.map (·.1)).Nodup)
    (h : (resolveFrom suite r resolved names).2 = .ok modules) : (modules.map (·.1)).Nodup := by
  induction names generalizing r resolved with
  | nil =>
    cases h
    exact hnodup
  | cons name names ih =>
    rw [resolveFrom] at h
    split at h
    case h_1 => cases h
    case h_2 => exact ih hnodup h
    case h_3 p hplan =>
      simp only at h
      split at h
      case h_1 => cases h
      case h_2 => exact ih (nodup_map_append_single hnodup (of_plan hplan).2.2) h

theorem nodup_of_resolveModules (h : (r.resolveModules suite).result = .ok modules) :
    (modules.map (·.1)).Nodup := by
  obtain ⟨names, -, h⟩ := Logged.result_bind_eq_ok_iff.1 h
  obtain ⟨resolved, hresolved, h⟩ := Logged.result_bind_eq_ok_iff.1 h
  cases h
  refine nodup_of_resolveFrom ?_ hresolved
  exact List.nodup_nil

end Registry

end ActorFacade
