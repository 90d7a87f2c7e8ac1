import ActorFacade.CommandLine.Complaint
import ActorFacade.Proofs.Environment
import ActorFacade.Proofs.Registry.Settling
import ActorFacade.Proofs.Suite.Listing

/-! # Making the modules of suites that were read

A suite that was read names its modules by different texts.  Making its modules gives one provider
for each name in order, or it fails at the first name whose provider cannot be made
(`result_resolveFrom_eq_error_iff`).  Such a failure is about the suite, with two exceptions: the
module of a reference has no name or one that is relative to nothing, or the failure is one of an
object itself (`resolveModules_of_ofValue`).
-/

namespace ActorFacade

/-! ## Suites -/

namespace Suite

/-- Modules that are listed by texts are named by these. -/
theorem moduleNames_of_items {suite : Suite} {names : List Text}
    (h : suite.moduleItems = .ok (names.map .text)) : suite.moduleNames = names := by
  have htext (name : Text) : (Value.text name).text? = some name := rfl
  rw [moduleNames, h]
  simp [List.filterMap_map, htext]

/-- A suite that was read names its modules by different texts, and has options for each. -/
theorem names_of_ofValue {α : Type} [Inspectable α] {v : α} {path : Option Text} {suite : Suite}
    (h : ofValue v path = .ok suite) :
    suite.moduleItems = .ok (suite.moduleNames.map .text) ∧ suite.moduleNames.Nodup ∧
      ∀ name, ∃ options, suite.optionsOf name = .ok options := by
  unfold ofValue at h
  split at h
  case h_1 => cases h
  case h_2 es _ =>
    obtain ⟨className, -, h⟩ := bind_eq_ok_iff.1 h
    obtain ⟨given, -, h⟩ := bind_eq_ok_iff.1 h
    obtain ⟨modules, hmodules, h⟩ := bind_eq_ok_iff.1 h
    obtain ⟨space, -, h⟩ := bind_eq_ok_iff.1 h
    obtain ⟨read, -, rfl⟩ := readModules_eq_ok_iff.1 hmodules
    have hitems : suite.moduleItems = .ok (((read.foldl addModule []).map (·.1)).map .text) := by
      cases h
      rw [List.map_map]
      rfl
    rw [moduleNames_of_items hitems]
    refine ⟨hitems, (areFirsts_foldl_addModule read).nodup, ?_⟩
    intro name
    cases h
    exact ⟨_, rfl⟩

end Suite

namespace Registry

variable {suite : Suite} {r : Registry} {resolved made : ResolvedModules} {names : List Text}
  {name : Text} {e : Fault}

/-! ## One module -/

/-- The plan for a module that is not there yet. -/
def planFor (r : Registry) (suite : Suite) (name : Text) : Except Fault Plan := do
  let object ← r.lookup name
  let options ← (suite.optionsOf name).mapError .unsuitable
  return ⟨name, object, options⟩

/-- The provider of a module that is not there yet. -/
def providerFor (r : Registry) (suite : Suite) (name : Text) : Except Fault Provider := do
  let p ← r.planFor suite name
  instantiate (r.afterLookup name).environment.hierarchy name p.object p.options

theorem plan_text (hnew : name ∉ resolved.map (·.1)) :
    r.plan suite resolved (.text name) = (r.planFor suite name).map some := by
  have hplan : r.plan suite resolved (.text name) =
      if name ∈ resolved.map (·.1) then .ok none else do
        let object ← r.lookup name
        let options ← (suite.optionsOf name).mapError .unsuitable
        return some ⟨name, object, options⟩ := rfl
  rw [hplan, if_neg hnew, planFor]
  cases r.lookup name with
  | error cause => rfl
  | ok object => cases (suite.optionsOf name).mapError Fault.unsuitable <;> rfl

theorem name_of_planFor {p : Plan} (h : r.planFor suite name = .ok p) : p.name = name := by
  obtain ⟨object, -, h⟩ := bind_eq_ok_iff.1 h
  obtain ⟨options, -, h⟩ := bind_eq_ok_iff.1 h
  cases h
  rfl

/-- Making modules ends at a module whose provider cannot be made. -/
theorem result_resolveFrom_of_error (hnew : name ∉ resolved.map (·.1))
    (h : r.providerFor suite name = .error e) (values : List Value) :
    (resolveFrom suite r resolved (.text name :: values)).2 = .error e := by
  rw [resolveFrom, plan_text hnew]
  rw [providerFor] at h
  cases hplan : r.planFor suite name with
  | error cause =>
    rw [hplan] at h
    cases h
    rfl
  | ok p =>
    obtain rfl := name_of_planFor hplan
    rw [hplan] at h
    have h : instantiate (r.afterLookup p.name).environment.hierarchy p.name p.object p.options =
      .error e := h
    simp only [Except.map]
    rw [h]

/-- Making modules goes on behind a module whose provider is made. -/
theorem resolveFrom_of_ok {p : Provider} (hnew : name ∉ resolved.map (·.1))
    (h : r.providerFor suite name = .ok p) :
    ∃ r', ∀ values, resolveFrom suite r resolved (.text name :: values) =
      resolveFrom suite r' (resolved ++ [(name, p)]) values := by
  obtain ⟨p, hplan, h⟩ := bind_eq_ok_iff.1 h
  obtain rfl := name_of_planFor hplan
  let looked := r.afterLookup p.name
  refine ⟨looked.withHierarchy (settleObject looked.environment.hierarchy p.object p.options), ?_⟩
  intro values
  rw [resolveFrom, plan_text hnew, hplan]
  simp only [Except.map]
  rw [h]

/-! ## All modules -/

/-- The modules whose names are new are added in order. -/
theorem map_fst_of_resolveFrom (hnodup : (resolved.map (·.1) ++ names).Nodup)
    (h : (resolveFrom suite r resolved (names.map .text)).2 = .ok made) :
    made.map (·.1) = resolved.map (·.1) ++ names := by
  induction names generalizing r resolved with
  | nil =>
    cases h
    rw [List.append_nil]
  | cons name names ih =>
    have hnew : name ∉ resolved.map (·.1) := fun hmem ↦
      (List.nodup_append.1 hnodup).2.2 name hmem name List.mem_cons_self rfl
    rw [List.map_cons] at h
    cases hmade : r.providerFor suite name with
    | error e =>
      rw [result_resolveFrom_of_error hnew hmade] at h
      cases h
    | ok p =>
      obtain ⟨r', hrest⟩ := resolveFrom_of_ok hnew hmade
      rw [hrest] at h
      rw [ih (by simpa using hnodup) h]
      simp

/-- Making modules fails if and only if it does at one of them, and all before this one are made. -/
theorem result_resolveFrom_eq_error_iff (hnodup : (resolved.map (·.1) ++ names).Nodup) :
    (resolveFrom suite r resolved (names.map .text)).2 = .error e ↔
      ∃ before name after made, names = before ++ name :: after ∧
        (resolveFrom suite r resolved (before.map .text)).2 = .ok made ∧
        (resolveFrom suite r resolved (before.map .text)).1.providerFor suite name = .error e := by
  induction names generalizing r resolved with
  | nil =>
    constructor
    · nofun
    · rintro ⟨before, name, after, -, hnames, -⟩
      simp at hnames
  | cons first names ih =>
    have hnew : first ∉ resolved.map (·.1) := fun hmem ↦
      (List.nodup_append.1 hnodup).2.2 first hmem first List.mem_cons_self rfl
    rw [List.map_cons]
    cases hfirst : r.providerFor suite first with
    | error cause =>
      rw [result_resolveFrom_of_error hnew hfirst]
      constructor
      · intro he
        cases he
        exact ⟨[], first, names, resolved, rfl, rfl, hfirst⟩
      · rintro ⟨before, name, after, made, hnames, hmade, hname⟩
        cases before with
        | nil =>
          obtain ⟨rfl, -⟩ := List.cons_eq_cons.1 hnames
          cases hfirst.symm.trans hname
          rfl
        | cons x before =>
          obtain ⟨rfl, -⟩ := List.cons_eq_cons.1 hnames
          rw [List.map_cons, result_resolveFrom_of_error hnew hfirst] at hmade
          cases hmade
    | ok p =>
      obtain ⟨r', hrest⟩ := resolveFrom_of_ok hnew hfirst
      rw [hrest, ih (by simpa using hnodup)]
      constructor
      · rintro ⟨before, name, after, made, rfl, hmade, hname⟩
        refine ⟨first :: before, name, after, made, rfl, ?_⟩
        rw [List.map_cons, hrest]
        exact ⟨hmade, hname⟩
      · rintro ⟨before, name, after, made, hnames, hmade, hname⟩
        cases before with
        | nil =>
          obtain ⟨rfl, -⟩ := List.cons_eq_cons.1 hnames
          cases hfirst.symm.trans hname
        | cons x before =>
          obtain ⟨rfl, rfl⟩ := List.cons_eq_cons.1 hnames
          rw [List.map_cons, hrest] at hmade hname
          exact ⟨before, name, after, made, rfl, hmade, hname⟩

theorem result_resolveModules {values : List Value} (h : suite.moduleItems = .ok values) :
    (r.resolveModules suite).result = (resolveFrom suite r [] values).2 := by
  have hvalues : (Logged.ofExcept (suite.moduleItems.mapError Fault.unsuitable)).result =
      .ok values := by
    rw [h]
    rfl
  rw [resolveModules, Logged.bind_of_ok hvalues]
  cases (resolveFrom suite r [] values).2 <;> rfl

/-! ## Failures -/

/-- The name of a module is a malformed reference. -/
def IsMalformed (r : Registry) (name : Text) : Prop :=
  r.source? name = some .reference ∧ Environment.IsMalformed name

/-- The provider of a module fails itself: an object on the way to it when it is looked at, or what
is called for it. -/
def FailsItself (r : Registry) (suite : Suite) (name : Text) : Prop :=
  (∃ cause, r.lookup name = .error (.malformedReference cause) ∧ cause.isOfObject = true) ∨
    ∃ p cause, r.planFor suite name = .ok p ∧
      instantiate (r.afterLookup name).environment.hierarchy name p.object p.options =
        .error (.call cause)

theorem providerFor_of_isMalformed (h : r.IsMalformed name) :
    r.providerFor suite name = .error (.malformedReference (
      if (Environment.splitReference name).1.isEmpty then .emptyName
      else .relative (Environment.splitReference name).1)) := by
  obtain ⟨hsource, hname⟩ := h
  rw [providerFor, planFor, lookup, hsource]
  simp only [Environment.lookup_of_isMalformed hname, mapError_error]
  split <;> rfl

open CommandLine (Concern)

/-- A failure to find a module is about the suite, unless its name is malformed or an object fails.
-/
theorem concern_of_lookup (h : r.lookup name = .error e) :
    Concern.ofRegistry e = .configuration ↔
      ¬r.IsMalformed name ∧ ¬∃ cause, e = .malformedReference cause ∧ cause.isOfObject = true := by
  unfold lookup at h
  split at h
  case h_1 => cases h
  case h_2 entry hsource =>
    have hname : ¬r.IsMalformed name := fun hname ↦ nomatch hsource.symm.trans hname.1
    cases hload : r.environment.load entry with
    | ok => simp [hload] at h
    | error cause =>
      rw [hload] at h
      cases h
      simp [Concern.ofRegistry, hname]
  case h_3 hsource =>
    cases hlookup : r.environment.lookup name with
    | ok => simp [hlookup] at h
    | error cause =>
      rw [hlookup] at h
      by_cases hname : Environment.IsMalformed name
      · have hmissing := Environment.isMissing_of_isMalformed hname hlookup
        simp only [mapError_error, hmissing, Bool.false_eq_true, if_false] at h
        cases h
        simp [Concern.ofRegistry, IsMalformed, hsource, hname]
      · have hlooking := Environment.failsOnly_lookup hname cause hlookup
        simp only [mapError_error] at h
        split at h
        case isTrue =>
          cases h
          simp [Concern.ofRegistry, IsMalformed, hname]
        case isFalse hmissing =>
          cases h
          simp [Concern.ofRegistry, hlooking.resolve_left hmissing]
  case h_4 hsource =>
    have hname : ¬r.IsMalformed name := fun hname ↦ nomatch hsource.symm.trans hname.1
    cases h
    simp [Concern.ofRegistry, hname]

/-- A failure to make a provider that was found is about the suite, unless what is called fails. -/
theorem concern_of_instantiate (h : Hierarchy) (name : Text) (object : Provider) (options : Value) :
    FailsOnly (fun e ↦ Concern.ofRegistry e = .configuration ↔ ¬∃ cause, e = .call cause)
      (instantiate h name object options) := by
  have hnotMade (cause : CallError) : Concern.ofRegistry (notMade name cause) = .configuration ↔
      ¬∃ cause', notMade name cause = .call cause' := by
    unfold notMade
    split <;> simp [Concern.ofRegistry]
  unfold instantiate
  simp only
  split
  · exact .mapError fun cause _ ↦ hnotMade cause
  · exact .mapError fun cause _ ↦ hnotMade cause
  · apply FailsOnly.map
    unfold requireClass
    split
    · split
      · split
        · exact .ok ()
        · exact .error (by simp [Concern.ofRegistry])
      · exact .ok ()
    · exact .ok ()

/-- A failure to make the provider of a module is about the suite, unless the name of the module is
malformed or the provider fails itself. -/
theorem concern_of_providerFor (hoptions : ∃ options, suite.optionsOf name = .ok options)
    (h : r.providerFor suite name = .error e) :
    Concern.ofRegistry e = .configuration ↔ ¬r.IsMalformed name ∧ ¬r.FailsItself suite name := by
  obtain ⟨options, hoptions⟩ := hoptions
  unfold providerFor planFor at h
  unfold FailsItself planFor
  rw [hoptions] at h ⊢
  cases hlookup : r.lookup name with
  | error cause =>
    rw [hlookup] at h
    cases h
    rw [concern_of_lookup hlookup]
    simp [bind, Except.bind]
  | ok object =>
    have hname : ¬r.IsMalformed name := by
      rintro ⟨hsource, hname⟩
      rw [lookup, hsource] at hlookup
      simp [Environment.lookup_of_isMalformed hname] at hlookup
    rw [hlookup] at h
    have h : instantiate (r.afterLookup name).environment.hierarchy name object options =
      .error e := h
    have hconcern : Concern.ofRegistry e = .configuration ↔ ¬∃ cause, e = .call cause :=
      concern_of_instantiate _ _ _ _ e h
    rw [hconcern]
    simp [bind, Except.bind, pure, Except.pure, hname, h]

/-- Making the modules of a suite that was read gives one provider for each name in order, or it
fails at the first one whose provider cannot be made.  The failure is about the suite, unless the
name is a malformed reference or the provider fails itself; a malformed reference fails in its own
way, which is not about the suite. -/
theorem resolveModules_of_ofValue {α : Type} [Inspectable α] {v : α} {path : Option Text}
    (hsuite : Suite.ofValue v path = .ok suite) (r : Registry) :
    (∀ modules, (r.resolveModules suite).result = .ok modules →
      modules.map (·.1) = suite.moduleNames ∧ suite.moduleNames.Nodup) ∧
    ∀ e, ((r.resolveModules suite).result = .error e ↔
        ∃ before name after made, suite.moduleNames = before ++ name :: after ∧
          (resolveFrom suite r [] (before.map .text)).2 = .ok made ∧
          (resolveFrom suite r [] (before.map .text)).1.providerFor suite name = .error e) ∧
      ∀ (r' : Registry) (name : Text), r'.providerFor suite name = .error e →
        (Concern.ofRegistry e = .configuration ↔
          ¬r'.IsMalformed name ∧ ¬r'.FailsItself suite name) ∧
        (r'.IsMalformed name → e = .malformedReference (
          if (Environment.splitReference name).1.isEmpty then .emptyName
          else .relative (Environment.splitReference name).1)) := by
  obtain ⟨hitems, hnodup, hoptions⟩ := Suite.names_of_ofValue hsuite
  rw [result_resolveModules hitems]
  have hnew : (([] : ResolvedModules).map (·.1) ++ suite.moduleNames).Nodup := hnodup
  refine ⟨?_, fun e ↦ ⟨result_resolveFrom_eq_error_iff hnew, ?_⟩⟩
  · intro modules hmodules
    exact ⟨map_fst_of_resolveFrom hnew hmodules, hnodup⟩
  · intro r' name he
    refine ⟨concern_of_providerFor (hoptions name) he, ?_⟩
    intro hname
    rw [providerFor_of_isMalformed hname] at he
    exact (Except.error.inj he).symm

/-- What describes a suite with the modules of some names. -/
def descriptionOf (names : List Text) : Value :=
  .dict [(.text "class_name", .text "A"), (.text "modules", .list (names.map .text))]

/-- A reference without the name of a module, behind the one to a class that is made. -/
theorem resolveModules_of_ofValue_empty :
    ∃ suite, Suite.ofValue (descriptionOf ["m:User", ":X"]) = .ok suite ∧
      (restrictedRegistry.resolveModules suite).result = .error (.malformedReference .emptyName) ∧
      Concern.ofRegistry (.malformedReference .emptyName) = .other := by
  obtain ⟨suite, hsuite⟩ : ∃ suite, Suite.ofValue (descriptionOf ["m:User", ":X"]) = .ok suite :=
    ⟨_, rfl⟩
  refine ⟨suite, hsuite, ?_, rfl⟩
  obtain ⟨-, hfails⟩ := resolveModules_of_ofValue hsuite restrictedRegistry
  cases hsuite
  refine (hfails _).1.2 ⟨["m:User"], ":X", [], [("m:User", .instance (.declared "m" "User"))], ?_⟩
  exact ⟨rfl, by decide +kernel, by decide +kernel⟩

/-- References to a module without a name and to a relative one fail in a way that is not about the
suite. -/
theorem concern_malformed :
    (∃ suite, Suite.ofValue (descriptionOf [":X"]) = .ok suite ∧
      (({} : Registry).resolveModules suite).result = .error (.malformedReference .emptyName)) ∧
    (∃ suite, Suite.ofValue (descriptionOf [".pkg:X"]) = .ok suite ∧
      (({} : Registry).resolveModules suite).result =
        .error (.malformedReference (.relative ".pkg"))) ∧
    Concern.ofRegistry (.malformedReference .emptyName) = .other ∧
    Concern.ofRegistry (.malformedReference (.relative ".pkg")) = .other :=
  ⟨⟨_, rfl, rfl⟩, ⟨_, rfl, rfl⟩, rfl, rfl⟩

end Registry

end ActorFacade
