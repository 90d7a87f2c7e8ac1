import ActorFacade.CommandLine.Complaint
import ActorFacade.Proofs.Actor.Resolution
import ActorFacade.Proofs.Literal.Refusal
import ActorFacade.Proofs.Signature

/-! # Renderings that meet a default without a literal

While an actor is rendered, defaults are written for the signatures of its methods, and then for
those of the methods that it inherits.  A rendering fails at the first default that is met and has
no literal, and no other rendering fails in this way (`produceWith_eq_error_iff`).  Such a failure
is about the suite only where the default is one of an operation and of a type without literals.
-/

namespace ActorFacade.Actor

open CommandLine (Concern)
open Literal (WriteError)
open Signature (IsReached refusal?)

variable {ρ : Type} {s : Source ρ} {r : Registry} {o : Options} {suite : Suite}
  {modules : ResolvedModules} {table : ActionTable} {methods : List ActorMethod}
  {operation module : Text} {e : Fault}

/-! ## Places of defaults -/

/-- Whether a failure is one to write a text for a value. -/
def Fault.isOfWriting : Fault → Bool
  | .signature .. | .inherited .. | .limit _ => true
  | _ => false

/-- Where a default is written. -/
inductive Place where
  /-- In the signature of an operation of a module. -/
  | operation (operation module : Text)
  /-- In the signature of an inherited method. -/
  | inherited
deriving DecidableEq, Repr

/-- The failure to write the default of a parameter. -/
def Place.fault (place : Place) (p : Parameter) : WriteError → Fault
  | .limit e => .limit e
  | .unsupported typeName =>
    match place with
    | .operation operation module => .signature operation module p.name typeName
    | .inherited => .inherited p.name typeName

/-- While an actor is rendered, a parameter is written at some place: everything that is done before
has succeeded. -/
inductive Meets (s : Source ρ) (r : Registry) (o : Options) (suite : Suite) :
    Place → Parameter → Prop
  /-- The methods of the rows before that of an operation are there, and none has its name. -/
  | operation {modules : ResolvedModules} {before after : ActionTable}
    {row : Text × Text} {methods : List ActorMethod} {provider : Text × Provider} {t : ρ}
    {m : MethodMetadata ρ} {p : Parameter} (hsuite : check suite = .ok ())
    (hsurvey : (survey r s suite).result = .ok (modules, before ++ row :: after))
    (hcollected : (collectMethods s modules before).result = .ok methods)
    (hnew : row.1 ∉ methods.map (·.action))
    (hprovider : modules.find? (fun m ↦ m.1 == row.2) = some provider)
    (htype : s.typeOf provider.2 = .ok t) (hresolved : s.resolve t row.1 = .ok m)
    (hreached : IsReached m.parameters p) : Meets s r o suite (.operation row.1 row.2) p
  /-- All methods are there, and so is what stands before the inherited ones. -/
  | inherited {modules : ResolvedModules} {table : ActionTable} {methods : List ActorMethod}
    {uses : List Text} {space hash name : Text} {p : Parameter}
    (hsuite : check suite = .ok ())
    (hsurvey : (survey r s suite).result = .ok (modules, table))
    (hcollected : (collectMethods s modules table).result = .ok methods)
    (huses : modules.mapM (fun m ↦ useLine s m.2) = .ok uses)
    (hspace : suite.qualifiedSpace = .ok space) (hhash : stamp o suite table = .ok hash)
    (hname : className suite = .ok name)
    (hreached : IsReached ((Inherited.listed o.base).flatMap (·.parameters)) p) :
    Meets s r o suite .inherited p

/-! ## Operations -/

theorem ofMetadata_eq_error_iff {m : MethodMetadata ρ} {f : Signature.Failure} :
    ActorMethod.ofMetadata m module = .error f ↔
      ∃ p cause, IsReached m.parameters p ∧ refusal? p = some cause ∧
        f = Signature.Failure.ofDefault p cause := by
  have hparams : failure? (ActorMethod.ofMetadata m module) =
      failure? (Signature.ofParameters m.parameters m.declaringName) := failure?_bind_ok _ _
  rw [← failure?_eq_some_iff, hparams, failure?_eq_some_iff, Signature.ofParameters_eq_error_iff]

/-- The methods of an operation cannot be written because of the first default without a literal. -/
theorem methodsOf_eq_error_iff (he : e.isOfWriting = true) :
    methodsOf s modules operation module = .error e ↔
      ∃ provider t m p cause, modules.find? (fun m ↦ m.1 == module) = some provider ∧
        s.typeOf provider.2 = .ok t ∧ s.resolve t operation = .ok m ∧ IsReached m.parameters p ∧
        refusal? p = some cause ∧ e = (Place.operation operation module).fault p cause := by
  unfold methodsOf
  cases hprovider : modules.find? fun m ↦ m.1 == module with
  | none =>
    constructor
    · intro h
      cases h
      cases he
    · rintro ⟨provider, _, _, _, _, hnone, -⟩
      cases hnone
  | some provider =>
    constructor
    · intro h
      rcases bind_eq_error_iff.1 h with h | ⟨t, htype, h⟩
      · obtain ⟨_, -, rfl⟩ := mapError_eq_error_iff.1 h
        cases he
      rcases bind_eq_error_iff.1 h with h | ⟨m, hresolved, h⟩
      · obtain ⟨_, -, rfl⟩ := mapError_eq_error_iff.1 h
        cases he
      obtain ⟨f, hf, rfl⟩ := mapError_eq_error_iff.1 h
      obtain ⟨p, cause, hreached, hcause, rfl⟩ := ofMetadata_eq_error_iff.1 hf
      refine ⟨provider, t, m, p, cause, rfl, mapError_eq_ok_iff.1 htype,
        mapError_eq_ok_iff.1 hresolved, hreached, hcause, ?_⟩
      cases cause <;> rfl
    · rintro ⟨_, t, m, p, cause, hsome, htype, hresolved, hreached, hcause, rfl⟩
      cases hsome
      refine bind_eq_error_iff.2 (.inr ⟨t, mapError_eq_ok_iff.2 htype, ?_⟩)
      refine bind_eq_error_iff.2 (.inr ⟨m, mapError_eq_ok_iff.2 hresolved, ?_⟩)
      refine mapError_eq_error_iff.2
        ⟨_, ofMetadata_eq_error_iff.2 ⟨p, cause, hreached, hcause, rfl⟩, ?_⟩
      cases cause <;> rfl

theorem addOperation_eq_error_iff {row : Text × Text} :
    (addOperation s modules methods row).result = .error e ↔
      row.1 ∉ methods.map (·.action) ∧ methodsOf s modules row.1 row.2 = .error e := by
  -- Methods that are there are added or left out, which does not fail.
  have hadded (ms : List ActorMethod) :
      FailsOnly (fun _ : Fault ↦ False) (ms.foldlM addMethod methods).result := by
    apply Logged.failsOnly_foldlM
    intro m _ methods
    unfold addMethod
    split <;> exact .ok _
  unfold addOperation
  split
  case isTrue hmem =>
    constructor
    · nofun
    · rintro ⟨hnew, -⟩
      exact absurd hmem hnew
  case isFalse hnew =>
    rw [Logged.result_bind_eq_error_iff]
    constructor
    · rintro (h | ⟨ms, -, h⟩)
      · exact ⟨hnew, h⟩
      · exact (hadded ms e h).elim
    · rintro ⟨-, h⟩
      exact .inl h

/-- Collecting methods fails at the first row whose operation has no method and can have none. -/
theorem collectMethods_eq_error_iff :
    (collectMethods s modules table).result = .error e ↔
      ∃ before row after methods, table = before ++ row :: after ∧
        (collectMethods s modules before).result = .ok methods ∧
        row.1 ∉ methods.map (·.action) ∧ methodsOf s modules row.1 row.2 = .error e := by
  unfold collectMethods
  simp only [Logged.result_foldlM_eq_error_iff, addOperation_eq_error_iff]

/-! ## Inherited methods -/

theorem inheritedBlock_eq_error_iff {base : TypeDeclaration} :
    inheritedBlock base = .error e ↔
      ∃ p cause, IsReached ((Inherited.listed base).flatMap (·.parameters)) p ∧
        refusal? p = some cause ∧ e = Place.inherited.fault p cause := by
  unfold inheritedBlock
  rw [mapError_eq_error_iff]
  simp only [Inherited.lines_eq_error_iff]
  constructor
  · rintro ⟨_, ⟨p, cause, hreached, hcause, rfl⟩, rfl⟩
    refine ⟨p, cause, hreached, hcause, ?_⟩
    cases cause <;> rfl
  · rintro ⟨p, cause, hreached, hcause, rfl⟩
    refine ⟨_, ⟨p, cause, hreached, hcause, rfl⟩, ?_⟩
    cases cause <;> rfl

theorem failsOnly_useLines (s : Source ρ) (modules : ResolvedModules) :
    FailsOnly (·.isOfWriting = false) (modules.mapM fun m ↦ useLine s m.2) := by
  apply FailsOnly.mapM
  intro m _
  exact FailsOnly.bind (.mapError fun _ _ ↦ rfl) fun t _ ↦ .ok _

/-- A text cannot be rendered because something in it cannot be written if and only if all in front
of the name of the class is there, and either that name cannot be written or the inherited methods
cannot be listed. -/
theorem render_eq_error_iff (he : e.isOfWriting = true) :
    render s o suite modules table methods = .error e ↔
      ∃ uses space hash, modules.mapM (fun m ↦ useLine s m.2) = .ok uses ∧
        suite.qualifiedSpace = .ok space ∧ stamp o suite table = .ok hash ∧
        (className suite = .error e ∨
          ∃ name, className suite = .ok name ∧ inheritedBlock o.base = .error e) := by
  unfold render
  constructor
  · intro h
    rcases bind_eq_error_iff.1 h with h | ⟨uses, huses, h⟩
    · cases he.symm.trans (failsOnly_useLines s modules e h)
    rcases bind_eq_error_iff.1 h with h | ⟨space, hspace, h⟩
    · obtain ⟨_, -, rfl⟩ := mapError_eq_error_iff.1 h
      cases he
    rcases bind_eq_error_iff.1 h with h | ⟨hash, hhash, h⟩
    · obtain ⟨_, -, rfl⟩ := mapError_eq_error_iff.1 h
      cases he
    refine ⟨uses, space, hash, huses, mapError_eq_ok_iff.1 hspace, hhash, ?_⟩
    rcases bind_eq_error_iff.1 h with h | ⟨name, hname, h⟩
    · exact .inl h
    rcases bind_eq_error_iff.1 h with h | ⟨inherited, -, h⟩
    · exact .inr ⟨name, hname, h⟩
    · cases h
  · rintro ⟨uses, space, hash, huses, hspace, hhash, h⟩
    refine bind_eq_error_iff.2 (.inr ⟨uses, huses, ?_⟩)
    refine bind_eq_error_iff.2 (.inr ⟨space, mapError_eq_ok_iff.2 hspace, ?_⟩)
    refine bind_eq_error_iff.2 (.inr ⟨hash, hhash, ?_⟩)
    rcases h with hname | ⟨name, hname, h⟩
    · exact bind_eq_error_iff.2 (.inl hname)
    · exact bind_eq_error_iff.2 (.inr ⟨name, hname, bind_eq_error_iff.2 (.inl h)⟩)

/-! ## Renderings -/

/-- A survey fails only in the registry. -/
theorem failsOnly_survey_of_registry {P : Fault → Prop} (hP : ∀ cause, P (.registry cause))
    (s : Source ρ) (r : Registry) (suite : Suite) : FailsOnly P (survey r s suite).result := by
  unfold survey
  refine Logged.failsOnly_bind (.mapError fun _ _ ↦ hP _) fun modules _ ↦ ?_
  exact Logged.failsOnly_bind (.mapError fun _ _ ↦ hP _) fun table _ ↦ .ok _

/-- A rendering fails in its stages: the survey of the suite is there when methods are collected,
and the methods are there when the text is rendered. -/
theorem produceWith_eq_error_iff_stages (he : e.isOfWriting = true) :
    (produceWith s r o suite).result = .error e ↔
      check suite = .ok () ∧ ∃ modules table,
        (survey r s suite).result = .ok (modules, table) ∧
          ((collectMethods s modules table).result = .error e ∨
            ∃ methods, (collectMethods s modules table).result = .ok methods ∧
              render s o suite modules table methods = .error e) := by
  unfold produceWith
  constructor
  · intro h
    rcases Logged.result_bind_eq_error_iff.1 h with h | ⟨_, hcheck, h⟩
    · have hother : FailsOnly (·.isOfWriting = false) (check suite) :=
        failsOnly_check (fun _ ↦ rfl) suite
      cases he.symm.trans (hother e h)
    rcases Logged.result_bind_eq_error_iff.1 h with h | ⟨_, -, h⟩
    · cases h
    rcases Logged.result_bind_eq_error_iff.1 h with h | ⟨⟨modules, table⟩, hsurvey, h⟩
    · have hother : FailsOnly (·.isOfWriting = false) (survey r s suite).result :=
        failsOnly_survey_of_registry (fun _ ↦ rfl) s r suite
      cases he.symm.trans (hother e h)
    refine ⟨hcheck, modules, table, hsurvey, ?_⟩
    rcases Logged.result_bind_eq_error_iff.1 h with h | ⟨_, -, h⟩
    · cases h
    rcases Logged.result_bind_eq_error_iff.1 h with h | ⟨methods, hmethods, h⟩
    · exact .inl h
    rcases Logged.result_bind_eq_error_iff.1 h with h | ⟨_, -, h⟩
    · exact .inr ⟨methods, hmethods, h⟩
    · cases h
  · rintro ⟨hcheck, modules, table, hsurvey, h⟩
    refine Logged.result_bind_eq_error_iff.2 (.inr ⟨(), hcheck, ?_⟩)
    refine Logged.result_bind_eq_error_iff.2 (.inr ⟨(), rfl, ?_⟩)
    refine Logged.result_bind_eq_error_iff.2 (.inr ⟨(modules, table), hsurvey, ?_⟩)
    refine Logged.result_bind_eq_error_iff.2 (.inr ⟨(), rfl, ?_⟩)
    rcases h with h | ⟨methods, hmethods, h⟩
    · exact Logged.result_bind_eq_error_iff.2 (.inl h)
    refine Logged.result_bind_eq_error_iff.2 (.inr ⟨methods, hmethods, ?_⟩)
    exact Logged.result_bind_eq_error_iff.2 (.inl h)

theorem Place.isOfWriting_fault (place : Place) (p : Parameter) (cause : WriteError) :
    (place.fault p cause).isOfWriting = true := by
  cases cause with
  | unsupported => cases place <;> rfl
  | limit => rfl

/-- A rendering that meets a default without a literal fails. -/
theorem result_of_meets {place : Place} {p : Parameter} {cause : WriteError}
    (h : Meets s r o suite place p) (hcause : refusal? p = some cause) :
    (produceWith s r o suite).result = .error (place.fault p cause) := by
  have he := place.isOfWriting_fault p cause
  rw [produceWith_eq_error_iff_stages he]
  cases h with
  | operation hsuite hsurvey hcollected hnew hprovider htype hresolved hreached =>
    refine ⟨hsuite, _, _, hsurvey, .inl ?_⟩
    refine collectMethods_eq_error_iff.2 ⟨_, _, _, _, rfl, hcollected, hnew, ?_⟩
    exact (methodsOf_eq_error_iff he).2
      ⟨_, _, _, p, cause, hprovider, htype, hresolved, hreached, hcause, rfl⟩
  | inherited hsuite hsurvey hcollected huses hspace hhash hname hreached =>
    refine ⟨hsuite, _, _, hsurvey, .inr ⟨_, hcollected, ?_⟩⟩
    refine (render_eq_error_iff he).2 ⟨_, _, _, huses, hspace, hhash, .inr ⟨_, hname, ?_⟩⟩
    exact inheritedBlock_eq_error_iff.2 ⟨p, cause, hreached, hcause, rfl⟩

/-- A rendering that fails to write something meets a default without a literal, unless it is the
name of the class that cannot be written. -/
theorem exists_meets_of_result (he : e.isOfWriting = true)
    (h : (produceWith s r o suite).result = .error e) :
    className suite = .error e ∨ ∃ place p cause, Meets s r o suite place p ∧
      refusal? p = some cause ∧ e = place.fault p cause := by
  obtain ⟨hsuite, modules, table, hsurvey, h⟩ := (produceWith_eq_error_iff_stages he).1 h
  rcases h with h | ⟨methods, hmethods, h⟩
  · obtain ⟨before, row, after, methods, rfl, hcollected, hnew, h⟩ :=
      collectMethods_eq_error_iff.1 h
    obtain ⟨provider, t, m, p, cause, hprovider, htype, hresolved, hreached, hcause, rfl⟩ :=
      (methodsOf_eq_error_iff he).1 h
    exact .inr ⟨_, p, cause, .operation hsuite hsurvey hcollected hnew hprovider htype hresolved
      hreached, hcause, rfl⟩
  · obtain ⟨uses, space, hash, huses, hspace, hhash, h⟩ := (render_eq_error_iff he).1 h
    rcases h with hname | ⟨name, hname, h⟩
    · exact .inl hname
    obtain ⟨p, cause, hreached, hcause, rfl⟩ := inheritedBlock_eq_error_iff.1 h
    exact .inr ⟨_, p, cause, .inherited hsuite hsurvey hmethods huses hspace hhash hname hreached,
      hcause, rfl⟩

/-- A failure to write a default is about the suite if and only if it is the default of an operation
and a part of it is of a type without literals. -/
theorem concern_fault (place : Place) (p : Parameter) (cause : WriteError) :
    Concern.ofActor (place.fault p cause) = .configuration ↔
      ∃ operation module typeName, place = .operation operation module ∧
        cause = .unsupported typeName := by
  cases cause with
  | limit => simp [Place.fault, Concern.ofActor]
  | unsupported => cases place <;> simp [Place.fault, Concern.ofActor]

/-- A rendering that meets a default without a literal fails, and so it does only then, if it fails
to write something other than the name of the class.  The default has no literal because one of its
leaves has none, such as an integer with too many digits, and the failure is that of the first such
leaf.  It is about the suite if and only if the default is one of an operation and the leaf is of a
type without literals; it then names the operation, the module and the parameter. -/
theorem produceWith_of_meets :
    (∀ place p cause, Meets s r o suite place p → refusal? p = some cause →
      (produceWith s r o suite).result = .error (place.fault p cause)) ∧
    (∀ e : Fault, e.isOfWriting = true → (produceWith s r o suite).result = .error e →
      className suite = .error e ∨ ∃ place p cause, Meets s r o suite place p ∧
        refusal? p = some cause ∧ e = place.fault p cause) ∧
    (∀ p cause, refusal? p = some cause ↔ p.optional = true ∧ Signature.constant? p = none ∧
      p.default.leaves.findSome? Literal.refusal? = some cause) ∧
    (∀ n, Literal.refusal? (.int n) =
      if Integer.isTooLong n then some (.limit .write) else none) ∧
    (∀ (place : Place) p cause, Concern.ofActor (place.fault p cause) = .configuration ↔
      ∃ operation module typeName, place = .operation operation module ∧
        cause = .unsupported typeName) ∧
    ∀ operation module p typeName,
      ((Place.operation operation module).fault p (.unsupported typeName)).message =
        "Cannot render '" ++ operation ++ "' of module '" ++ module ++ "': parameter '$" ++
          p.name ++ "': Cannot encode default value of type " ++ typeName := by
  refine ⟨fun _ _ _ ↦ result_of_meets, fun _ ↦ exists_meets_of_result, ?_, Literal.refusal?_int,
    concern_fault, ?_⟩
  · intro p cause
    rw [Signature.refusal?_eq_some_iff, ← Literal.failure?_write, failure?_eq_some_iff]
  · intro operation module p typeName
    have hparameter : Text.ofString "': parameter '$" =
      Text.ofString "': " ++ Text.ofString "parameter '$" := by decide
    have htype : Text.ofString "': Cannot encode default value of type " =
      Text.ofString "': " ++ Text.ofString "Cannot encode default value of type " := by decide
    simp only [Place.fault, Fault.message, Signature.Failure.message, Literal.WriteError.message,
      hparameter, htype, List.append_assoc]

/-- A value with bytes inside, which have no literal. -/
def deepBytes : Value := .list [.int 1, .dict [(.text "a", .tuple [.atom (.bytes [])])]]

/-- A parameter with a given default. -/
def parameterOf (v : Value) : Parameter := { name := "x", optional := true, default := v }

/-- A source with an operation that has such a parameter behind another one. -/
def sourceOfDefault (v : Value) : Source Unit :=
  sourceOfType "T" ["login"] [{ name := "user" }, parameterOf v] []

/-- The default of this operation is met while an actor is rendered. -/
theorem meets_sourceOfDefault (v : Value) :
    Meets (sourceOfDefault v) registryOfModule {} (suiteOfModule "A") (.operation "login" "M")
      (parameterOf v) := by
  have hsurvey : (survey registryOfModule (sourceOfDefault v) (suiteOfModule "A")).result =
      .ok ([("M", .handle "T" .null .null)],
        [] ++ (Text.ofString "login", Text.ofString "M") :: []) := rfl
  have hresolved : (sourceOfDefault v).resolve () "login" =
      .ok ⟨"login", (), "T", [{ name := "user" }, parameterOf v], []⟩ := rfl
  refine .operation rfl hsurvey rfl List.not_mem_nil rfl rfl hresolved ?_
  refine ⟨[{ name := "user" }], [], rfl, ?_⟩
  rw [List.forall_mem_singleton]
  rfl

/-- A default with bytes inside fails in a way that is about the suite. -/
theorem produceWith_of_meets_deepBytes :
    Meets (sourceOfDefault deepBytes) registryOfModule {} (suiteOfModule "A")
      (.operation "login" "M") (parameterOf deepBytes) ∧
    refusal? (parameterOf deepBytes) = some (.unsupported "bytes") ∧
    (produceWith (sourceOfDefault deepBytes) registryOfModule {} (suiteOfModule "A")).result =
      .error (.signature "login" "M" "x" "bytes") ∧
    Concern.ofActor (.signature "login" "M" "x" "bytes") = .configuration := by
  obtain ⟨hfails, -, hrefusal, -, hconcern, -⟩ :=
    @produceWith_of_meets Unit (sourceOfDefault deepBytes) registryOfModule {} (suiteOfModule "A")
  have hmeets := meets_sourceOfDefault deepBytes
  have hrefused : refusal? (parameterOf deepBytes) = some (.unsupported "bytes") :=
    (hrefusal _ _).2 ⟨rfl, rfl, by decide +kernel⟩
  exact ⟨hmeets, hrefused, hfails _ _ _ hmeets hrefused,
    (hconcern (.operation "login" "M") (parameterOf deepBytes) (.unsupported "bytes")).2
      ⟨_, _, _, rfl, rfl⟩⟩

/-- A base with a method that has a parameter with a given default. -/
def baseOfDefault (v : Value) : TypeDeclaration where
  name := "B"
  methods := [{ name := "bad", parameters := [parameterOf v] }]

/-- An integer with one digit too many. -/
def longInt : Value := .int (Int.ofNat (Nat.pow 10 4300))

/-- Bytes in a default of an inherited method, and an integer with too many digits in one of an
operation, fail in a way that is not about the suite. -/
theorem concern_unwritable :
    ((produceWith (sourceOfDefault .null) registryOfModule { base := baseOfDefault deepBytes }
        (suiteOfModule "A")).result = .error (.inherited "x" "bytes") ∧
      Concern.ofActor (.inherited "x" "bytes") = .other) ∧
    (produceWith (sourceOfDefault longInt) registryOfModule {} (suiteOfModule "A")).result =
        .error (.limit .write) ∧
      Concern.ofActor (.limit .write) = .other := by
  decide +kernel

end ActorFacade.Actor
