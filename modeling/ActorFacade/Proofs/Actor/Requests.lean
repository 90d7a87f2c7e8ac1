import ActorFacade.Proofs.Actor.Identity
import ActorFacade.Proofs.Registry.Settling

/-! # Generators between requests

Whatever a generator is asked for, its methods are those of the last rendering that succeeded, which
was made of the suite and the declared types as they were at that time (`methods_after`).  A
rendering that fails, for whatever reason, leaves all as it was, but for the classes that making the
modules changes.
-/

namespace ActorFacade.Generator

open Actor (Rendered)

variable {g : Generator} {suite : Suite} {registry : Registry} {o : Actor.Options}
  {requests before : List Request} {rendered : Rendered}

/-! ## Suites and registries -/

namespace Request

/-- A suite after a request: its parts are given values. -/
def suiteAfter (suite : Suite) : Request → Suite
  | .set part v => (suite.set part v).toOption.getD suite
  | .produce | .fingerprint | .declare _ => suite

/-- A registry after a request, but for its classes: declarations are added. -/
def registryAfter (r : Registry) : Request → Registry
  | .declare d =>
    match r.kind with
    | .declared => { r with types := r.types.add d }
    | .inspected => r
  | .produce | .fingerprint | .set _ _ => r

end Request

/-- A suite after some requests. -/
def suiteAfter (suite : Suite) (requests : List Request) : Suite :=
  requests.foldl Request.suiteAfter suite

/-- A registry after some requests, but for its classes. -/
def registryAfter (r : Registry) (requests : List Request) : Registry :=
  requests.foldl Request.registryAfter r

/-- A generator with a given suite, given options and a given registry, of which the classes may
have changed. -/
structure IsOf (g : Generator) (suite : Suite) (registry : Registry) (o : Actor.Options) :
    Prop where
  suite : g.suite = suite
  registry : ∃ h, g.registry = registry.withHierarchy h
  options : g.options = o

theorem settled_eq (g : Generator) :
    ∃ h, g.settled = { g with registry := g.registry.withHierarchy h } := by
  obtain ⟨h, hr⟩ := g.registry.settled_eq_withHierarchy g.suite
  exact ⟨h, by rw [settled, hr]⟩

theorem IsOf.settled (hg : g.IsOf suite registry o) : g.settled.IsOf suite registry o := by
  obtain ⟨hsuite, ⟨h, hregistry⟩, hoptions⟩ := hg
  obtain ⟨h', he⟩ := g.settled_eq
  rw [he]
  exact ⟨hsuite, ⟨h', by rw [hregistry]; rfl⟩, hoptions⟩

theorem IsOf.afterProduce (hg : g.IsOf suite registry o) :
    g.afterProduce.IsOf suite registry o := by
  unfold Generator.afterProduce
  split
  case isTrue => exact hg
  case isFalse =>
    split
    case h_1 => exact ⟨hg.settled.suite, hg.settled.registry, hg.settled.options⟩
    case h_2 => exact hg.settled

/-- Requests change what they say. -/
theorem IsOf.handle (hg : g.IsOf suite registry o) (request : Request) :
    (g.handle request).1.IsOf (request.suiteAfter suite) (request.registryAfter registry) o := by
  cases request with
  | produce => exact hg.afterProduce
  | fingerprint => exact hg.settled
  | declare d =>
    obtain ⟨hsuite, ⟨h, hregistry⟩, hoptions⟩ := hg
    have hkind : g.registry.kind = registry.kind := by
      rw [hregistry]
      rfl
    cases hd : registry.kind with
    | declared =>
      simp only [Generator.handle, Request.registryAfter, hkind, hd]
      exact ⟨hsuite, ⟨h, by simp only [declare, hregistry, Registry.withHierarchy, hd]⟩, hoptions⟩
    | inspected =>
      simp only [Generator.handle, Request.registryAfter, hkind, hd]
      exact ⟨hsuite, ⟨h, hregistry⟩, hoptions⟩
  | set part v =>
    obtain ⟨rfl, hregistry, hoptions⟩ := hg
    simp only [Generator.handle, Request.suiteAfter, Request.registryAfter]
    cases g.suite.set part v with
    | ok suite => exact ⟨rfl, hregistry, hoptions⟩
    | error e => exact ⟨rfl, hregistry, hoptions⟩

theorem IsOf.after (hg : g.IsOf suite registry o) (requests : List Request) :
    (g.after requests).IsOf (suiteAfter suite requests) (registryAfter registry requests) o := by
  induction requests generalizing g suite registry with
  | nil => exact hg
  | cons request requests ih => exact ih (hg.handle request)

theorem eq_of_create (h : create suite registry o = .ok g) :
    g = { suite, registry, options := o } := by
  obtain ⟨_, -, hg⟩ := bind_eq_ok_iff.1 h
  cases hg
  rfl

theorem isOf_of_create (h : create suite registry o = .ok g) : g.IsOf suite registry o := by
  rw [eq_of_create h]
  exact ⟨rfl, ⟨registry.environment.hierarchy, rfl⟩, rfl⟩

/-! ## Methods -/

theorem defect?_of_produce (h : g.produce.result = .ok rendered) : g.suite.defect? = none := by
  obtain ⟨ρ, s, hs⟩ := (g.registry.settled g.suite).exists_source
  rw [produce, Actor.produce, hs] at h
  obtain ⟨_, hcheck, -⟩ := Logged.result_bind_eq_ok_iff.1 h
  have hcheck : Actor.check g.suite = .ok _ := hcheck
  unfold Actor.check at hcheck
  split at hcheck
  case h_1 => cases hcheck
  case h_2 hdefect => exact hdefect

theorem methods_afterProduce (h : g.produce.result = .ok rendered) :
    g.afterProduce.methods = rendered.methods := by
  rw [afterProduce, defect?_of_produce h, h]
  rfl

/-- A rendering that fails changes nothing but classes. -/
theorem afterProduce_of_error {e : Actor.Fault} (h : g.produce.result = .error e) :
    ∃ h, g.afterProduce = { g with registry := g.registry.withHierarchy h } := by
  unfold afterProduce
  split
  case isTrue => exact ⟨g.registry.environment.hierarchy, rfl⟩
  case isFalse =>
    rw [h]
    exact g.settled_eq

/-- Requests other than renderings that succeed change no methods. -/
theorem methods_handle {request : Request}
    (h : request = .produce → ∀ rendered, g.produce.result ≠ .ok rendered) :
    (g.handle request).1.methods = g.methods := by
  cases request with
  | produce =>
    cases hresult : g.produce.result with
    | ok rendered => exact absurd hresult (h rfl rendered)
    | error e =>
      obtain ⟨h', he⟩ := afterProduce_of_error hresult
      rw [handle, he]
  | fingerprint => rfl
  | declare d =>
    simp only [handle]
    cases g.registry.kind <;> rfl
  | set part v =>
    simp only [handle]
    cases g.suite.set part v <;> rfl

theorem after_concat (g : Generator) (requests : List Request) (request : Request) :
    g.after (requests ++ [request]) = ((g.after requests).handle request).1 := by
  rw [after, after, List.foldl_append]
  rfl

/-- One of some requests is to render the actor, and succeeds. -/
structure IsRendering (g : Generator) (requests before : List Request) (rendered : Rendered) :
    Prop where
  among : before ++ [.produce] <+: requests
  result : (g.after before).produce.result = .ok rendered

theorem isRendering_concat_iff {request : Request} :
    g.IsRendering (requests ++ [request]) before rendered ↔
      g.IsRendering requests before rendered ∨
        before = requests ∧ request = .produce ∧
          (g.after requests).produce.result = .ok rendered := by
  constructor
  · rintro ⟨hbefore, hresult⟩
    rcases List.prefix_concat_iff.1 hbefore with hlast | hbefore
    · obtain ⟨rfl, hrequest⟩ := List.append_inj' hlast rfl
      exact .inr ⟨rfl, (List.singleton_inj.1 hrequest).symm, hresult⟩
    · exact .inl ⟨hbefore, hresult⟩
  · rintro (⟨hbefore, hresult⟩ | ⟨rfl, rfl, hresult⟩)
    · exact ⟨hbefore.trans (List.prefix_append _ _), hresult⟩
    · exact ⟨List.prefix_rfl, hresult⟩

/-- The last one of some requests to render the actor that succeeds. -/
structure IsLastRendering (g : Generator) (requests before : List Request) (rendered : Rendered) :
    Prop extends g.IsRendering requests before rendered where
  last : ∀ before' rendered', g.IsRendering requests before' rendered' → before' <+: before

theorem isLastRendering_concat (hresult : (g.after requests).produce.result = .ok rendered) :
    g.IsLastRendering (requests ++ [.produce]) requests rendered := by
  refine ⟨isRendering_concat_iff.2 (.inr ⟨rfl, rfl, hresult⟩), ?_⟩
  intro before' rendered' h
  rcases isRendering_concat_iff.1 h with ⟨hbefore, -⟩ | ⟨rfl, -⟩
  · exact (List.prefix_append _ _).trans hbefore
  · exact List.prefix_rfl

/-- The methods of a generator that had none at first are those of the last rendering. -/
theorem methods_after_cases (hg : g.methods = []) (requests : List Request) :
    ((g.after requests).methods = [] ∧
        ∀ before rendered, ¬g.IsRendering requests before rendered) ∨
      ∃ before rendered, g.IsLastRendering requests before rendered ∧
        (g.after requests).methods = rendered.methods := by
  induction requests using List.reverseRecOn with
  | nil =>
    refine .inl ⟨hg, ?_⟩
    rintro before rendered ⟨hbefore, -⟩
    simp at hbefore
  | append_singleton requests request ih =>
    rw [after_concat]
    by_cases hproduced :
      request = .produce ∧ ∃ rendered, (g.after requests).produce.result = .ok rendered
    · obtain ⟨rfl, rendered, hresult⟩ := hproduced
      exact .inr ⟨requests, rendered, isLastRendering_concat hresult, methods_afterProduce hresult⟩
    · have hold : ∀ {before rendered}, g.IsRendering (requests ++ [request]) before rendered →
          g.IsRendering requests before rendered := by
        intro before rendered h
        rcases isRendering_concat_iff.1 h with h | ⟨-, hrequest, hresult⟩
        · exact h
        · exact absurd ⟨hrequest, rendered, hresult⟩ hproduced
      have hsame : ((g.after requests).handle request).1.methods = (g.after requests).methods :=
        methods_handle fun hrequest rendered hresult ↦ hproduced ⟨hrequest, rendered, hresult⟩
      rw [hsame]
      rcases ih with ⟨hmethods, hnone⟩ | ⟨before, rendered, ⟨hrendering, hlast⟩, hmethods⟩
      · exact .inl ⟨hmethods, fun before rendered h ↦ hnone before rendered (hold h)⟩
      · refine .inr ⟨before, rendered, ⟨isRendering_concat_iff.2 (.inl hrendering), ?_⟩, hmethods⟩
        exact fun before' rendered' h ↦ hlast before' rendered' (hold h)

/-- A generator has handled some requests.  Its suite, its registry and its options are those that
the requests say, up to the classes of the registry.  Its methods are those of the last rendering
that succeeded, if there is one, which is that of the suite and the registry of its time; so they
are those of the table of that time.  If it is to render its actor next and fails to, its methods,
its suite, its options and its registry stay as they are, but for the classes that making the
modules changes; with given providers that are no classes nothing at all changes. -/
theorem methods_after (hcreate : create suite registry o = .ok g) (requests : List Request) :
    let g' := g.after requests
    g'.methodCount = g'.methods.length ∧
    g'.IsOf (suiteAfter suite requests) (registryAfter registry requests) o ∧
    ((g'.methods = [] ∧ ∀ before rendered, ¬g.IsRendering requests before rendered) ∨
      ∃ before rendered h table, g.IsLastRendering requests before rendered ∧
        g'.methods = rendered.methods ∧
        (Actor.produce ((registryAfter registry before).withHierarchy h) o
          (suiteAfter suite before)).result = .ok rendered ∧
        (((registryAfter registry before).withHierarchy h).actionTable
          (suiteAfter suite before)).result = .ok table ∧
        g'.methods.map ActorMethod.key = Actor.MethodKey.ofTable table) ∧
    ∀ e, g'.produce.result = .error e →
      (∃ h, (g'.handle .produce).1 = { g' with registry := g'.registry.withHierarchy h }) ∧
      ((∀ names, g'.suite.moduleItems = .ok names → ∀ name ∈ names, ∀ t, name.text? = some t →
        g'.registry.IsGiven t) → (g'.handle .produce).1 = g') := by
  intro g'
  have hg := isOf_of_create hcreate
  refine ⟨rfl, hg.after requests, ?_, ?_⟩
  · have hnew : g.methods = [] := by rw [eq_of_create hcreate]
    rcases methods_after_cases hnew requests with hnone | ⟨before, rendered, hlast, hmethods⟩
    · exact .inl hnone
    · have hresult := hlast.result
      obtain ⟨hsuite, ⟨h, hregistry⟩, hoptions⟩ := hg.after before
      rw [produce, hsuite, hregistry, hoptions] at hresult
      obtain ⟨table, p, htable, hmade⟩ := Actor.exists_of_produce hresult
      refine .inr ⟨before, rendered, h, table, hlast, hmethods, hresult, htable, ?_⟩
      rw [hmethods, ← hmade.methods, hmade.keys]
  · intro e he
    refine ⟨afterProduce_of_error he, ?_⟩
    intro hgiven
    have hsettled : g'.settled = g' := by rw [settled, Registry.settled_of_given hgiven]
    rw [handle, afterProduce, he, hsettled]
    exact ite_self g'

/-- The requests to render an actor and to give it a namespace that is none. -/
def badSpace : List Request := [.produce, .set "namespace" (.int 5)]

/-- An actor with three methods is rendered, but not with such a namespace. -/
theorem result_badSpace :
    (∃ rendered, (Actor.generatorOf "A").produce.result = .ok rendered ∧
      rendered.methods.length = 3) ∧
    ((Actor.generatorOf "A").after badSpace).produce.result =
      .error (.space (.noAttribute "int" "rstrip")) := by
  have hevaluated :
      (Actor.generatorOf "A").produce.result.toOption.map (·.methods.length) = some 3 ∧
        ((Actor.generatorOf "A").after badSpace).produce.result =
          .error (.space (.noAttribute "int" "rstrip")) := by
    decide +kernel
  obtain ⟨hlength, hfails⟩ := hevaluated
  obtain ⟨rendered, hrendered, hlength⟩ := Option.map_eq_some_iff.1 hlength
  exact ⟨⟨rendered, toOption_eq_some_iff.1 hrendered, hlength⟩, hfails⟩

/-- The rendering that fails leaves the methods of the one that succeeds, and everything else. -/
theorem methods_after_badSpace :
    create (Actor.generatorOf "A").suite (Actor.generatorOf "A").registry {} =
      .ok (Actor.generatorOf "A") ∧
    ∃ rendered, (Actor.generatorOf "A").produce.result = .ok rendered ∧
      let g := (Actor.generatorOf "A").after badSpace
      g.produce.result = .error (.space (.noAttribute "int" "rstrip")) ∧
      g.methods = rendered.methods ∧ g.methodCount = 3 ∧ (g.handle .produce).1 = g := by
  obtain ⟨⟨rendered, hrendered, hlength⟩, hfails⟩ := result_badSpace
  have hcreate : create (Actor.generatorOf "A").suite (Actor.generatorOf "A").registry {} =
    .ok (Actor.generatorOf "A") := rfl
  obtain ⟨hcount, hleft, hmethods, hkept⟩ := methods_after hcreate badSpace
  have hlast : ((Actor.generatorOf "A").after badSpace).methods = rendered.methods := by
    rcases hmethods with ⟨-, hnone⟩ | ⟨before, rendered', -, -, hrendering, hmethods, -⟩
    · exact absurd ⟨⟨_, rfl⟩, hrendered⟩ (hnone [] rendered)
    · -- Only the first request is to render the actor.
      have hfirst : before = [] := by
        match before, hrendering.among with
        | [], _ => rfl
        | [_], h => cases (List.cons_prefix_cons.1 (List.cons_prefix_cons.1 h).2).1
        | _ :: _ :: before, h => simp [badSpace] at h
      cases hfirst
      rw [hmethods]
      exact congrArg _ (Except.ok.inj (hrendering.result.symm.trans hrendered))
  have hgiven : ((Actor.generatorOf "A").after badSpace).registry.IsGiven "M" := by
    obtain ⟨h, hregistry⟩ := hleft.registry
    rw [hregistry]
    exact ⟨_, rfl, Registry.settleObject_of_ne_class nofun⟩
  refine ⟨hcreate, rendered, hrendered, hfails, hlast, ?_, (hkept _ hfails).2 ?_⟩
  · rw [hcount, hlast, hlength]
  · rw [hleft.suite]
    intro names hnames
    cases hnames
    rw [List.forall_mem_singleton]
    intro t ht
    cases ht
    exact hgiven

end ActorFacade.Generator
