import ActorFacade.Proofs.Actor.Text

/-! # Actors and the tables of their registries

What a registry renders and what it stamps goes through the table of the modules of the suite, with
one and the same source of metadata.
-/

namespace ActorFacade

/-- Everything that a registry asks for metadata is asked of one source. -/
theorem Registry.exists_source (r : Registry) :
    ∃ (ρ : Type) (s : Source ρ), ∀ {α : Type} (f : {ρ : Type} → Source ρ → α),
      r.withSource f = f s := by
  unfold withSource
  cases r.kind with
  | declared => exact ⟨_, _, fun _ ↦ rfl⟩
  | inspected => exact ⟨_, _, fun _ ↦ rfl⟩

namespace Actor

/-- An actor of a suite is made of some parts, with the methods of a table and its stamp. -/
structure IsMadeOf (o : Options) (suite : Suite) (table : ActionTable) (p : Parts)
    (rendered : Rendered) : Prop where
  hash : stamp o suite table = .ok p.hash
  space : suite.qualifiedSpace = .ok p.space
  name : className suite = .ok p.name
  inherited : Inherited.signatures o.base = .ok p.inherited
  keys : p.methods.map ActorMethod.key = MethodKey.ofTable table
  methods : p.methods = rendered.methods
  text : p.text Template.settled = rendered.text

/-- Two actors have the same fingerprint, the same inherited methods and, but for signatures and
documentation, the same methods. -/
structure Parts.Agree (p q : Parts) : Prop where
  hash : p.hash = q.hash
  inherited : p.inherited = q.inherited
  keys : p.methods.map ActorMethod.key = q.methods.map ActorMethod.key

/-- Such actors are the same if the rest of their parts is. -/
theorem Parts.Agree.eq {p q : Parts} (h : p.Agree q) (hname : p.name = q.name)
    (hspace : p.space = q.space) (huses : p.uses = q.uses) (hmethods : p.methods = q.methods) :
    p = q := by
  cases p
  cases q
  cases h.hash
  cases h.inherited
  cases hname
  cases hspace
  cases huses
  cases hmethods
  rfl

variable {r : Registry} {o : Options} {suite : Suite}

/-- Actors with one fingerprint and one table agree. -/
theorem IsMadeOf.agree {suite' : Suite} {table : ActionTable} {p q : Parts}
    {rendered rendered' : Rendered} (h : IsMadeOf o suite table p rendered)
    (h' : IsMadeOf o suite' table q rendered') (hhash : p.hash = q.hash) : p.Agree q := by
  refine ⟨hhash, ?_, h.keys.trans h'.keys.symm⟩
  exact Except.ok.inj (h.inherited.symm.trans h'.inherited)

/-- The table of a survey is that of the modules of the suite. -/
theorem exists_source_survey (r : Registry) (suite : Suite) :
    ∃ (ρ : Type) (s : Source ρ),
      (∀ {α : Type} (f : {ρ : Type} → Source ρ → α), (r.settled suite).withSource f = f s) ∧
      ∀ {modules table}, (survey r s suite).result = .ok (modules, table) →
        (r.actionTable suite).result = .ok table := by
  obtain ⟨ρ, s, hs⟩ := (r.settled suite).exists_source
  refine ⟨ρ, s, hs, ?_⟩
  intro modules table h
  obtain ⟨hmodules, htable⟩ := survey_eq_ok_iff.1 h
  rw [Registry.actionTable, hs]
  exact Logged.result_bind_eq_ok_iff.2 ⟨modules, hmodules, htable⟩

/-- A fingerprint is the stamp of the table of its registry. -/
theorem exists_of_fingerprint {hash : Text} (h : (fingerprint r o suite).result = .ok hash) :
    ∃ table, (r.actionTable suite).result = .ok table ∧ stamp o suite table = .ok hash := by
  obtain ⟨ρ, s, hs, htable⟩ := exists_source_survey r suite
  rw [fingerprint, hs] at h
  obtain ⟨⟨modules, table⟩, hsurvey, h⟩ := Logged.result_bind_eq_ok_iff.1 h
  exact ⟨table, htable hsurvey, h⟩

/-- An actor is made with the table of its registry. -/
theorem exists_of_produce {rendered : Rendered} (h : (produce r o suite).result = .ok rendered) :
    ∃ table p, (r.actionTable suite).result = .ok table ∧ IsMadeOf o suite table p rendered := by
  obtain ⟨ρ, s, hs, htable⟩ := exists_source_survey r suite
  rw [produce, hs] at h
  obtain ⟨modules, table, hsurvey, hmethods, hrender⟩ := exists_of_produceWith h
  obtain ⟨p, hhash, hspace, -, hname, hinherited, hshown, htext⟩ := exists_parts_of_render hrender
  refine ⟨table, p, htable hsurvey, hhash, hspace, hname, hinherited, ?_, hshown, htext.symm⟩
  rw [hshown]
  exact map_key_collectMethods (hasDistinctRows_of_survey hsurvey) hmethods

/-- A suite that is rendered has no defect and a fingerprint. -/
theorem exists_fingerprint_of_produce {rendered : Rendered}
    (h : (produce r o suite).result = .ok rendered) :
    check suite = .ok () ∧ ∃ hash, (fingerprint r o suite).result = .ok hash := by
  obtain ⟨ρ, s, hs⟩ := (r.settled suite).exists_source
  rw [produce, hs] at h
  obtain ⟨_, hcheck, -⟩ := Logged.result_bind_eq_ok_iff.1 h
  obtain ⟨modules, table, hsurvey, -, hrender⟩ := exists_of_produceWith h
  obtain ⟨p, hhash, -⟩ := exists_parts_of_render hrender
  refine ⟨hcheck, p.hash, ?_⟩
  rw [fingerprint, hs]
  exact Logged.result_bind_eq_ok_iff.2 ⟨(modules, table), hsurvey, hhash⟩

end Actor

end ActorFacade
