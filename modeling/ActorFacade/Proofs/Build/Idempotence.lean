import ActorFacade.Proofs.Build.Caching
import ActorFacade.Proofs.Registry.Stability

/-! # Building again

A build that returns leaves its fingerprint on the first line of its file, whether it wrote the file
or left it alone (`Call.readStamp_of_run`).  So a second build of the same actor finds the
fingerprint that it computes, and changes nothing (`run_again`).
-/

namespace ActorFacade

/-! ## The same fingerprint -/

/-- The fingerprint is the same when the modules are made again. -/
theorem Registry.IsStable.fingerprint {r : Registry} {suite : Suite} {o : Actor.Options}
    {hash : Text} (h : r.IsStable suite) (hhash : (Actor.fingerprint r o suite).result = .ok hash) :
    (Actor.fingerprint (r.settled suite) o suite).result = .ok hash := by
  unfold Actor.fingerprint Actor.survey at hhash ⊢
  rw [h.settled]
  unfold Registry.withSource at hhash ⊢
  cases hkind : (r.settled suite).kind
  all_goals
    simp only [hkind, Logged.result_bind_eq_ok_iff, Logged.result_mapError_eq_ok_iff] at hhash ⊢
    rw [h.resolved]
    exact hhash

namespace Build

variable {o : Actor.Options} {p : Path} {c : Call} {disk disk' : Disk} {log : Logged Fault Outcome}
  {outcome : Outcome} {hash : Text}

namespace Call

/-- What is rendered consists of code points, which the type of texts does not say by itself. -/
def RendersCodePoints (o : Actor.Options) (c : Call) : Prop :=
  ∀ rendered, c.produced o = .ok rendered → ∀ point ∈ rendered.text, point < 0x110000

/-! ## The stamp -/

theorem check_of_run (h : (c.run o p disk).2.result = .ok outcome) :
    Actor.check c.suite = .ok () := by
  cases hcheck : Actor.check c.suite with
  | ok => rfl
  | error e =>
    have hcreate : Generator.create c.suite c.registry o = .error e := by
      rw [Generator.create, hcheck]
      rfl
    rw [run, Build.run, hcreate] at h
    cases h

/-- A file that was written carries the fingerprint. -/
theorem readStamp_of_write {rendered : Actor.Rendered} (hpoints : c.RendersCodePoints o)
    (hstable : c.registry.IsStable c.suite) (hhash : c.fingerprint o = .ok hash)
    (hproduced : c.produced o = .ok rendered)
    (hwrite : writeText disk p rendered.text = (disk', .ok ())) :
    readStamp disk' p = .ok (some hash) := by
  obtain ⟨bytes, hbytes, hread⟩ := read_of_writeText hwrite
  obtain ⟨table, htable, hstamp⟩ := Actor.exists_of_fingerprint hhash
  obtain ⟨table', q, htable', hmade⟩ := Actor.exists_of_produce hproduced
  cases htable'.symm.trans (hstable.actionTable htable)
  cases hmade.hash.symm.trans hstamp
  have hpoints := hpoints rendered hproduced
  rw [← hmade.text] at hbytes hpoints
  rw [readStamp, hread]
  exact mapError_eq_ok_iff.2 (stampOfBytes_text hmade.hash hbytes hpoints)

/-- A file that is left alone carries the fingerprint. -/
theorem readStamp_of_isUpToDate {force : Bool} (h : isUpToDate disk p force hash = .ok true) :
    readStamp disk p = .ok (some hash) := by
  obtain ⟨bytes, hread, hstamp⟩ := exists_of_isUpToDate h
  rw [readStamp, hread]
  exact mapError_eq_ok_iff.2 hstamp

/-- A build that returns leaves its fingerprint in its file. -/
theorem readStamp_of_run (hpoints : c.RendersCodePoints o)
    (hstable : c.registry.IsStable c.suite) (hrun : c.run o p disk = (disk', log))
    (hlog : log.result = .ok outcome) :
    outcome.path = p ∧ c.fingerprint o = .ok outcome.fingerprint ∧
      readStamp disk' p = .ok (some outcome.fingerprint) ∧
      disk'.workingDirectory = disk.workingDirectory := by
  have hdoes := does_run o p c disk
  rw [hrun, hlog] at hdoes
  cases hdoes with
  | leave hhash hcurrent => exact ⟨rfl, hhash, readStamp_of_isUpToDate hcurrent, rfl⟩
  | @write _ rendered _ hhash _ hproduced hwrite =>
    refine ⟨rfl, hhash, readStamp_of_write hpoints hstable hhash hproduced hwrite, ?_⟩
    have hworking := workingDirectory_writeText disk p rendered.text
    rw [hwrite] at hworking
    exact hworking

/-! ## The second build -/

/-- A build whose file carries its fingerprint does nothing. -/
theorem run_of_readStamp (hcheck : Actor.check c.suite = .ok ()) (hforce : c.force = false)
    (hhash : c.fingerprint o = .ok hash) (hstamp : readStamp disk p = .ok (some hash)) :
    (c.run o p disk).1 = disk ∧ (c.run o p disk).2.result = .ok ⟨p, false, hash, none⟩ := by
  have hcurrent : isUpToDate disk p c.force hash = .ok true := by
    rw [isUpToDate, hforce, hstamp]
    exact congrArg Except.ok (beq_self_eq_true _)
  rw [run_of_fingerprint hcheck hhash, refresh, hcurrent]
  exact ⟨rfl, rfl⟩

end Call

section Targets

variable {suite : Suite} {output : Option Path} {registry : Registry} {force : Bool}

/-- A build goes to its target. -/
theorem run_of_target (h : target disk suite output = .ok p) :
    run disk suite output registry o force = (⟨suite, registry, force⟩ : Call).run o p disk := by
  rw [Call.run, run, run, h]
  rfl

theorem exists_target_of_run (h : (run disk suite output registry o force).2.result = .ok outcome) :
    ∃ p, target disk suite output = .ok p := by
  cases htarget : target disk suite output with
  | ok p => exact ⟨p, rfl⟩
  | error e =>
    rw [run, htarget] at h
    cases hcreate : Generator.create suite registry o with
    | error => simp only [hcreate, Logged.fail, reduceCtorEq] at h
    | ok => simp only [hcreate, Logged.fail, reduceCtorEq] at h

/-- Where an actor belongs depends on nothing but the working directory. -/
theorem target_congr (h : disk'.workingDirectory = disk.workingDirectory) :
    target disk' suite output = target disk suite output := by
  unfold target defaultPath Disk.workingPath
  rw [h]

/-- A suite without defects has its modules made. -/
theorem registryAfter_of_check (h : Actor.check suite = .ok ()) :
    registryAfter suite registry = registry.settled suite := by
  unfold Actor.check at h
  split at h
  case h_1 => cases h
  case h_2 hdefect => rw [registryAfter, hdefect, if_neg (by decide)]

/-- A build that returns leaves the fingerprint that it returns in its file, and this is the
fingerprint of the actor before and after the build.  Building again at once returns the same
fingerprint, writes nothing and leaves the disk as it is. -/
theorem run_again (hpoints : Call.RendersCodePoints o ⟨suite, registry, force⟩)
    (hstable : registry.IsStable suite)
    (hrun : run disk suite output registry o force = (disk', log))
    (hlog : log.result = .ok outcome) :
    target disk suite output = .ok outcome.path ∧
      target disk' suite output = .ok outcome.path ∧
      readStamp disk' outcome.path = .ok (some outcome.fingerprint) ∧
      (∀ r ∈ [registry, registryAfter suite registry], ∃ g, Generator.create suite r o = .ok g ∧
        g.fingerprint.result = .ok outcome.fingerprint) ∧
      ∃ records, run disk' suite output (registryAfter suite registry) o false =
        (disk', ⟨records, .ok ⟨outcome.path, false, outcome.fingerprint, none⟩⟩) := by
  have hreturned : (run disk suite output registry o force).2.result = .ok outcome := by
    rw [hrun]
    exact hlog
  obtain ⟨p, htarget⟩ := exists_target_of_run hreturned
  rw [run_of_target htarget] at hrun hreturned
  have hcheck := Call.check_of_run hreturned
  obtain ⟨rfl, hhash, hstamp, hworking⟩ := Call.readStamp_of_run hpoints hstable hrun hlog
  have htarget' := (target_congr hworking).trans htarget
  let again : Call := { suite, registry := registry.settled suite }
  have hagain : again.fingerprint o = .ok outcome.fingerprint := hstable.fingerprint hhash
  rw [registryAfter_of_check hcheck]
  refine ⟨htarget, htarget', hstamp, ?_, ?_⟩
  · rw [List.forall_mem_cons, List.forall_mem_singleton]
    exact ⟨⟨_, Call.create_of_check (c := ⟨suite, registry, force⟩) hcheck, hhash⟩,
      ⟨_, Call.create_of_check (c := again) hcheck, hagain⟩⟩
  · obtain ⟨hdisk, hresult⟩ := Call.run_of_readStamp (c := again) hcheck rfl hagain hstamp
    rw [run_of_target htarget']
    exact ⟨_, Prod.ext hdisk (Logged.ext rfl hresult)⟩

end Targets

/-- The first build of an actor writes code points. -/
theorem run_first :
    ((callOf "First").run {} actorPath {}).2.result.toOption.map (·.written) = some true ∧
      ((callOf "First").produced {}).toOption.map (·.text.all (· < 0x110000)) = some true := by
  decide +kernel

theorem isStable_callOf (name : Text) :
    (callOf name).registry.IsStable (callOf name).suite := by
  refine Registry.isStable_of_given ?_
  intro names hnames
  cases hnames
  rw [List.forall_mem_singleton]
  intro t ht
  cases ht
  exact ⟨.handle "T" .null .null, rfl, Registry.settleObject_of_ne_class (fun c he ↦ nomatch he)⟩

/-- Building this actor again does nothing. -/
theorem run_again_first :
    ∃ disk log outcome,
      run {} (callOf "First").suite (some actorPath) (callOf "First").registry {} false =
        (disk, log) ∧
      log.result = .ok outcome ∧ outcome.written = true ∧
      ∃ records,
        run disk (callOf "First").suite (some actorPath)
          (registryAfter (callOf "First").suite (callOf "First").registry) {} false =
        (disk, ⟨records, .ok ⟨outcome.path, false, outcome.fingerprint, none⟩⟩) := by
  obtain ⟨hwritten, htext⟩ := run_first
  have hpoints : (callOf "First").RendersCodePoints {} := by
    intro rendered hproduced point hpoint
    rw [hproduced] at htext
    exact of_decide_eq_true (List.all_eq_true.1 (Option.some.inj htext) point hpoint)
  cases hresult : ((callOf "First").run {} actorPath {}).2.result with
  | error e =>
    rw [hresult] at hwritten
    cases hwritten
  | ok outcome =>
    rw [hresult] at hwritten
    have hrun : Build.run {} (callOf "First").suite (some actorPath) (callOf "First").registry {}
        false = (_, ((callOf "First").run {} actorPath {}).2) := rfl
    obtain ⟨-, -, -, -, hagain⟩ := run_again hpoints (isStable_callOf _) hrun hresult
    exact ⟨_, _, outcome, rfl, hresult, Option.some.inj hwritten, hagain⟩

end Build

end ActorFacade
