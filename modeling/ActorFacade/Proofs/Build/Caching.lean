import ActorFacade.Proofs.Actor.Production
import ActorFacade.Proofs.Build.Stamp
import ActorFacade.Proofs.Build.Writing
import ActorFacade.Proofs.Fingerprint

/-! # Builds that find their actor up to date

Whatever builds went before, their file holds the text of one of them or nothing (`History.spec`).
So a build that leaves it alone leaves an actor that was rendered with the same fingerprint, from
the same table and modules.  Only the fingerprint is compared: what else went into the text, such as
the name of the class, is that of the earlier build.
-/

namespace ActorFacade.Build

open Template (settled)

/-! ## Single builds -/

/-- What a build to a given file is made with. -/
structure Call where
  /-- The suite. -/
  suite : Suite
  /-- What modules are found with. -/
  registry : Registry
  /-- Whether the file is written in any case. -/
  force : Bool := false

namespace Call

variable (o : Actor.Options) (p : Path) (c : Call) (disk : Disk)

/-- The build. -/
def run : Disk × Logged Fault Outcome := Build.run disk c.suite (some p) c.registry o c.force

/-- The fingerprint that the build compares. -/
def fingerprint : Except Actor.Fault Text := (Actor.fingerprint c.registry o c.suite).result

/-- What the build renders. -/
def produced : Except Actor.Fault Actor.Rendered :=
  (Actor.produce (c.registry.settled c.suite) o c.suite).result

/-- The table that the build stamps. -/
def stampedTable : Except Registry.Fault ActionTable := (c.registry.actionTable c.suite).result

/-- The table that the build renders, when the modules were made before. -/
def renderedTable : Except Registry.Fault ActionTable :=
  ((c.registry.settled c.suite).actionTable c.suite).result

/-- The build that writes the file in any case. -/
def forced : Call := { c with force := true }

variable {o p c disk}

/-- What a build may do to a disk, and its result. -/
inductive Does (o : Actor.Options) (p : Path) (c : Call) (disk : Disk) :
    Disk → Except Fault Outcome → Prop
  /-- It fails before it writes. -/
  | fail (e : Fault) : Does o p c disk disk (.error e)
  /-- It leaves the file alone. -/
  | leave {hash : Text} (hhash : c.fingerprint o = .ok hash)
    (hcurrent : isUpToDate disk p c.force hash = .ok true) :
    Does o p c disk disk (.ok ⟨p, false, hash, none⟩)
  /-- It writes what it renders. -/
  | write {hash : Text} {rendered : Actor.Rendered} {disk' : Disk}
    (hhash : c.fingerprint o = .ok hash) (hstale : isUpToDate disk p c.force hash = .ok false)
    (hproduced : c.produced o = .ok rendered)
    (hwrite : writeText disk p rendered.text = (disk', .ok ())) :
    Does o p c disk disk' (.ok ⟨p, true, hash, some rendered.methods.length⟩)
  /-- It fails to write what it renders. -/
  | failWriting {rendered : Actor.Rendered} {disk' : Disk} {e : Fault}
    (hproduced : c.produced o = .ok rendered)
    (hwrite : writeText disk p rendered.text = (disk', .error e)) :
    Does o p c disk disk' (.error e)

/-- The generator that renders. -/
def generator (o : Actor.Options) (c : Call) : Generator :=
  { suite := c.suite, registry := c.registry.settled c.suite, options := o }

theorem create_of_check (hcheck : Actor.check c.suite = .ok ()) :
    Generator.create c.suite c.registry o =
      .ok { suite := c.suite, registry := c.registry, options := o } := by
  rw [Generator.create, hcheck]
  rfl

theorem run_of_fingerprint {hash : Text} (hcheck : Actor.check c.suite = .ok ())
    (hhash : c.fingerprint o = .ok hash) :
    c.run o p disk =
      ((refresh keepNone disk (c.generator o) p c.force hash).1,
        ⟨(Actor.fingerprint c.registry o c.suite).records ++
            (refresh keepNone disk (c.generator o) p c.force hash).2.records,
          (refresh keepNone disk (c.generator o) p c.force hash).2.result⟩) := by
  have hresult : (Actor.fingerprint c.registry o c.suite).result = .ok hash := hhash
  rw [run, Build.run, create_of_check hcheck]
  simp only [target, Generator.fingerprint, Logged.mapError, hresult, mapError_ok, keepNone]
  rfl

theorem does_refresh {hash : Text} (hhash : c.fingerprint o = .ok hash) :
    Does o p c disk (refresh keepNone disk (c.generator o) p c.force hash).1
      (refresh keepNone disk (c.generator o) p c.force hash).2.result := by
  unfold refresh
  cases hcurrent : isUpToDate disk p c.force hash with
  | error e => exact .fail e
  | ok current =>
    cases current with
    | true => exact .leave hhash hcurrent
    | false =>
      cases hproduced : c.produced o with
      | error e =>
        have hproduced : (c.generator o).produce.result = .error e := hproduced
        simp only [render, Logged.mapError, hproduced, mapError_error, keepNone]
        exact .fail _
      | ok rendered =>
        have hresult : (c.generator o).produce.result = .ok rendered := hproduced
        simp only [render, Logged.mapError, hresult, mapError_ok, keepNone]
        rcases hwrite : writeText disk p rendered.text with ⟨disk', _ | _⟩
        · exact .failWriting hproduced hwrite
        · exact .write hhash hcurrent hproduced hwrite

theorem does_run (o : Actor.Options) (p : Path) (c : Call) (disk : Disk) :
    Does o p c disk (c.run o p disk).1 (c.run o p disk).2.result := by
  cases hcheck : Actor.check c.suite with
  | error e =>
    have hcreate : Generator.create c.suite c.registry o = .error e := by
      rw [Generator.create, hcheck]
      rfl
    rw [run, Build.run, hcreate]
    exact .fail _
  | ok =>
    cases hhash : c.fingerprint o with
    | error e =>
      have hresult : (Actor.fingerprint c.registry o c.suite).result = .error e := hhash
      rw [run, Build.run, create_of_check hcheck]
      simp only [target, Generator.fingerprint, Logged.mapError, hresult, mapError_error, keepNone]
      exact .fail _
    | ok hash =>
      rw [run_of_fingerprint hcheck hhash]
      exact does_refresh hhash

/-- A build that does not find its actor up to date is the build that writes in any case. -/
theorem run_forced {hash : Text} (hhash : c.fingerprint o = .ok hash)
    (hstale : isUpToDate disk p c.force hash = .ok false) :
    c.run o p disk = c.forced.run o p disk := by
  cases hcheck : Actor.check c.suite with
  | error e =>
    have hcreate : Generator.create c.suite c.registry o = .error e := by
      rw [Generator.create, hcheck]
      rfl
    rw [run, run, forced, Build.run, Build.run, hcreate]
  | ok =>
    have hforced : c.forced.fingerprint o = .ok hash := hhash
    have hrefresh : refresh keepNone disk (c.generator o) p c.force hash =
        refresh keepNone disk (c.forced.generator o) p c.forced.force hash := by
      rw [refresh, refresh, hstale]
      rfl
    rw [run_of_fingerprint hcheck hhash, run_of_fingerprint (c := c.forced) hcheck hforced,
      hrefresh]
    rfl

end Call

/-! ## Runs of builds -/

section Histories

variable {o : Actor.Options} {p : Path} {calls : List Call} {disk disk' : Disk}

/-- The disks after builds of the same generator to a file that nothing else writes to. -/
inductive History (o : Actor.Options) (p : Path) : List Call → Disk → Prop
  /-- There is no file at first. -/
  | absent {disk : Disk} (htree : disk.IsTree) (hread : ∀ bytes, disk.read p ≠ .ok bytes) :
    History o p [] disk
  /-- Other files change. -/
  | elsewhere {calls : List Call} {disk disk' : Disk} (h : History o p calls disk)
    (htree : disk'.IsTree) (hread : disk'.read p = disk.read p) : History o p calls disk'
  /-- One more build. -/
  | build {calls : List Call} {disk : Disk} (h : History o p calls disk) (c : Call) :
    History o p (c :: calls) (c.run o p disk).1

/-- A disk whose file, if it is there, holds what one of some builds renders, or nothing. -/
structure IsLeft (o : Actor.Options) (p : Path) (calls : List Call) (disk : Disk) : Prop where
  isTree : disk.IsTree
  content : ∀ bytes, disk.read p = .ok bytes → bytes = [] ∨
    ∃ c ∈ calls, ∃ rendered, c.produced o = .ok rendered ∧ Utf8.encode rendered.text = .ok bytes

theorem IsLeft.write (h : IsLeft o p calls disk) {c : Call} {rendered : Actor.Rendered}
    (hproduced : c.produced o = .ok rendered) {result : Except Fault Unit}
    (hwrite : writeText disk p rendered.text = (disk', result)) :
    IsLeft o p (c :: calls) disk' := by
  obtain ⟨htree, hcontent, -⟩ := writeText_spec h.isTree hwrite
  refine ⟨htree, ?_⟩
  intro bytes hread
  rcases hcontent bytes hread with hbytes | hempty
  · exact .inr ⟨c, List.mem_cons_self, rendered, hproduced, hbytes⟩
  · exact .inl hempty

/-- One more build leaves what it renders or what was there. -/
theorem IsLeft.run (h : IsLeft o p calls disk) (c : Call) :
    IsLeft o p (c :: calls) (c.run o p disk).1 := by
  have hsame : IsLeft o p (c :: calls) disk := by
    refine ⟨h.isTree, ?_⟩
    intro bytes hread
    rcases h.content bytes hread with hempty | ⟨earlier, hmem, hrendered⟩
    · exact .inl hempty
    · exact .inr ⟨earlier, List.mem_cons_of_mem _ hmem, hrendered⟩
  have hdoes := Call.does_run o p c disk
  generalize (c.run o p disk).1 = disk', (c.run o p disk).2.result = result at hdoes
  cases hdoes with
  | fail => exact hsame
  | leave => exact hsame
  | write _ _ hproduced hwrite => exact h.write hproduced hwrite
  | failWriting hproduced hwrite => exact h.write hproduced hwrite

theorem History.isLeft (h : History o p calls disk) : IsLeft o p calls disk := by
  induction h with
  | absent htree hread => exact ⟨htree, fun bytes hbytes ↦ absurd hbytes (hread bytes)⟩
  | elsewhere _ htree hread ih =>
    exact ⟨htree, fun bytes hbytes ↦ ih.content bytes (hread ▸ hbytes)⟩
  | build _ c ih => exact ih.run c

/-! ## Actors that are left alone -/

/-- A file that is left alone holds the text of an earlier build, which has the fingerprint. -/
theorem IsLeft.exists_of_isUpToDate (h : IsLeft o p calls disk) {force : Bool} {hash : Text}
    (hcurrent : isUpToDate disk p force hash = .ok true) :
    ∃ earlier ∈ calls, ∃ rendered bytes, earlier.produced o = .ok rendered ∧
      Utf8.encode rendered.text = .ok bytes ∧ disk.read p = .ok bytes ∧
      ∃ table q, earlier.renderedTable = .ok table ∧ q.hash = hash ∧
        Actor.IsMadeOf o earlier.suite table q rendered := by
  obtain ⟨bytes, hread, hstamp⟩ := Build.exists_of_isUpToDate hcurrent
  rcases h.content bytes hread with rfl | ⟨earlier, hmem, rendered, hproduced, hbytes⟩
  · cases stampOfBytes_nil.symm.trans hstamp
  · obtain ⟨table, q, htable, hmade⟩ := Actor.exists_of_produce hproduced
    refine ⟨earlier, hmem, rendered, bytes, hproduced, hbytes, hread, table, q, htable, ?_, hmade⟩
    rw [← hmade.text] at hbytes
    exact (Option.some.inj (stampOfBytes_of_text hmade.hash hbytes hstamp)).symm

/-- A build that returns has left what a build that writes in any case leaves, or it has changed
nothing and its file holds the text of an earlier build whose fingerprint is the current one.
Without a collision of digests this build had the same table and modules, so its methods stand for
the current table, and its text differs from the current one in nothing but the name of the class,
the namespace, the types of the providers, and the signatures and documentation of the methods. -/
theorem content_of_run (h : History o p calls disk) {c : Call} {outcome : Outcome}
    (hrun : (c.run o p disk).2.result = .ok outcome) :
    (outcome.written = true ∧ c.run o p disk = c.forced.run o p disk ∧
      ∃ rendered bytes, c.produced o = .ok rendered ∧ Utf8.encode rendered.text = .ok bytes ∧
        (c.run o p disk).1.read p = .ok bytes) ∨
    (outcome.written = false ∧ (c.run o p disk).1 = disk ∧
      ∃ earlier ∈ calls, ∃ rendered bytes, earlier.produced o = .ok rendered ∧
        Utf8.encode rendered.text = .ok bytes ∧ disk.read p = .ok bytes ∧
        ∃ table table' q, earlier.renderedTable = .ok table ∧ c.stampedTable = .ok table' ∧
          q.hash = outcome.fingerprint ∧ Actor.IsMadeOf o earlier.suite table q rendered ∧
          Actor.stamp o c.suite table' = .ok outcome.fingerprint ∧
          (Fingerprint.AreScalar table earlier.suite.moduleNames →
            Fingerprint.AreScalar table' c.suite.moduleNames →
            Fingerprint.AreToldApart
              (Fingerprint.payload o.version table earlier.suite.moduleNames)
              (Fingerprint.payload o.version table' c.suite.moduleNames) →
            table = table' ∧ earlier.suite.moduleNames = c.suite.moduleNames ∧
            rendered.methods.map ActorMethod.key = Actor.MethodKey.ofTable table' ∧
            ∀ current, c.produced o = .ok current → c.renderedTable = c.stampedTable →
              ∃ q', Actor.IsMadeOf o c.suite table' q' current ∧ q.Agree q' ∧
                (q.name = q'.name → q.space = q'.space → q.uses = q'.uses →
                  q.methods = q'.methods → rendered.text = current.text))) := by
  have hdoes := Call.does_run o p c disk
  rw [hrun] at hdoes
  generalize hdisk : (c.run o p disk).1 = disk' at hdoes
  cases hdoes with
  | write hhash hstale hproduced hwrite =>
    obtain ⟨-, -, hwritten⟩ := writeText_spec h.isLeft.isTree hwrite
    obtain ⟨bytes, hbytes, hread⟩ := hwritten rfl
    exact .inl ⟨rfl, Call.run_forced hhash hstale, _, bytes, hproduced, hbytes, hdisk ▸ hread⟩
  | leave hhash hcurrent =>
    obtain ⟨earlier, hmem, rendered, bytes, hproduced, hbytes, hread, table, q, htable, rfl,
      hmade⟩ := h.isLeft.exists_of_isUpToDate hcurrent
    obtain ⟨table', htable', hstamp⟩ := Actor.exists_of_fingerprint hhash
    refine .inr ⟨rfl, rfl, earlier, hmem, rendered, bytes, hproduced, hbytes, hread, table, table',
      q, htable, htable', rfl, hmade, hstamp, ?_⟩
    intro hscalar hscalar' htold
    obtain ⟨rfl, hmodules⟩ := Fingerprint.of_compute hscalar hscalar' htold
      (mapError_eq_ok_iff.1 hmade.hash) (mapError_eq_ok_iff.1 hstamp)
    refine ⟨rfl, hmodules, hmade.methods ▸ hmade.keys, ?_⟩
    intro current hproduced' hsettled
    obtain ⟨table₁, q', htable₁, hmade'⟩ := Actor.exists_of_produce hproduced'
    -- The table is the stamped one, so the two fingerprints are the same stamp.
    cases (htable₁.symm.trans hsettled).trans htable'
    have hagree := hmade.agree hmade' (Except.ok.inj (hstamp.symm.trans hmade'.hash))
    refine ⟨q', hmade', hagree, ?_⟩
    intro hname hspace huses hmethods
    rw [← hmade.text, ← hmade'.text, hagree.eq hname hspace huses hmethods]

end Histories

/-- A build of an actor of a given name with one module, whose type has no operations. -/
def callOf (name : Text) : Call :=
  { suite := Actor.suiteOfModule name
    registry := { Actor.registryOfModule with kind := .declared, types := ⟨[{ name := "T" }]⟩ } }

/-- The file of such actors. -/
def actorPath : Path := ⟨0, ["A.php"]⟩

/-- A disk where the actor was built under the name `First`. -/
def builtDisk : Disk := ((callOf "First").run {} actorPath {}).1

theorem history_builtDisk : History {} actorPath [callOf "First"] builtDisk := by
  have hroot : ∀ place, ({} : Disk).node? place = if place = [] then some .directory else none :=
    fun _ ↦ rfl
  refine History.build (History.absent Disk.isTree_empty ?_) (callOf "First")
  intro bytes hread
  obtain ⟨place, hplace, hnode⟩ := Disk.read_eq_ok_iff.1 hread
  rw [hroot] at hnode
  split at hnode <;> cases hnode

/-- A build of the actor under another name does not write, and a build that writes in any case
leaves something else. -/
theorem run_second :
    ((callOf "Second").run {} actorPath builtDisk).2.result.toOption.map (·.written) =
        some false ∧
      ((callOf "Second").forced.run {} actorPath builtDisk).2.result.toOption.map (·.written) =
        some true ∧
      (((callOf "Second").run {} actorPath builtDisk).1.read actorPath).toOption ≠
        (((callOf "Second").forced.run {} actorPath builtDisk).1.read actorPath).toOption := by
  decide +kernel

/-- So its file still holds the actor of the first name. -/
theorem content_of_run_cached :
    ∃ outcome, ((callOf "Second").run {} actorPath builtDisk).2.result = .ok outcome ∧
      outcome.written = false ∧
      ∃ earlier ∈ [callOf "First"], ∃ rendered bytes, earlier.produced {} = .ok rendered ∧
        Utf8.encode rendered.text = .ok bytes ∧
        ((callOf "Second").run {} actorPath builtDisk).1.read actorPath = .ok bytes := by
  obtain ⟨hunwritten, -, -⟩ := run_second
  cases hrun : ((callOf "Second").run {} actorPath builtDisk).2.result with
  | error e =>
    rw [hrun] at hunwritten
    cases hunwritten
  | ok outcome =>
    rw [hrun] at hunwritten
    have hunwritten : outcome.written = false := Option.some.inj hunwritten
    refine ⟨outcome, rfl, hunwritten, ?_⟩
    rcases content_of_run history_builtDisk hrun with ⟨hwritten, -⟩ | ⟨-, hdisk, hearlier⟩
    · rw [hunwritten] at hwritten
      cases hwritten
    · obtain ⟨earlier, hmem, rendered, bytes, hproduced, hbytes, hread, -⟩ := hearlier
      exact ⟨earlier, hmem, rendered, bytes, hproduced, hbytes, hdisk.symm ▸ hread⟩

/-- A build that writes in any case would have left something else there. -/
theorem content_of_run_not_forced :
    History {} actorPath [callOf "First"] builtDisk ∧ (callOf "Second").force = false ∧
      (∃ outcome, ((callOf "Second").run {} actorPath builtDisk).2.result = .ok outcome) ∧
      (∃ outcome, ((callOf "Second").forced.run {} actorPath builtDisk).2.result = .ok outcome) ∧
      ((callOf "Second").run {} actorPath builtDisk).1.read actorPath ≠
        ((callOf "Second").forced.run {} actorPath builtDisk).1.read actorPath := by
  have hreturned : ∀ {result : Except Fault Outcome} {written : Bool},
      result.toOption.map (·.written) = some written → ∃ outcome, result = .ok outcome := by
    intro result written h
    cases result with
    | error e => cases h
    | ok outcome => exact ⟨outcome, rfl⟩
  obtain ⟨hrun, hforced, hne⟩ := run_second
  exact ⟨history_builtDisk, rfl, hreturned hrun, hreturned hforced,
    fun he ↦ hne (congrArg Except.toOption he)⟩

end ActorFacade.Build
