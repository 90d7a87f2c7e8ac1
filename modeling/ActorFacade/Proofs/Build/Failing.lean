import ActorFacade.Proofs.Build.Caching
import ActorFacade.Proofs.Files.Keeping

/-! # Builds that fail

A build fails before it opens its file, with one exception: the text of the actor is encoded when
the file is already open, and therefore empty.  So all files stay as they are unless this text
cannot be encoded, and then all but one do (`files_of_run`).
-/

namespace ActorFacade

/-- A path leads to a file without bytes, and all other files are as they were. -/
def Disk.EmptiesFile (disk disk' : Disk) (p : Path) : Prop :=
  ∃ place, disk'.locate p = .ok place ∧ disk'.fileAt? place = some [] ∧
    ∀ q, q ≠ place → disk'.fileAt? q = disk.fileAt? q

namespace Build

/-- Whether a failure is that the text of an actor cannot be encoded. -/
def Fault.isOfText : Fault → Bool
  | .encode _ => true
  | .actor _ | .path _ | .decode _ => false

variable {disk disk' : Disk} {p : Path} {suite : Suite} {output : Option Path}
  {registry : Registry} {o : Actor.Options} {force : Bool} {e : Fault}

/-! ## Failing before the file is opened -/

theorem failsOnly_target (disk : Disk) (suite : Suite) (output : Option Path) :
    FailsOnly (·.isOfText = false) (target disk suite output) := by
  unfold target
  split
  · exact .ok _
  · exact .mapError fun _ _ ↦ rfl

theorem failsOnly_readStamp (disk : Disk) (p : Path) :
    FailsOnly (·.isOfText = false) (readStamp disk p) := by
  unfold readStamp
  split
  · exact .ok none
  · exact .error rfl
  · exact .mapError fun _ _ ↦ rfl

theorem failsOnly_isUpToDate (disk : Disk) (p : Path) (force : Bool) (fingerprint : Text) :
    FailsOnly (·.isOfText = false) (isUpToDate disk p force fingerprint) := by
  unfold isUpToDate
  split
  · exact .ok false
  · exact (failsOnly_readStamp disk p).map

/-! ## Failing to write -/

/-- Writing a text fails before the file is opened, or because the text cannot be encoded. -/
theorem writeText_eq_error {text : Text} (h : writeText disk p text = (disk', .error e)) :
    (e.isOfText = false ∧ disk.KeepsFiles disk') ∨
      ∃ cause, e = .encode cause ∧ Utf8.encode text = .error cause ∧ disk.EmptiesFile disk' p := by
  have hkeeps := Disk.keepsFiles_makeDirectories disk p.parent
  unfold writeText at h
  split at h
  case h_1 disk₁ cause hmake =>
    rw [hmake] at hkeeps
    cases h
    exact .inl ⟨rfl, hkeeps⟩
  case h_2 disk₁ hmake =>
    rw [hmake] at hkeeps
    split at h
    case h_1 =>
      split at h
      case h_1 => cases h
      case h_2 =>
        cases h
        exact .inl ⟨rfl, hkeeps⟩
    case h_2 cause hencode =>
      split at h
      case h_2 =>
        cases h
        exact .inl ⟨rfl, hkeeps⟩
      case h_1 hwrite =>
        cases h
        obtain ⟨place, hplace, hnode, rfl⟩ := Disk.write_eq_ok_iff.1 hwrite
        refine .inr ⟨cause, rfl, hencode, place, Disk.locate_set hnode hplace, ?_, ?_⟩
        · rw [Disk.fileAt?_set hnode, if_pos rfl]
        · intro q hq
          rw [Disk.fileAt?_set hnode, if_neg hq]
          exact hkeeps q

/-! ## Failing builds

A build fails before it writes, and has then changed nothing, or it fails to write what it
renders. -/

variable {g : Generator} {hash : Text} {log : Logged Fault Outcome}

theorem render_eq_error (h : render keepNone disk g p hash = (disk', log))
    (he : log.result = .error e) :
    (e.isOfText = false ∧ disk' = disk) ∨
      ∃ rendered, g.produce.result = .ok rendered ∧
        writeText disk p rendered.text = (disk', .error e) := by
  simp only [render, Logged.mapError, keepNone] at h
  cases hproduced : g.produce.result with
  | error cause =>
    simp only [hproduced, mapError_error] at h
    cases h
    cases he
    exact .inl ⟨rfl, rfl⟩
  | ok rendered =>
    simp only [hproduced, mapError_ok] at h
    split at h
    case h_1 hwrite =>
      cases h
      cases he
      exact .inr ⟨rendered, rfl, hwrite⟩
    case h_2 =>
      cases h
      cases he

theorem refresh_eq_error (h : refresh keepNone disk g p force hash = (disk', log))
    (he : log.result = .error e) :
    (e.isOfText = false ∧ disk' = disk) ∨
      ∃ rendered, g.produce.result = .ok rendered ∧
        writeText disk p rendered.text = (disk', .error e) := by
  unfold refresh at h
  split at h
  case h_1 cause hcurrent =>
    cases h
    cases he
    exact .inl ⟨failsOnly_isUpToDate disk p force hash e hcurrent, rfl⟩
  case h_2 =>
    cases h
    cases he
  case h_3 => exact render_eq_error h he

theorem run_eq_error (h : run disk suite output registry o force = (disk', log))
    (he : log.result = .error e) :
    (e.isOfText = false ∧ disk' = disk) ∨
      ∃ p rendered, target disk suite output = .ok p ∧
        (Actor.produce (registry.settled suite) o suite).result = .ok rendered ∧
        writeText disk p rendered.text = (disk', .error e) := by
  unfold run at h
  split at h
  case h_1 =>
    cases h
    cases he
    exact .inl ⟨rfl, rfl⟩
  case h_2 cause _ htarget =>
    cases h
    cases he
    exact .inl ⟨failsOnly_target disk suite output e htarget, rfl⟩
  case h_3 g p hcreate htarget =>
    obtain ⟨_, -, hg⟩ := bind_eq_ok_iff.1 hcreate
    cases hg
    simp only [keepNone] at h
    split at h
    case h_1 hhash =>
      cases h
      cases he
      have hother : FailsOnly (·.isOfText = false)
          (Logged.mapError Fault.actor (Actor.fingerprint registry o suite)).result :=
        .mapError fun _ _ ↦ rfl
      exact .inl ⟨hother e hhash, rfl⟩
    case h_2 =>
      cases h
      rcases refresh_eq_error rfl he with hkept | ⟨rendered, hproduced, hwrite⟩
      · exact .inl hkept
      · exact .inr ⟨p, rendered, htarget, hproduced, hwrite⟩

/-- A build that fails keeps all files, unless the text that it renders cannot be encoded.  Then the
file of the actor is there without bytes, and all other files are kept; so all are kept if and only
if this file was there without bytes before. -/
theorem files_of_run (h : run disk suite output registry o force = (disk', log))
    (he : log.result = .error e) :
    (e.isOfText = false → disk.KeepsFiles disk') ∧
      ∀ cause, e = .encode cause → ∃ p place rendered, target disk suite output = .ok p ∧
        (Actor.produce (registry.settled suite) o suite).result = .ok rendered ∧
        Utf8.encode rendered.text = .error cause ∧ disk'.locate p = .ok place ∧
        disk'.fileAt? place = some [] ∧
        (∀ q, q ≠ place → disk'.fileAt? q = disk.fileAt? q) ∧
        (disk.KeepsFiles disk' ↔ disk.fileAt? place = some []) := by
  rcases run_eq_error h he with ⟨hother, rfl⟩ | ⟨p, rendered, htarget, hproduced, hwrite⟩
  · refine ⟨fun _ ↦ .refl _, ?_⟩
    rintro cause rfl
    cases hother
  rcases writeText_eq_error hwrite with ⟨hother, hkeeps⟩ | ⟨cause, rfl, hencode, hempties⟩
  · refine ⟨fun _ ↦ hkeeps, ?_⟩
    rintro cause rfl
    cases hother
  · refine ⟨nofun, ?_⟩
    intro cause' he'
    cases he'
    obtain ⟨place, hplace, hempty, hothers⟩ := hempties
    refine ⟨p, place, rendered, htarget, hproduced, hencode, hplace, hempty, hothers, ?_⟩
    constructor
    · intro hkeeps
      rw [← hkeeps place, hempty]
    · intro hold q
      by_cases hq : q = place
      · rw [hq, hempty, hold]
      · exact hothers q hq

/-- A disk with a file in place of the actor. -/
def oldDisk : Disk := { nodes := [(actorPath.parts, .file [0x6F, 0x6C, 0x64])] }

/-- A class whose name is a surrogate is rendered, but its text cannot be encoded. -/
theorem run_surrogate :
    ((callOf [0xD800]).run {} actorPath oldDisk).2.result = .error (.encode ⟨0xD800, 670, 670⟩) ∧
      oldDisk.fileAt? actorPath.parts = some [0x6F, 0x6C, 0x64] ∧
      ((callOf [0xD800]).run {} actorPath oldDisk).1.fileAt? actorPath.parts = some [] := by
  decide +kernel

/-- So this build leaves the file of the actor without bytes, and keeps all others. -/
theorem files_of_run_surrogate :
    ∃ disk' log cause,
      run oldDisk (callOf [0xD800]).suite (some actorPath) (callOf [0xD800]).registry {} false =
        (disk', log) ∧
      log.result = .error (.encode cause) ∧
      ∃ place, disk'.locate actorPath = .ok place ∧ disk'.fileAt? place = some [] ∧
        (∀ q, q ≠ place → disk'.fileAt? q = oldDisk.fileAt? q) ∧
        (oldDisk.KeepsFiles disk' ↔ oldDisk.fileAt? place = some []) := by
  obtain ⟨hresult, -, -⟩ := run_surrogate
  have hrun : run oldDisk (callOf [0xD800]).suite (some actorPath) (callOf [0xD800]).registry {}
      false = (_, ((callOf [0xD800]).run {} actorPath oldDisk).2) := rfl
  obtain ⟨-, htext⟩ := files_of_run hrun hresult
  obtain ⟨p, place, rendered, htarget, -, -, hplace, hempty, hothers, hiff⟩ := htext _ rfl
  cases htarget
  exact ⟨_, _, _, rfl, hresult, place, hplace, hempty, hothers, hiff⟩

/-- The file that was there before is lost. -/
theorem not_keepsFiles_of_run :
    ∃ e, ((callOf [0xD800]).run {} actorPath oldDisk).2.result = .error e ∧
      ¬oldDisk.KeepsFiles ((callOf [0xD800]).run {} actorPath oldDisk).1 := by
  obtain ⟨hresult, hold, hempty⟩ := run_surrogate
  refine ⟨_, hresult, ?_⟩
  intro hkeeps
  cases hold.symm.trans ((hkeeps _).symm.trans hempty)

end Build

end ActorFacade
