import ActorFacade.Proofs.Build.Idempotence
import ActorFacade.Proofs.Text.Chunks

/-! # Files that are replaced

A build looks at the first line of the file in its place and at nothing else.  A file whose first
line carries the fingerprint is left alone, and any other file is replaced by what is rendered, as
long as the part of the file that is read with its first line is text (`run_replaces`).  Of a file
that is text, every part is.
-/

namespace ActorFacade.Build

variable {disk : Disk} {p : Path} {line hash : Text} {old bytes : List UInt8}

/-! ## First lines -/

/-- A line is the mark of a stamp and then a fingerprint with nothing but blanks around it. -/
def Carries (line hash : Text) : Prop :=
  ∃ rest, line = ActorText.stampMark ++ rest ∧ Text.trim rest = hash

/-- The stamp of a line is what the line carries, if this is anything. -/
theorem stampOf?_eq_some_iff : stampOf? line = some hash ↔ hash ≠ [] ∧ Carries line hash := by
  unfold stampOf? Carries
  split
  case isTrue hmark =>
    obtain ⟨rest, rfl⟩ := List.isPrefixOf_iff_prefix.1 hmark
    simp only [List.drop_left, List.append_cancel_left_eq, exists_eq_left', List.isEmpty_iff]
    constructor
    · intro h
      split at h
      case isTrue => cases h
      case isFalse hne =>
        cases h
        exact ⟨hne, rfl⟩
    · rintro ⟨hne, rfl⟩
      rw [if_neg hne]
  case isFalse hmark =>
    constructor
    · intro h
      cases h
    · rintro ⟨-, rest, rfl, -⟩
      exact absurd (List.isPrefixOf_iff_prefix.2 (List.prefix_append _ _)) hmark

/-- A fingerprint is not empty. -/
theorem ne_nil_of_fingerprint {registry : Registry} {o : Actor.Options} {suite : Suite}
    (h : (Actor.fingerprint registry o suite).result = .ok hash) : hash ≠ [] := by
  obtain ⟨table, -, hstamp⟩ := Actor.exists_of_fingerprint h
  obtain ⟨message, -, rfl⟩ := Actor.exists_of_stamp hstamp
  rw [← List.length_pos_iff, Sha256.length_hexDigest]
  decide

/-! ## Looking at the file -/

/-- A file is up to date if its first line carries the fingerprint; it cannot be looked at if this
line cannot be read. -/
theorem isUpToDate_of_read (hread : disk.read p = .ok old) (hne : hash ≠ []) :
    (∀ cause, Utf8.firstLine old = .error cause →
      isUpToDate disk p false hash = .error (.decode cause)) ∧
    ∀ line, Utf8.firstLine old = .ok line →
      (Carries line hash → isUpToDate disk p false hash = .ok true) ∧
      (¬Carries line hash → isUpToDate disk p false hash = .ok false) := by
  have hlook : isUpToDate disk p false hash =
      ((Utf8.firstLine old).mapError .decode).map (stampOf? · == some hash) := by
    rw [isUpToDate, if_neg Bool.false_ne_true, readStamp, hread]
    show ((stampOfBytes old).mapError _).map _ = _
    rw [stampOfBytes]
    cases Utf8.firstLine old <;> rfl
  constructor
  · intro cause hline
    rw [hlook, hline]
    rfl
  · intro line hline
    have hstamp : stampOf? line = some hash ↔ Carries line hash := by
      rw [stampOf?_eq_some_iff, and_iff_right hne]
    rw [hlook, hline]
    constructor
    · intro hcarries
      exact congrArg Except.ok (beq_iff_eq.2 (hstamp.2 hcarries))
    · intro hcarries
      exact congrArg Except.ok (beq_eq_false_iff_ne.2 (mt hstamp.1 hcarries))

/-! ## Writing over a file -/

/-- A text that can be encoded is written over a file that is there, and this is all that
changes. -/
theorem writeText_of_read (htree : disk.IsTree) (hread : disk.read p = .ok old) {text : Text}
    (hencode : Utf8.encode text = .ok bytes) :
    ∃ disk', disk.write p bytes = .ok disk' ∧ writeText disk p text = (disk', .ok ()) := by
  obtain ⟨disk', hwrite⟩ := Disk.exists_write_of_read hread bytes
  refine ⟨disk', hwrite, ?_⟩
  rw [writeText, Disk.makeDirectories_of_isDirectory (htree.isDirectory_parent hread)]
  simp only [hencode, hwrite]

/-! ## Builds

What becomes of a build is decided when its file is looked at. -/

namespace Call

variable {o : Actor.Options} {c : Call} {disk' : Disk} {e : Fault} {rendered : Actor.Rendered}

theorem run_of_unreadable (hcheck : Actor.check c.suite = .ok ())
    (hhash : c.fingerprint o = .ok hash) (hlook : isUpToDate disk p c.force hash = .error e) :
    (c.run o p disk).1 = disk ∧ (c.run o p disk).2.result = .error e := by
  rw [run_of_fingerprint hcheck hhash, refresh, hlook]
  exact ⟨rfl, rfl⟩

theorem run_of_current (hcheck : Actor.check c.suite = .ok ()) (hhash : c.fingerprint o = .ok hash)
    (hlook : isUpToDate disk p c.force hash = .ok true) :
    (c.run o p disk).1 = disk ∧ (c.run o p disk).2.result = .ok ⟨p, false, hash, none⟩ := by
  rw [run_of_fingerprint hcheck hhash, refresh, hlook]
  exact ⟨rfl, rfl⟩

theorem run_of_stale (hcheck : Actor.check c.suite = .ok ()) (hhash : c.fingerprint o = .ok hash)
    (hlook : isUpToDate disk p c.force hash = .ok false) (hproduced : c.produced o = .ok rendered)
    (hwrite : writeText disk p rendered.text = (disk', .ok ())) :
    (c.run o p disk).1 = disk' ∧
      (c.run o p disk).2.result = .ok ⟨p, true, hash, some rendered.methods.length⟩ := by
  have hrendered : (c.generator o).produce.result = .ok rendered := hproduced
  rw [run_of_fingerprint hcheck hhash, refresh, hlook]
  simp only [render, Logged.mapError, hrendered, mapError_ok, keepNone]
  rw [hwrite]
  exact ⟨rfl, rfl⟩

end Call

/-- A build over a file leaves the file alone if its first line carries the fingerprint, and
otherwise it puts what it renders in its place and changes nothing else.  It fails only if the first
line cannot be read; the first line of a file that is text can.  The fingerprint is taken before
anything is rendered, so that what is rendered is of the registry that this leaves behind. -/
theorem run_replaces {suite : Suite} {output : Option Path} {registry : Registry}
    {o : Actor.Options} {first rendered : Actor.Rendered} {disk' : Disk}
    {log : Logged Fault Outcome} (htree : disk.IsTree)
    (htarget : target disk suite output = .ok p) (hread : disk.read p = .ok old)
    (hfirst : (Actor.produce registry o suite).result = .ok first)
    (hproduced : (Actor.produce (registry.settled suite) o suite).result = .ok rendered)
    (hencode : Utf8.encode rendered.text = .ok bytes)
    (hrun : run disk suite output registry o false = (disk', log)) :
    ∃ hash, (Actor.fingerprint registry o suite).result = .ok hash ∧
      (∀ cause, Utf8.firstLine old = .error cause →
        disk' = disk ∧ log.result = .error (.decode cause)) ∧
      (∀ line, Utf8.firstLine old = .ok line →
        (Carries line hash → disk' = disk ∧ log.result = .ok ⟨p, false, hash, none⟩) ∧
        (¬Carries line hash → disk.write p bytes = .ok disk' ∧ disk'.read p = .ok bytes ∧
          log.result = .ok ⟨p, true, hash, some rendered.methods.length⟩)) ∧
      ∀ text, Utf8.decode old = .ok text → Utf8.firstLine old = .ok (Utf8.lineOf text) := by
  obtain ⟨hcheck, hash, hhash⟩ := Actor.exists_fingerprint_of_produce hfirst
  obtain ⟨hunreadable, hreadable⟩ := isUpToDate_of_read hread (ne_nil_of_fingerprint hhash)
  let c : Call := { suite, registry }
  have hcall : c.run o p disk = (disk', log) := (run_of_target htarget).symm.trans hrun
  refine ⟨hash, hhash, ?_, ?_, fun _ ↦ Utf8.firstLine_of_decode⟩
  · intro cause hline
    have hdone := Call.run_of_unreadable (c := c) hcheck hhash (hunreadable cause hline)
    rwa [hcall] at hdone
  · intro line hline
    obtain ⟨hcurrent, hstale⟩ := hreadable line hline
    constructor
    · intro hcarries
      have hdone := Call.run_of_current (c := c) hcheck hhash (hcurrent hcarries)
      rwa [hcall] at hdone
    · intro hcarries
      obtain ⟨disk₁, hwrite, htext⟩ := writeText_of_read htree hread hencode
      have hdone := Call.run_of_stale (c := c) hcheck hhash (hstale hcarries) hproduced htext
      rw [hcall] at hdone
      obtain ⟨rfl, hresult⟩ := hdone
      exact ⟨hwrite, Disk.read_of_write hwrite, hresult⟩

/-- A disk with some bytes in place of the actor. -/
def diskOf (old : List UInt8) : Disk := ({} : Disk).set actorPath.parts (.file old)

theorem isTree_diskOf (old : List UInt8) : (diskOf old).IsTree :=
  Disk.isTree_empty.set (by decide) rfl _

theorem read_diskOf (old : List UInt8) : (diskOf old).read actorPath = .ok old := rfl

/-- The actor of the first name is rendered in characters of ASCII, as often as it is. -/
theorem exists_of_produced_first :
    ∃ rendered bytes,
      (Actor.produce (callOf "First").registry {} (callOf "First").suite).result = .ok rendered ∧
      (callOf "First").produced {} = .ok rendered ∧ Utf8.encode rendered.text = .ok bytes := by
  have htext : ((callOf "First").produced {}).toOption.map (·.text.all (· < 0x80)) = some true := by
    decide +kernel
  have hsettled : (callOf "First").registry.settled (callOf "First").suite =
      (callOf "First").registry := by
    decide +kernel
  cases hproduced : (callOf "First").produced {} with
  | error e =>
    rw [hproduced] at htext
    cases htext
  | ok rendered =>
    rw [hproduced] at htext
    have hascii : ∀ c ∈ rendered.text, c < 0x80 := fun c hc ↦
      of_decide_eq_true (List.all_eq_true.1 (Option.some.inj htext) c hc)
    refine ⟨rendered, _, ?_, rfl, Utf8.encodeFrom_of_ascii hascii 0⟩
    rw [← hsettled]
    exact hproduced

/-- It replaces a file that holds something else. -/
theorem run_replaces_old :
    ∃ disk' log hash rendered bytes,
      run (diskOf [0x6F, 0x6C, 0x64]) (callOf "First").suite (some actorPath)
        (callOf "First").registry {} false = (disk', log) ∧
      (callOf "First").produced {} = .ok rendered ∧ Utf8.encode rendered.text = .ok bytes ∧
      disk'.read actorPath = .ok bytes ∧
      log.result = .ok ⟨actorPath, true, hash, some rendered.methods.length⟩ := by
  obtain ⟨rendered, bytes, hfirst, hproduced, hencode⟩ := exists_of_produced_first
  have htarget : target (diskOf [0x6F, 0x6C, 0x64]) (callOf "First").suite (some actorPath) =
      .ok actorPath := rfl
  obtain ⟨hash, -, -, hread, htext⟩ := run_replaces (isTree_diskOf _) htarget (read_diskOf _)
    hfirst hproduced hencode rfl
  have hstale : ¬Carries (Utf8.lineOf "old") hash := by
    rintro ⟨rest, he, -⟩
    exact absurd ⟨rest, he.symm⟩ (by decide : ¬ActorText.stampMark <+: Utf8.lineOf "old")
  obtain ⟨-, hwritten, hresult⟩ := (hread _ (htext "old" rfl)).2 hstale
  exact ⟨_, _, hash, rendered, bytes, rfl, hproduced, hencode, hwritten, hresult⟩

/-- Two bytes that are no text make the same build fail. -/
theorem run_of_undecodable :
    (diskOf [0xFF, 0xFE]).IsTree ∧ (diskOf [0xFF, 0xFE]).read actorPath = .ok [0xFF, 0xFE] ∧
      (∃ rendered bytes,
        (Actor.produce (callOf "First").registry {} (callOf "First").suite).result = .ok rendered ∧
        (callOf "First").produced {} = .ok rendered ∧ Utf8.encode rendered.text = .ok bytes) ∧
      ((callOf "First").run {} actorPath (diskOf [0xFF, 0xFE])).2.result =
        .error (.decode ⟨0xFF, 0, 1, .invalidStart⟩) := by
  refine ⟨isTree_diskOf _, read_diskOf _, exists_of_produced_first, ?_⟩
  obtain ⟨rendered, bytes, hfirst, -, -⟩ := exists_of_produced_first
  obtain ⟨hcheck, hash, hhash⟩ := Actor.exists_fingerprint_of_produce hfirst
  have hline : Utf8.firstLine [0xFF, 0xFE] = .error ⟨0xFF, 0, 1, .invalidStart⟩ := by
    rw [Utf8.firstLine, Utf8.firstLineFrom]
    rfl
  have hlook := (isUpToDate_of_read (read_diskOf _) (ne_nil_of_fingerprint hhash)).1 _ hline
  exact (Call.run_of_unreadable hcheck hhash hlook).2

end ActorFacade.Build
