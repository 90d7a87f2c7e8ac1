import ActorFacade.Proofs.Files.Appending
import ActorFacade.Proofs.Text.Utf8
import ActorFacade.Reporting.Events

/-! # Records go where the last choice sends them

Whatever reporting was like, setting it up leaves exactly the handlers of the choice
(`replace_eq_ok`), and the log file of the choice is open from then on.  So every record reaches the
console as the choice says and, whatever its level, the file (`Run.Follows.next`); over a run, files
get the records of the choices that name them and the console shows what each choice lets through
(`Run.files_shown_of_after`).  A record whose line has no bytes misses the log file, and the console
shows a notice of it.
-/

namespace ActorFacade

/-! ## Levels -/

namespace ReportingChoice

variable {c : ReportingChoice} {l : Level}

theorem shows_eq (c : ReportingChoice) (l : Level) : c.shows l = l.reaches c.consoleLevel := by
  unfold shows consoleLevel
  split
  · rfl
  · split <;> rfl

/-- What the console shows goes to a log file as well. -/
theorem reaches_debug_of_shows (h : c.shows l = true) : l.reaches .debug = true := by
  have hdebug : Level.debug.rank ≤ c.consoleLevel.rank := by
    unfold consoleLevel
    split
    · exact Nat.le_refl _
    · split <;> decide
  rw [shows_eq] at h
  exact decide_eq_true (Nat.le_trans hdebug (of_decide_eq_true h))

end ReportingChoice

/-- An entry has bytes exactly if it has a line without surrogates. -/
theorem Entry.isSome_bytes?_iff {e : Entry} : e.bytes?.isSome = true ↔
    ∃ line, e.record.fileLine? e.time = some line ∧ line.any Text.isSurrogate = false := by
  unfold Entry.bytes? Record.fileBytes?
  cases e.record.fileLine? e.time with
  | none => simp
  | some line =>
    have hbytes : (Utf8.encode line).toOption.isSome = true ↔
        line.any Text.isSurrogate = false := by
      simp only [Option.isSome_iff_exists, toOption_eq_some_iff, Utf8.encode,
        Utf8.encodeFrom_eq_ok_iff, exists_and_left, exists_eq, and_true]
    simpa only [Option.bind_some, Option.some_inj, exists_eq_left'] using hbytes

namespace Reporting

variable {r r' start : Reporting} {disk disk' origin : Disk} {c : ReportingChoice} {p file : Path}
  {place : Location} {current : Option ReportingChoice} {events : List Event}

/-! ## Setting up -/

/-- What takes records for the log file of a choice, if it has one. -/
def fileHandlers (disk : Disk) (c : ReportingChoice) : List Handler :=
  (c.logFile.map fun p ↦ Handler.file (disk.absolute p) .debug).toList

/-- Reporting as a choice sets it up. -/
def of (disk : Disk) (c : ReportingChoice) : Reporting where
  level := c.level
  passesOn := false
  handlers := .console c.consoleLevel :: fileHandlers disk c

/-- An open log file is there, with what it had before. -/
theorem openFile_eq_ok (h : openFile disk p = (disk', .ok file)) :
    file = disk.absolute p ∧ disk'.HasFile file ∧
      disk'.workingDirectory = disk.workingDirectory ∧
      ∀ q, disk'.fileAt? q =
        if q = file.parts then some ((disk.fileAt? q).getD []) else disk.fileAt? q := by
  have hkeeps := Disk.keepsFiles_makeDirectories disk p.parent
  have hworking : (disk.makeDirectories p.parent).1.workingDirectory = disk.workingDirectory :=
    Disk.workingDirectory_makeDirectoriesFrom _ _ _
  unfold openFile at h
  split at h
  case h_1 => cases h
  case h_2 made hmade =>
    rw [hmade] at hkeeps hworking
    dsimp only at h
    split at h
    case h_1 => cases h
    case h_2 happend =>
      cases h
      obtain ⟨place, hplace, -⟩ := Disk.append_eq_ok_iff.1 happend
      obtain rfl := Disk.eq_of_locate_absolute hplace
      obtain ⟨hfile, hsame, hfiles⟩ := Disk.hasFile_of_append hplace happend
      refine ⟨Disk.absolute_congr hworking p, hfile, hsame.trans hworking, fun q ↦ ?_⟩
      rw [hfiles, hkeeps, List.append_nil]

/-- Setting reporting up leaves the handlers of the choice and no others. -/
theorem replace_eq_ok (h : r.replace disk c = (disk', r', .ok ())) :
    r' = of disk c ∧ (∀ p, c.logFile = some p → disk'.HasFile (disk.absolute p)) ∧
      disk'.workingDirectory = disk.workingDirectory ∧
      ∀ q, disk'.fileAt? q =
        if c.place? disk = some q then some ((disk.fileAt? q).getD []) else disk.fileAt? q := by
  unfold replace at h
  unfold ReportingChoice.place? of fileHandlers
  simp only [clear_eq] at h
  cases hlog : c.logFile with
  | none =>
    rw [hlog] at h
    cases h
    exact ⟨rfl, nofun, rfl, fun q ↦ rfl⟩
  | some p =>
    rw [hlog] at h
    dsimp only at h
    split at h
    case h_1 file hopen =>
      cases h
      obtain ⟨rfl, hfile, hworking, hfiles⟩ := openFile_eq_ok hopen
      refine ⟨rfl, ?_, hworking, fun q ↦ ?_⟩
      · rintro _ ⟨⟩
        exact hfile
      · simp only [hfiles, Option.map_some, Option.some_inj, eq_comm]
    case h_2 => cases h

/-! ## Records -/

/-- The console takes what a choice shows, and a log file takes all from the level of details on. -/
theorem takers_of (disk : Disk) (c : ReportingChoice) (record : Record) :
    (of disk c).takers record =
      (if c.shows record.level then [Handler.console c.consoleLevel] else []) ++
        if record.level.reaches .debug then fileHandlers disk c else [] := by
  unfold takers of fileHandlers ReportingChoice.level
  rw [ReportingChoice.shows_eq]
  cases c.logFile with
  | none => simp [Handler.least, List.filter_cons]
  | some p =>
    by_cases hdebug : record.level.reaches .debug = true
    · by_cases hshows : record.level.reaches c.consoleLevel = true <;>
        simp [Handler.least, hdebug, hshows]
    · have hshows : record.level.reaches c.consoleLevel = false := by
        rw [← ReportingChoice.shows_eq]
        exact Bool.eq_false_iff.2 fun h ↦ hdebug (ReportingChoice.reaches_debug_of_shows h)
      simp [hdebug, hshows]

/-- A log file that cannot get a record says so on the console. -/
theorem flatMap_shown_fileHandlers (disk : Disk) (c : ReportingChoice) (e : Entry) :
    (if e.record.level.reaches .debug then fileHandlers disk c else []).flatMap
        (·.shown e.notice e.time e.record) =
      if c.keeps e.record.level && e.bytes?.isNone then e.notice .file else [] := by
  unfold fileHandlers ReportingChoice.keeps Entry.bytes?
  cases c.logFile with
  | none => cases e.record.level.reaches .debug <;> rfl
  | some p =>
    cases e.record.level.reaches .debug with
    | false => rfl
    | true =>
      have hfile : (Handler.file (disk.absolute p) .debug).shown e.notice e.time e.record =
          if (e.record.fileBytes? e.time).isSome then [] else e.notice .file := rfl
      cases hbytes : e.record.fileBytes? e.time <;> simp [hfile, hbytes]

/-- The console shows what a choice lets through, once, with a log file and without. -/
theorem shown_of (disk : Disk) (c : ReportingChoice) (e : Entry) :
    (of disk c).shown e.notice e.time e.record = c.shown e := by
  have hshown : (of disk c).shown e.notice e.time e.record =
      ((of disk c).takers e.record).flatMap (·.shown e.notice e.time e.record) := rfl
  rw [hshown, takers_of, List.flatMap_append, flatMap_shown_fileHandlers, ReportingChoice.shown]
  refine congrArg (· ++ _) ?_
  split
  · exact List.append_nil _
  · rfl

/-- Handlers of the console leave the disk as it is. -/
theorem logOne_eq_self (h : ∀ x ∈ r.handlers, x.sink = .console) (time : Text) (disk : Disk)
    (record : Record) : r.logOne time disk record = disk := by
  have htakers : ∀ x ∈ r.takers record, x.sink = .console := by
    unfold takers
    split
    · exact fun x hx ↦ h x (List.mem_filter.1 hx).1
    · exact nofun
  unfold logOne
  generalize r.takers record = xs at htakers
  induction xs with
  | nil => rfl
  | cons x xs ih =>
    obtain ⟨hx, hxs⟩ := List.forall_mem_cons.1 htakers
    cases x with
    | console => exact ih hxs
    | file => cases hx

/-- With a log file, a record goes to it from the level of details on. -/
theorem logOne_of (hlog : c.logFile = some p) (time : Text) (origin disk : Disk)
    (record : Record) : (of origin c).logOne time disk record =
      if record.level.reaches .debug then
        Handler.keep time record disk (.file (origin.absolute p) .debug)
      else disk := by
  have hconsole : (if c.shows record.level then [Handler.console c.consoleLevel] else []).foldl
      (Handler.keep time record) disk = disk := by
    split <;> rfl
  rw [logOne, takers_of, List.foldl_append, hconsole, fileHandlers, hlog]
  split <;> rfl

/-- A log file that is there gets the bytes of an entry, if it has any. -/
theorem gains_keep (h : disk.HasFile p) (e : Entry) (least : Level) :
    disk.Gains (Handler.keep e.time e.record disk (.file p least)) fun place ↦
      if place = p.parts then e.bytes?.getD [] else [] := by
  unfold Handler.keep Entry.bytes?
  cases e.record.fileBytes? e.time with
  | some bytes =>
    obtain ⟨disk', happend, hgains⟩ := h.append bytes
    have hkeep : ((disk.append p bytes).toOption).getD disk = disk' := by rw [happend]; rfl
    dsimp only [Option.getD_some]
    exact hkeep ▸ hgains
  | none => exact Disk.Gains.refl fun place ↦ ite_self _

/-! ## What is to be reported, event by event -/

theorem judged_cons (current : Option ReportingChoice) (event : Event) (events : List Event) :
    judged current (event :: events) =
      judged current [event] ++ judged (latest current event) events := by
  cases event <;> rfl

theorem gainOf_cons (origin : Disk) (q : Location) (current : Option ReportingChoice)
    (event : Event) (events : List Event) :
    gainOf origin q current (event :: events) =
      gainOf origin q current [event] ++ gainOf origin q (latest current event) events := by
  simp only [gainOf, entriesFor, judged_cons current event events, List.filterMap_append,
    List.flatMap_append]

theorem shownOf_cons (start : Reporting) (current : Option ReportingChoice) (event : Event)
    (events : List Event) :
    shownOf start current (event :: events) =
      shownOf start current [event] ++ shownOf start (latest current event) events := by
  simp only [shownOf, judged_cons current event events, List.flatMap_append]

theorem gainOf_record (origin : Disk) (q : Location) (current : Option ReportingChoice)
    (e : Entry) : gainOf origin q current [.record e] =
      if current.bind (·.place? origin) = some q ∧ e.record.level.reaches .debug
      then e.bytes?.getD [] else [] := by
  unfold gainOf entriesFor judged judged
  by_cases hq : current.bind (·.place? origin) = some q ∧ e.record.level.reaches .debug
  · simp [hq]
  · simp only [hq, if_false, List.filterMap_cons, List.filterMap_nil, List.flatMap_nil]

theorem openedBy_cons (origin : Disk) (q : Location) (event : Event) (events : List Event)
    (old : Option (List UInt8)) : openedBy origin q (event :: events) old =
      openedBy origin q events (openedBy origin q [event] old) := by
  unfold openedBy
  by_cases hevent : names origin q event = true <;>
    by_cases hevents : events.any (names origin q) = true <;> simp [hevent, hevents]

/-- What suits its choice goes to all the log files that are to get it. -/
theorem isSome_bytes?_of_suits
    (h : ∀ e c, (e, some c) ∈ judged current events → ReportingChoice.Suits c e) {e : Entry}
    (he : e ∈ entriesFor origin place current events) : e.bytes?.isSome = true := by
  obtain ⟨⟨e', c⟩, hjudged, hplace⟩ := List.mem_filterMap.1 he
  dsimp only at hplace
  split at hplace
  case isFalse => cases hplace
  case isTrue hnames =>
    cases hplace
    obtain ⟨c, rfl, hplace⟩ := Option.bind_eq_some_iff.1 hnames.1
    obtain ⟨p, hp, -⟩ := Option.map_eq_some_iff.1 hplace
    refine Entry.isSome_bytes?_iff.2 ((h e c hjudged).file ?_)
    rw [ReportingChoice.keeps, hp, hnames.2]
    rfl

/-- Of what suits its choice the console shows the line and no notice. -/
theorem shown_eq_line {e : Entry} (h : c.Suits e) : c.shown e = c.line e := by
  unfold ReportingChoice.shown ReportingChoice.line Record.consoleLine?
  have hfile : (c.keeps e.record.level && e.bytes?.isNone) = false := by
    cases hkeeps : c.keeps e.record.level with
    | false => rfl
    | true =>
      have hbytes : e.bytes?.isSome = true := Entry.isSome_bytes?_iff.2 (h.file hkeeps)
      rw [Bool.true_and, Option.isNone_eq_false_iff, hbytes]
  rw [hfile, if_neg Bool.false_ne_true, List.append_nil]
  split
  case isFalse => rfl
  case isTrue hshows =>
    obtain ⟨message, hmessage⟩ := Option.isSome_iff_exists.1 (h.console hshows)
    rw [hmessage]
    rfl

/-- If all entries suit their choices there are no notices. -/
theorem shownOf_eq_linesOf (start : Reporting)
    (h : ∀ e c, (e, some c) ∈ judged current events → ReportingChoice.Suits c e) :
    shownOf start current events = linesOf start current events := by
  refine List.flatMap_congr fun ⟨e, c⟩ hjudged ↦ ?_
  cases c with
  | none => rfl
  | some c => exact shown_eq_line (h e c hjudged)

/-- What is added to a file that is there stays when the file is opened again. -/
theorem openedBy_map {old : Option (List UInt8)} {gain : List UInt8}
    (hgain : old = none → gain = []) (origin : Disk) (q : Location) (events : List Event) :
    openedBy origin q events (old.map (· ++ gain)) =
      (openedBy origin q events old).map (· ++ gain) := by
  unfold openedBy
  cases old with
  | none => simp [hgain rfl]
  | some old => split <;> rfl

/-! ## Runs -/

namespace Run

variable {s s' : Run} {current : Option ReportingChoice} {event : Event} {events : List Event}

/-- Where a run of reporting stands when its last choice so far, if any, is known. -/
structure Follows (origin : Disk) (start : Reporting) (current : Option ReportingChoice)
    (s : Run) : Prop where
  /-- Relative paths mean what they meant at the beginning. -/
  working : s.disk.workingDirectory = origin.workingDirectory
  /-- Records are reported as the last choice says. -/
  reporting : s.reporting = current.elim start (Reporting.of origin)
  /-- The log file of the last choice is there. -/
  opened : ∀ c ∈ current, ∀ p ∈ c.logFile, s.disk.HasFile (origin.absolute p)

namespace Follows

/-- A set-up makes its choice the last one. -/
theorem configure (h : Follows origin start current s)
    (hnext : s.next (.configure c) = (s', .ok ())) :
    Follows origin start (some c) s' ∧ s'.shown = s.shown ∧
      ∀ q, s'.disk.fileAt? q = openedBy origin q [.configure c] (s.disk.fileAt? q) := by
  have habsolute : ∀ p, s.disk.absolute p = origin.absolute p := Disk.absolute_congr h.working
  cases hreplace : s.reporting.replace s.disk c with | mk disk' rest =>
  obtain ⟨r', outcome⟩ := rest
  simp only [next, hreplace] at hnext
  cases hnext
  obtain ⟨rfl, hopened, hworking, hfiles⟩ := replace_eq_ok hreplace
  refine ⟨⟨hworking.trans h.working, ?_, ?_⟩, rfl, fun q ↦ ?_⟩
  · simp only [Reporting.of, fileHandlers, habsolute, Option.elim_some]
  · rintro _ ⟨⟩ p hp
    rw [← habsolute]
    exact hopened p hp
  · rw [hfiles]
    simp only [openedBy, names, List.any_cons, List.any_nil, Bool.or_false, beq_iff_eq,
      ReportingChoice.place?, habsolute]

/-- What is added is added to a file that is there. -/
theorem gainOf_eq_nil (h : Follows origin start current s) {q : Location}
    (hq : openedBy origin q [event] (s.disk.fileAt? q) = none) :
    gainOf origin q current [event] = [] := by
  cases event with
  | configure c => rfl
  | record e =>
    rw [gainOf_record, if_neg]
    rintro ⟨hplace, -⟩
    obtain ⟨c, hc, hplace⟩ := Option.bind_eq_some_iff.1 hplace
    obtain ⟨p, hp, rfl⟩ := Option.map_eq_some_iff.1 hplace
    have hfile := (h.opened c hc p hp).file
    have hnone : s.disk.fileAt? (origin.absolute p).parts = none := hq
    rw [hnone] at hfile
    cases hfile

/-- Only the log file of the last choice gets a record. -/
theorem gains_logOne (hstart : ∀ x ∈ start.handlers, x.sink = .console)
    (h : Follows origin start current s) (e : Entry) :
    s.disk.Gains (s.reporting.logOne e.time s.disk e.record) fun place ↦
      gainOf origin place current [.record e] := by
  have hplace : current.bind (·.place? origin) =
      (current.bind (·.logFile)).map fun p ↦ (origin.absolute p).parts := by
    cases current <;> rfl
  simp only [gainOf_record, hplace]
  cases hlog : current.bind (·.logFile) with
  | none =>
    have hconsole : ∀ x ∈ s.reporting.handlers, x.sink = .console := by
      rw [h.reporting]
      cases current with
      | none => exact hstart
      | some c =>
        have hc : c.logFile = none := hlog
        simp [Reporting.of, fileHandlers, hc, Handler.sink]
    rw [logOne_eq_self hconsole]
    exact Disk.Gains.refl fun place ↦ if_neg fun hgain ↦ nomatch hgain.1
  | some p =>
    obtain ⟨c, rfl, hp⟩ := Option.bind_eq_some_iff.1 hlog
    rw [h.reporting, Option.elim_some, logOne_of hp]
    by_cases hdebug : e.record.level.reaches .debug = true
    · have hgains := gains_keep (h.opened c rfl p hp) e .debug
      rw [if_pos hdebug]
      simpa only [Option.map_some, Option.some_inj, hdebug, and_true, eq_comm] using hgains
    · rw [if_neg hdebug]
      exact Disk.Gains.refl fun place ↦ if_neg fun hgain ↦ hdebug hgain.2

/-- A record goes where the last choice sends it. -/
theorem record (hstart : ∀ x ∈ start.handlers, x.sink = .console)
    (h : Follows origin start current s) (e : Entry) :
    Follows origin start current (s.next (.record e)).1 ∧
      (s.next (.record e)).1.shown = s.shown ++ shownOf start current [.record e] ∧
      ∀ q, (s.next (.record e)).1.disk.fileAt? q =
        (s.disk.fileAt? q).map (· ++ gainOf origin q current [.record e]) := by
  have hgains := h.gains_logOne hstart e
  refine ⟨⟨hgains.working.trans h.working, h.reporting,
    fun c hc p hp ↦ (h.opened c hc p hp).of_gains hgains⟩, ?_, hgains.files⟩
  have hone : ∀ line : Text, line = line ++ [] := fun line ↦ (List.append_nil line).symm
  show s.shown ++ s.reporting.shown e.notice e.time e.record = _
  rw [h.reporting]
  cases current with
  | none => exact congrArg (s.shown ++ ·) (hone _)
  | some c => exact congrArg (s.shown ++ ·) ((shown_of origin c e).trans (hone _))

/-- An event opens files and adds to them as it is to. -/
theorem next (hstart : ∀ x ∈ start.handlers, x.sink = .console)
    (h : Follows origin start current s) (hnext : s.next event = (s', .ok ())) :
    Follows origin start (latest current event) s' ∧
      s'.shown = s.shown ++ shownOf start current [event] ∧
      ∀ q, s'.disk.fileAt? q = (openedBy origin q [event] (s.disk.fileAt? q)).map
        (· ++ gainOf origin q current [event]) := by
  cases event with
  | configure c =>
    obtain ⟨hfollows, hshown, hfiles⟩ := h.configure hnext
    have hgain : ∀ q, gainOf origin q current [.configure c] = [] := fun q ↦ rfl
    refine ⟨hfollows, hshown.trans (List.append_nil _).symm, fun q ↦ ?_⟩
    simp only [hfiles, hgain, List.append_nil, Option.map_id']
  | record e =>
    cases hnext
    exact h.record hstart e

end Follows

/-- Over a run, files are opened and added to, and the console shows what it is to. -/
theorem Follows.after (hstart : ∀ x ∈ start.handlers, x.sink = .console)
    (h : Follows origin start current s) (hafter : s.after events = .ok s') :
    s'.shown = s.shown ++ shownOf start current events ∧
      ∀ q, s'.disk.fileAt? q = (openedBy origin q events (s.disk.fileAt? q)).map
        (· ++ gainOf origin q current events) := by
  induction events generalizing s current with
  | nil =>
    cases hafter
    have hgain : ∀ q, gainOf origin q current [] = [] := fun q ↦ rfl
    refine ⟨(List.append_nil _).symm, fun q ↦ ?_⟩
    simp only [openedBy, List.any_nil, Bool.false_eq_true, if_false, hgain, List.append_nil,
      Option.map_id']
  | cons event events ih =>
    unfold Run.after at hafter
    split at hafter
    case h_2 => cases hafter
    case h_1 s₁ hnext =>
      obtain ⟨hfollows, hshown, hfiles⟩ := h.next hstart hnext
      obtain ⟨hshown', hfiles'⟩ := ih hfollows hafter
      refine ⟨?_, fun q ↦ ?_⟩
      · rw [hshown', hshown, shownOf_cons start current event events, List.append_assoc]
      · rw [hfiles', hfiles, openedBy_map h.gainOf_eq_nil, ← openedBy_cons, Option.map_map,
          gainOf_cons origin q current event events]
        simp only [Function.comp_def, List.append_assoc]

/-- Records go only where the last choice before them sends them, and they go there once.  A log
file has what it had before, if anything, and then the lines of all the records, in order, for which
the last choice names it and whose lines have bytes; the console shows a line for each record that
the last choice lets through, and a notice for each sink that should take a record and cannot.  If
all records can be taken by what is to take them, the log files get them all and there are no
notices. -/
theorem files_shown_of_after (hstart : ∀ x ∈ s.reporting.handlers, x.sink = .console)
    (h : s.after events = .ok s') :
    (∀ place, s'.disk.fileAt? place = (openedBy s.disk place events (s.disk.fileAt? place)).map
      (· ++ gainOf s.disk place none events)) ∧
        s'.shown = s.shown ++ shownOf s.reporting none events ∧
          ((∀ e c, (e, some c) ∈ judged none events → ReportingChoice.Suits c e) →
            (∀ place, ∀ e ∈ entriesFor s.disk place none events, e.bytes?.isSome = true) ∧
              shownOf s.reporting none events = linesOf s.reporting none events) := by
  have hfollows : Follows s.disk s.reporting none s := ⟨rfl, rfl, nofun⟩
  obtain ⟨hshown, hfiles⟩ := hfollows.after hstart h
  exact ⟨hfiles, hshown, fun hsuits ↦
    ⟨fun _ _ ↦ isSome_bytes?_of_suits hsuits, shownOf_eq_linesOf s.reporting hsuits⟩⟩

/-- A record of some level. -/
def entryOf (level : Level) (message : Text) : Entry where
  time := "12:00"
  record := ⟨level, .root, some message⟩

/-- A log file is chosen, given up for the console alone, and chosen again. -/
def reopening : List Event :=
  [.record (entryOf .warning "early"), .configure { quiet := true, logFile := some ⟨0, ["a.log"]⟩ },
    .record (entryOf .debug "one"), .configure { verbose := true, quiet := true },
    .record (entryOf .debug "two"), .configure { logFile := some ⟨0, ["a.log"]⟩ },
    .record (entryOf ⟨15⟩ "three"), .record (entryOf .info "four")]

/-- The file has what it had before, and the records of both times. -/
theorem files_shown_of_after_reopening :
    let s : Run := { disk := { nodes := [(["a.log"], .file [0x6F, 0x6C, 0x64, 0x0A])] } }
    (∀ x ∈ s.reporting.handlers, x.sink = .console) ∧ ∃ s', s.after reopening = .ok s' ∧
      s'.disk.fileAt? ["a.log"] = some
        ((Text.ofString ("old\n12:00 DEBUG actorgen: one\n12:00 Level 15 actorgen: three\n" ++
          "12:00 INFO actorgen: four\n")).map Nat.toUInt8) ∧
      s'.shown = "early\n[actorgen] DEBUG two\n[actorgen] INFO four\n" := by
  intro s
  have hstart : ∀ x ∈ s.reporting.handlers, x.sink = .console := nofun
  obtain ⟨s', hs'⟩ := Option.isSome_iff_exists.1
    (show (s.after reopening).toOption.isSome = true by decide +kernel)
  have hafter : s.after reopening = .ok s' := toOption_eq_some_iff.1 hs'
  obtain ⟨hfiles, hshown, -⟩ := files_shown_of_after hstart hafter
  exact ⟨hstart, s', hafter, (hfiles _).trans (by decide +kernel), hshown.trans (by decide +kernel)⟩

/-- A record that names an actor in words without bytes is to go to the log file, which does not
get it. -/
theorem log_misses_surrogate :
    let message := Text.ofString "Generating actor T" ++ [0xD800]
    let e : Entry := { time := "12:00", record := ⟨.info, .part "generator", some message⟩ }
    let events : List Event := [.configure { logFile := some ⟨0, ["l.log"]⟩ }, .record e]
    entriesFor {} ["l.log"] none events = [e] ∧ ∃ s', ({ disk := {} } : Run).after events = .ok s' ∧
      s'.disk.fileAt? ["l.log"] = some [] := by
  intro message e events
  obtain ⟨s', hs', hfile⟩ : ∃ s', (({ disk := {} } : Run).after events).toOption = some s' ∧
      s'.disk.fileAt? ["l.log"] = some [] := Option.map_eq_some_iff.1 <| by
    show (({ disk := {} } : Run).after events).toOption.map (·.disk.fileAt? ["l.log"]) = _
    decide +kernel
  exact ⟨rfl, s', toOption_eq_some_iff.1 hs', hfile⟩

end Run

end Reporting

end ActorFacade
