import ActorFacade.Reporting

/-! # Runs of reporting

Setting reporting up and writing records take turns.  `Run.after` follows such events one by one,
with what the console has shown and what the log files have got.  `entriesFor` and `shownOf` say
what that is to be, from the events alone: every record is judged by the last choice before it.
Where every record suits the choice that judges it, nothing is shown but lines (`linesOf`).
-/

namespace ActorFacade

/-- A record with its time and its place in the program. -/
structure Entry where
  /-- The time. -/
  time : Text
  /-- The record. -/
  record : Record
  /-- What is said of it, from its place in the program, if a sink cannot take it. -/
  notice : Notice := fun _ ↦ []

/-- The bytes of the line of an entry in a log file, if it has some. -/
def Entry.bytes? (e : Entry) : Option (List UInt8) := e.record.fileBytes? e.time

namespace ReportingChoice

/-- Where the log file of a choice is. -/
def place? (disk : Disk) (c : ReportingChoice) : Option Location :=
  c.logFile.map fun p ↦ (disk.absolute p).parts

/-- Whether the console is to show records of a level. -/
def shows (c : ReportingChoice) (l : Level) : Bool :=
  if c.verbose then l.reaches .debug else if c.quiet then l.reaches .warning else l.reaches .info

/-- Whether a log file is to keep records of a level. -/
def keeps (c : ReportingChoice) (l : Level) : Bool := c.logFile.isSome && l.reaches .debug

/-- The line that the console is to show for an entry, if any. -/
def line (c : ReportingChoice) (e : Entry) : Text :=
  if c.shows e.record.level then (e.record.consoleLine?).getD [] else []

/-- What the console is to show for an entry: its line, and a notice for each of the console and the
log file that should take the entry and cannot. -/
def shown (c : ReportingChoice) (e : Entry) : Text :=
  (if c.shows e.record.level then (e.record.consoleLine?).getD (e.notice .console) else []) ++
    if c.keeps e.record.level && e.bytes?.isNone then e.notice .file else []

/-- An entry can be taken by what is to take it: it has words, and for a log file a line without
surrogates. -/
structure Suits (c : ReportingChoice) (e : Entry) : Prop where
  console : c.shows e.record.level = true → e.record.message.isSome = true
  file : c.keeps e.record.level = true →
    ∃ line, e.record.fileLine? e.time = some line ∧ line.any Text.isSurrogate = false

end ReportingChoice

namespace Reporting

/-- Something that happens to reporting. -/
inductive Event where
  | configure (c : ReportingChoice)
  | record (e : Entry)

/-- Where a run of reporting stands. -/
structure Run where
  /-- The disk. -/
  disk : Disk
  /-- How records are reported. -/
  reporting : Reporting := {}
  /-- What the console has shown. -/
  shown : Text := []
deriving DecidableEq, Repr

namespace Run

/-- The run after an event; a set-up that fails has its failure beside it. -/
def next (s : Run) : Event → Run × Except PathError Unit
  | .configure c =>
    let (disk, reporting, outcome) := s.reporting.replace s.disk c
    ({ s with disk, reporting }, outcome)
  | .record e =>
    ({ s with
        disk := s.reporting.log s.disk e.time [e.record]
        shown := s.shown ++ s.reporting.shown e.notice e.time e.record }, .ok ())

/-- The run after some events, if every set-up succeeds. -/
def after (s : Run) : List Event → Except PathError Run
  | [] => .ok s
  | e :: es =>
    match s.next e with
    | (s, .ok ()) => after s es
    | (_, .error e) => .error e

end Run

/-! ## What is to be reported -/

/-- The last choice after an event. -/
def latest (current : Option ReportingChoice) : Event → Option ReportingChoice
  | .configure c => some c
  | .record _ => current

/-- The entries of events, each with the last choice before it. -/
def judged (current : Option ReportingChoice) : List Event → List (Entry × Option ReportingChoice)
  | [] => []
  | .configure c :: es => judged (some c) es
  | .record e :: es => (e, current) :: judged current es

/-- Whether a choice names the log file at a place. -/
def names (disk : Disk) (place : Location) : Event → Bool
  | .configure c => c.place? disk == some place
  | .record _ => false

/-- The entries that the log file at a place is to get: those of every level from the one of details
on for which the last choice before them names it. -/
def entriesFor (disk : Disk) (place : Location) (current : Option ReportingChoice)
    (events : List Event) : List Entry :=
  (judged current events).filterMap fun (e, c) ↦
    if c.bind (·.place? disk) = some place ∧ e.record.level.reaches .debug then some e else none

/-- The bytes that the log file at a place is to get: those of its entries that have some. -/
def gainOf (disk : Disk) (place : Location) (current : Option ReportingChoice)
    (events : List Event) : List UInt8 :=
  (entriesFor disk place current events).flatMap fun e ↦ e.bytes?.getD []

/-- What the log file at a place starts from: a choice that names it makes it if it is not there, and
leaves what it has. -/
def openedBy (disk : Disk) (place : Location) (events : List Event)
    (old : Option (List UInt8)) : Option (List UInt8) :=
  if events.any (names disk place) then some (old.getD []) else old

/-- What the console is to show.  Entries before all choices are shown in the way that there was at
the beginning. -/
def shownOf (start : Reporting) (current : Option ReportingChoice) (events : List Event) : Text :=
  (judged current events).flatMap fun (e, c) ↦
    c.elim (start.shown e.notice e.time e.record) (·.shown e)

/-- The lines that the console is to show.  Entries before all choices are shown in the way that
there was at the beginning. -/
def linesOf (start : Reporting) (current : Option ReportingChoice) (events : List Event) : Text :=
  (judged current events).flatMap fun (e, c) ↦
    c.elim (start.shown e.notice e.time e.record) (·.line e)

end Reporting

end ActorFacade
