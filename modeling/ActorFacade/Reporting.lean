import ActorFacade.Files.Disk
import ActorFacade.Journal

/-! # Reporting

Records that reach the level of reporting are handed to handlers, and each handler takes those that
reach a level of its own.  Setting reporting up takes the handlers away that there are and adds new
ones: one shows records on the console, and one adds them to a log file, if there is to be one.  The
file takes all records, each with its time.  Before anything is set up there are no handlers, and
the console shows the bare messages of warnings and worse.

What cannot do with a record what it is there for says so on the console: a record may have no
words, and the line of one in a log file may have no bytes.  What is said then tells where in the
program the record was written, so it comes with the record (`Notice`).
-/

namespace ActorFacade

/-- What reporting is to be like. -/
structure ReportingChoice where
  /-- Whether the console shows everything; this counts more than `quiet`. -/
  verbose : Bool := false
  /-- Whether the console shows warnings and worse only. -/
  quiet : Bool := false
  /-- The log file. -/
  logFile : Option Path := none
deriving DecidableEq, Repr

namespace ReportingChoice

/-- The level from which on the console shows records. -/
def consoleLevel (c : ReportingChoice) : Level :=
  if c.verbose then .debug else if c.quiet then .warning else .info

/-- The level from which on there are handlers for records. -/
def level (c : ReportingChoice) : Level := if c.logFile.isSome then .debug else c.consoleLevel

end ReportingChoice

/-- Where records go. -/
inductive Sink where
  | console
  | file
deriving DecidableEq, Repr

/-- What takes records from some level on. -/
inductive Handler where
  /-- Shows them on the console. -/
  | console (least : Level)
  /-- Adds them to a log file. -/
  | file (path : Path) (least : Level)
deriving DecidableEq, Repr

/-- What is said on the console if a sink should take a record and cannot. -/
abbrev Notice := Sink → Text

/-- The line of a record on the console. -/
def Record.consoleLine? (r : Record) : Option Text :=
  r.message.map fun message ↦ "[actorgen] " ++ r.level.name ++ " " ++ message ++ Text.newline

/-- The line of a record in a log file. -/
def Record.fileLine? (time : Text) (r : Record) : Option Text :=
  r.line?.map fun line ↦ time ++ " " ++ line ++ Text.newline

/-- The bytes of this line, if it has some: surrogates have none. -/
def Record.fileBytes? (time : Text) (r : Record) : Option (List UInt8) :=
  (r.fileLine? time).bind fun line ↦ (Utf8.encode line).toOption

namespace Handler

/-- The level from which on a handler takes records. -/
def least : Handler → Level
  | .console least | .file _ least => least

/-- Where a handler sends records. -/
def sink : Handler → Sink
  | .console _ => .console
  | .file .. => .file

/-- What the console shows when a handler takes a record. -/
def shown (notice : Notice) (time : Text) (r : Record) : Handler → Text
  | .console _ => (r.consoleLine?).getD (notice .console)
  | .file .. => if (r.fileBytes? time).isSome then [] else notice .file

/-- Adds a record that a handler takes to its log file, if the record has bytes. -/
def keep (time : Text) (r : Record) (disk : Disk) : Handler → Disk
  | .console _ => disk
  | .file p _ =>
    match r.fileBytes? time with
    | some bytes => ((disk.append p bytes).toOption).getD disk
    | none => disk

end Handler

/-- How records are reported. -/
structure Reporting where
  /-- The level that records have to reach. -/
  level : Level := .warning
  /-- Whether others than the handlers are told of them, too. -/
  passesOn : Bool := true
  /-- What takes them, in order of addition. -/
  handlers : List Handler := []
deriving DecidableEq, Repr

namespace Reporting

/-- The sinks that are set up, with their levels. -/
def sinks (r : Reporting) : List (Sink × Level) := r.handlers.map fun x ↦ (x.sink, x.least)

/-! ## Setting up -/

/-- Takes a handler away. -/
def remove (r : Reporting) (x : Handler) : Reporting := { r with handlers := r.handlers.erase x }

/-- Takes the handlers away that there are, one after the other. -/
def clear (r : Reporting) : Reporting := r.handlers.foldl remove r

/-- Adds a handler. -/
def add (r : Reporting) (x : Handler) : Reporting := { r with handlers := r.handlers ++ [x] }

/-- Opens a log file for more records; the directories that lead to it are made. -/
def openFile (disk : Disk) (p : Path) : Disk × Except PathError Path :=
  match disk.makeDirectories p.parent with
  | (disk, .error e) => (disk, .error e)
  | (disk, .ok ()) =>
    let file := disk.absolute p
    match disk.append file [] with
    | .error e => (disk, .error ⟨e, file⟩)
    | .ok disk => (disk, .ok file)

/-- Sets reporting up in place of what it was.  If the log file cannot be opened the console is set
up all the same. -/
def replace (r : Reporting) (disk : Disk) (c : ReportingChoice) :
    Disk × Reporting × Except PathError Unit :=
  let onConsole := ({ r with level := c.level, passesOn := false }.clear).add
    (.console c.consoleLevel)
  match c.logFile with
  | none => (disk, onConsole, .ok ())
  | some p =>
    match openFile disk p with
    | (disk, .ok file) => (disk, onConsole.add (.file file .debug), .ok ())
    | (disk, .error e) => (disk, onConsole, .error e)

/-- Sets reporting up for the first time. -/
def configure (disk : Disk) (c : ReportingChoice) : Disk × Reporting × Except PathError Unit :=
  replace {} disk c

/-! ## Records -/

/-- The handlers that take a record. -/
def takers (r : Reporting) (record : Record) : List Handler :=
  if record.level.reaches r.level then
    r.handlers.filter fun x ↦ record.level.reaches x.least
  else []

/-- What the console shows of a record. -/
def shown (r : Reporting) (notice : Notice) (time : Text) (record : Record) : Text :=
  if r.handlers.isEmpty then
    if record.level.reaches r.level && record.level.reaches .warning then
      (record.message.map (· ++ Text.newline)).getD (notice .console)
    else []
  else (r.takers record).flatMap (·.shown notice time record)

/-- What the console shows of some records. -/
def consoleText (r : Reporting) (notice : Record → Notice) (time : Text) (records : List Record) :
    Text :=
  records.flatMap fun record ↦ r.shown (notice record) time record

/-- Adds a record to the log file, as far as there is one and the record can be written. -/
def logOne (r : Reporting) (time : Text) (disk : Disk) (record : Record) : Disk :=
  (r.takers record).foldl (Handler.keep time record) disk

/-- Adds records to the log file one after the other. -/
def log (r : Reporting) (disk : Disk) (time : Text) (records : List Record) : Disk :=
  records.foldl (r.logOne time) disk

/-- No handler is left. -/
@[simp] theorem clear_eq (r : Reporting) : r.clear = { r with handlers := [] } := by
  have hclear : ∀ (xs : List Handler) (r : Reporting), r.handlers = xs →
      xs.foldl remove r = { r with handlers := [] } := by
    intro xs
    induction xs with
    | nil =>
      rintro r hr
      rw [List.foldl_nil, ← hr]
    | cons x xs ih =>
      intro r hr
      have hremove : (r.remove x).handlers = xs := by
        rw [remove, hr, List.erase_cons_head]
      rw [List.foldl_cons, ih _ hremove]
      rfl
  exact hclear r.handlers r rfl

end Reporting

end ActorFacade
