import ActorFacade.CommandLine.Arguments
import ActorFacade.CommandLine.Complaint
import ActorFacade.Reporting

/-! # The program

The program sets reporting up, loads a suite and builds its actor.  It ends well with a line that
says what was done, or with a complaint, or it fails.
-/

namespace ActorFacade.CommandLine

/-- What the program takes from its surroundings. -/
structure Tools where
  /-- What reads the document of a suite. -/
  read : DocumentReader
  /-- What is said of a record that cannot be taken. -/
  notice : Record → Notice

/-- How the program ends. -/
inductive Ending where
  /-- It has something to say about what it did. -/
  | done (line : Text)
  /-- It complains about a failure that the user can mend. -/
  | failed (cause : Fault) (complaint : Text)
  /-- Its arguments make no sense. -/
  | misused
  /-- It was asked for help. -/
  | help
  /-- A failure is passed on. -/
  | broken (cause : Fault)
deriving DecidableEq, Repr

/-- What the program does. -/
structure Outcome where
  /-- The disk as it leaves it. -/
  disk : Disk
  /-- The environment as it leaves it: making modules can change their classes. -/
  environment : Environment
  /-- What the console shows of its records. -/
  console : Text
  /-- How it ends. -/
  ending : Ending
deriving DecidableEq, Repr

/-- A path that is given unless it is empty. -/
def givenPath (t : Text) : Option Path := if t.isEmpty then none else some (Path.ofText t)

/-- What a request says about reporting. -/
def Request.reporting (r : Request) : ReportingChoice :=
  { verbose := r.verbose, quiet := r.quiet, logFile := givenPath r.logFile }

/-- The path of a file as it is shown: from the working directory if it lies there. -/
def shownPath (disk : Disk) (p : Path) : Text := ((disk.relative? (disk.absolute p)).getD p).text

/-- What is said about a build of a class. -/
def doneLine (disk : Disk) (className : Text) (o : Build.Outcome) : Text :=
  let path := shownPath disk o.path
  if o.written then
    className ++ " generated at " ++ path ++ " (" ++ Text.ofNat (o.methodCount.getD 0) ++
      " methods)" ++ Text.newline
  else className ++ " is up to date (" ++ path ++ ")" ++ Text.newline

/-- A build of a class. -/
structure Built where
  /-- The disk as it leaves it. -/
  disk : Disk
  /-- The environment as it leaves it. -/
  environment : Environment
  /-- The records, and the name of the class with what was done. -/
  logged : Logged Fault (Text × Build.Outcome)

/-- Loads a suite and builds its actor. -/
def build (read : DocumentReader) (keep : Build.Keeper) (disk : Disk) (environment : Environment)
    (r : Request) : Built :=
  match Suite.load read disk (Path.ofText r.path) with
  | .error e => ⟨disk, environment, Logged.fail (.load e)⟩
  | .ok suite =>
    let registry : Registry := { environment }
    let (disk, built) := Build.run disk suite (givenPath r.output) registry {} r.force keep
    let name := suite.classText.toOption.getD []
    ⟨disk, (Build.registryAfter suite registry).environment,
      (fun o ↦ (name, o)) <$> built.mapError .build⟩

/-- How the program ends with the result of a build. -/
def endingOf (disk : Disk) : Except Fault (Text × Build.Outcome) → Ending
  | .ok (className, o) => .done (doneLine disk className o)
  | .error e =>
    match e.complaint? with
    | some complaint => .failed e complaint
    | none => .broken e

/-- Does what a request asks for; records in a log file have the given time. -/
def perform (tools : Tools) (disk : Disk) (environment : Environment) (time : Text) (r : Request) :
    Outcome :=
  let (disk, reporting, isReady) := Reporting.configure disk r.reporting
  match isReady with
  | .error e => ⟨disk, environment, [], .broken (.logFile e)⟩
  | .ok () =>
    let keep := fun disk records ↦ reporting.log disk time records
    let built := build tools.read keep disk environment r
    ⟨built.disk, built.environment,
      reporting.consoleText tools.notice time built.logged.records,
      endingOf built.disk built.logged.result⟩

/-- Runs the program with its arguments. -/
def run (tools : Tools) (disk : Disk) (environment : Environment) (time : Text)
    (args : List Text) : Outcome :=
  match readArguments args with
  | .request r => perform tools disk environment time r
  | .help => ⟨disk, environment, [], .help⟩
  | .misuse => ⟨disk, environment, [], .misused⟩

/-- What a program that ends in some way returns. -/
def Ending.code : Ending → Nat
  | .done _ | .help => 0
  | .failed .. | .broken _ => 1
  | .misused => 2

/-- What goes to the standard output. -/
def Outcome.output (o : Outcome) : Text :=
  match o.ending with
  | .done line => line
  | _ => []

/-- What goes to the error output. -/
def Outcome.errors (o : Outcome) : Text :=
  match o.ending with
  | .failed _ complaint => o.console ++ complaint
  | _ => o.console

end ActorFacade.CommandLine
