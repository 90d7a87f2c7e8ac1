import ActorFacade.CommandLine.Places
import ActorFacade.Yaml.Reading

/-! # The command line

Reads what matters of the file system, runs the program on it, and carries out what the program has
changed.  Everything that is decided is decided by `CommandLine.run`.
-/

namespace ActorFacade.CommandLine

/-- The text of a string without a slash at its end. -/
def directoryOf (s : Option String) : Location :=
  ((Path.ofText (Text.ofString (s.getD ""))).parts)

/-- The string of a location. -/
def stringOf (place : Location) : String := (Path.text ⟨1, place⟩).toString?.getD ""

/-- What stands at a location of the file system. -/
def probe (place : Location) : IO (Option FileNode) := do
  match ← (IO.FS.readBinFile (stringOf place)).toBaseIO with
  | .ok bytes => return some (.file bytes.toList)
  | .error _ =>
    match ← (IO.FS.realPath (stringOf place)).toBaseIO with
    | .ok _ => return some .directory
    | .error _ => return none

/-- A disk with what stands at some locations. -/
def learn (disk : Disk) (known : List Location) : IO Disk :=
  known.foldlM (fun disk place ↦ do
    match place, ← probe place with
    | _ :: _, some n => return disk.set place n
    | _, _ => return disk) disk

/-- Carries out a change. -/
def carryOut (place : Location) : FileNode → IO Unit
  | .directory => IO.FS.createDirAll (stringOf place)
  | .file bytes => IO.FS.writeBinFile (stringOf place) bytes.toByteArray

/-- How to use the program. -/
def usage : String :=
  "usage: actorgen [-v] build [-v] [-q] [--force] [-o FILE] [--log-file FILE] [PATH]\n"

/-- Writes a text. -/
def put (stream : IO.FS.Stream) (t : Text) : IO Unit := stream.putStr (t.toString?.getD "")

/-- Tells the user how the program ended. -/
def tell (o : Outcome) : IO Unit := do
  let errors ← IO.getStderr
  put (← IO.getStdout) o.output
  put errors o.errors
  match o.ending with
  | .misused => errors.putStr usage
  | .help => (← IO.getStdout).putStr usage
  | .broken cause => put errors (cause.message ++ Text.newline)
  | .done _ | .failed .. => pure ()

/-- What reads documents, and what is said of a record: its message, if it has one. -/
def tools : Tools where
  read := Yaml.reader fun _ ↦ []
  notice r _ := (r.message.getD []) ++ Text.newline

/-- The disk as far as it matters for some arguments. -/
def diskFor (args : List Text) : IO Disk := do
  let empty : Disk := {
    workingDirectory := directoryOf (← IO.getEnv "PWD")
    home := directoryOf (← IO.getEnv "HOME") }
  match readArguments args with
  | .request r =>
    let first ← learn empty (places tools.read empty r)
    learn first (places tools.read first r)
  | .help | .misuse => return empty

/-- Runs the program with modules that are importable in an environment. -/
def runWith (environment : Environment) (args : List String) : IO UInt32 := do
  let args := args.map Text.ofString
  let disk ← diskFor args
  let time := Text.ofNat (← IO.monoMsNow)
  let o := run tools disk environment time args
  for (place, n) in changes disk o.disk do
    carryOut place n
  tell o
  return o.ending.code.toUInt32

end ActorFacade.CommandLine

/-- Runs the program without any modules. -/
def main (args : List String) : IO UInt32 := ActorFacade.CommandLine.runWith {} args
