import ActorFacade.Files.Disk
import ActorFacade.Suite.Reading
import ActorFacade.Text.Lines

/-! # Loading suites

A suite is loaded from a file, or from the file `actor.yml` in a directory.  Blank files and files
without a value count as empty mappings; what reads the others is a parameter.
-/

namespace ActorFacade.Suite

/-- Why a suite cannot be loaded. -/
inductive LoadError where
  /-- The path starts in a home directory that is not known. -/
  | noHome
  | missing (p : Path)
  | path (cause : PathError)
  | decode (cause : Utf8.DecodeError)
  /-- The file with this name has no value. -/
  | document (name : Text) (cause : DocumentFault)
  /-- The file with this name has a value that is no mapping. -/
  | notMapping (name : Text)
  | suite (cause : ReadError)
deriving DecidableEq, Repr

/-- The wording of an error. -/
def LoadError.message : LoadError → Text
  | .noHome => "Could not determine home directory."
  | .missing p => "Actor configuration not found: " ++ p.text
  | .path cause => cause.message
  | .decode cause => cause.message
  | .document name (.malformed words) => "Failed to parse " ++ name ++ ": " ++ words
  | .document _ (.other _ words) => words
  | .notMapping name => name ++ " must contain a mapping at the root"
  | .suite cause => cause.message

/-- The name of the file of a suite in its directory. -/
def fileName : Path := Path.ofText "actor.yml"

/-- Why the home directory that a path starts in is not known: the name of its owner may be one that
nobody has, or one that nobody can have. -/
def homeError (p : Path) : LoadError :=
  match Path.bytesOf ((p.parts.headD []).drop 1) with
  | .ok _ => .noHome
  | .error e => .path ⟨e, p⟩

/-- The result of an operation on a path. -/
def onPath {α : Type} (p : Path) (r : Except FileError α) : Except LoadError α :=
  r.mapError fun e ↦ .path ⟨e, p⟩

/-- The file that a path stands for. -/
def locate (disk : Disk) (p : Path) : Except LoadError Path := do
  match disk.expandHome p with
  | none => throw (homeError p)
  | some p =>
    let file := if ← onPath p (disk.isDirectory p) then p.append fileName else p
    onPath file (disk.resolve file)

/-- The text of a file. -/
def readText (disk : Disk) (p : Path) : Except LoadError Text := do
  let bytes ← onPath p (disk.read p)
  return Text.unifyNewlines (← (Utf8.decode bytes).mapError .decode)

/-- The value of a text; a blank text has the null value. -/
def valueOf (read : DocumentReader) (name : Text) (t : Text) : Except LoadError Circular :=
  if t.trim.isEmpty then .ok (.ofAtom .null) else (read t).mapError (.document name)

/-- The mapping that a file holds. -/
def readMapping (read : DocumentReader) (disk : Disk) (p : Path) : Except LoadError Circular := do
  let c ← valueOf read p.name (← readText disk p)
  match c.atom?, c.entries? with
  | some .null, _ => return .empty
  | _, some _ => return c
  | _, none => throw (.notMapping p.name)

/-- Loads a suite. -/
def load (read : DocumentReader) (disk : Disk) (p : Path) : Except LoadError Suite := do
  let file ← locate disk p
  if !(← onPath file (disk.hasPath file)) then throw (.missing file)
  (ofValue (← readMapping read disk file) file.text).mapError .suite

end ActorFacade.Suite
