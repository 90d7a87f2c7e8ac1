import ActorFacade.Files.Error

/-! # Files and directories

A disk has nodes at locations, rows of names from the root.  A path is walked name by name: only a
directory can be walked through, and only the last name of a path may lead to nothing.  A name that
is too long is refused by the directory that it is looked up in.
-/

namespace ActorFacade

/-- A place on a disk: the names that lead to it from the root. -/
abbrev Location := List Text

/-- What stands at a location. -/
inductive FileNode where
  | file (bytes : List UInt8)
  | directory
deriving DecidableEq, Repr

/-- A disk with the locations that paths can refer to without naming them. -/
structure Disk where
  /-- The nodes; the root is always a directory. -/
  nodes : List (Location × FileNode) := []
  /-- Where relative paths start. -/
  workingDirectory : Location := []
  /-- The home directory. -/
  home : Location := []
  /-- The home directories of others by their names. -/
  homes : List (Text × Location) := []
deriving DecidableEq, Repr

namespace Disk

/-! ## Looking -/

/-- The node at a location. -/
def node? (disk : Disk) (place : Location) : Option FileNode :=
  if place = [] then some .directory
  else (disk.nodes.find? fun n ↦ n.1 == place).map (·.2)

/-- Walks names from a directory. -/
def walk (disk : Disk) (here : Location) : List Text → Except FileError Location
  | [] => .ok here
  | part :: parts =>
    if part = Path.up then walk disk here.dropLast parts
    else if Path.isLongName part then .error .nameTooLong
    else
      let next := here ++ [part]
      match disk.node? next with
      | some .directory => walk disk next parts
      | some (.file _) => if parts.isEmpty then .ok next else .error .notDirectory
      | none => if parts.isEmpty then .ok next else .error .notFound

/-- The location of a path; nothing need be there. -/
def locate (disk : Disk) (p : Path) : Except FileError Location :=
  match p.refusal? with
  | some e => .error e
  | none => disk.walk (if p.isAbsolute then [] else disk.workingDirectory) p.parts

/-- The node that a path leads to, if it leads to one.  Only a name that is too long is an error. -/
def status (disk : Disk) (p : Path) : Except FileError (Option FileNode) :=
  match disk.locate p with
  | .ok place => .ok (disk.node? place)
  | .error .nameTooLong => .error .nameTooLong
  | .error _ => .ok none

/-- Whether a path leads to a directory. -/
def isDirectory (disk : Disk) (p : Path) : Except FileError Bool := do
  return (← disk.status p) == some .directory

/-- Whether a path leads to something. -/
def hasPath (disk : Disk) (p : Path) : Except FileError Bool := do
  return (← disk.status p).isSome

/-- The bytes of a file. -/
def read (disk : Disk) (p : Path) : Except FileError (List UInt8) := do
  match disk.node? (← disk.locate p) with
  | some (.file bytes) => return bytes
  | some .directory => throw .isDirectory
  | none => throw .notFound

/-- The paths of the files in the working directory, relative to it and in order. -/
def files (disk : Disk) : List Text :=
  let here := disk.workingDirectory
  let found := disk.nodes.filterMap fun n ↦
    match n.2 with
    | .file _ =>
      if here.isPrefixOf n.1 then some (Text.join "/" (n.1.drop here.length)) else none
    | .directory => none
  found.mergeSort fun a b ↦ decide (a ≤ b)

/-! ## Absolute paths -/

/-- The working directory as a path. -/
def workingPath (disk : Disk) : Path := ⟨1, disk.workingDirectory⟩

/-- The path from the root, with double dots resolved by name; it has one slash in front. -/
def absolute (disk : Disk) (p : Path) : Path :=
  ⟨1, Path.collapse (disk.workingPath.append p).parts⟩

/-- The path from the root, if its names are such that paths can hold. -/
def resolve (disk : Disk) (p : Path) : Except FileError Path :=
  match Path.resolveError? p.isAbsolute [] p.parts with
  | some e => .error e
  | none => .ok (disk.absolute p)

/-- The path from the working directory, if it leads into it. -/
def relative? (disk : Disk) (p : Path) : Option Path :=
  if disk.workingDirectory.isPrefixOf p.parts then
    some ⟨0, p.parts.drop disk.workingDirectory.length⟩
  else none

/-- The home directory of a name; without a name it is one's own. -/
def homeOf? (disk : Disk) (user : Text) : Option Location :=
  if user.isEmpty then some disk.home else disk.homes.lookup user

/-- The path with a leading tilde and the name behind it replaced by the home directory, if it is
known. -/
def expandHome (disk : Disk) (p : Path) : Option Path :=
  match p.slashes, p.parts with
  | 0, (0x7E :: user) :: parts => (disk.homeOf? user).map fun home ↦ ⟨1, home ++ parts⟩
  | _, _ => some p

/-! ## Changing -/

/-- Puts a node at a location. -/
def set (disk : Disk) (place : Location) (n : FileNode) : Disk :=
  if disk.nodes.any (·.1 == place) then
    { disk with nodes := disk.nodes.map fun m ↦ if m.1 = place then (place, n) else m }
  else { disk with nodes := disk.nodes ++ [(place, n)] }

/-- Gives a file its bytes; the directory must be there. -/
def write (disk : Disk) (p : Path) (bytes : List UInt8) : Except FileError Disk := do
  let place ← disk.locate p
  match disk.node? place with
  | some .directory => throw .isDirectory
  | _ => return disk.set place (.file bytes)

/-- Adds bytes to a file, which is made if it is not there. -/
def append (disk : Disk) (p : Path) (bytes : List UInt8) : Except FileError Disk := do
  let place ← disk.locate p
  match disk.node? place with
  | some .directory => throw .isDirectory
  | some (.file old) => return disk.set place (.file (old ++ bytes))
  | none => return disk.set place (.file bytes)

/-- Makes one directory. -/
def makeDirectory (disk : Disk) (p : Path) : Except FileError Disk := do
  let place ← disk.locate p
  match disk.node? place with
  | some _ => throw .exists
  | none => return disk.set place .directory

/-- Makes one directory unless it is there. -/
def ensureDirectory (disk : Disk) (p : Path) : Disk × Except PathError Unit :=
  match disk.makeDirectory p, disk.isDirectory p with
  | .ok disk, _ => (disk, .ok ())
  | .error _, .ok true => (disk, .ok ())
  | .error e, _ => (disk, .error ⟨e, p⟩)

/-- Makes a directory and those that lead to it, as far as they are not there; the names are given
from the last to the first.  Directories that were made before a failure stay. -/
def makeDirectoriesFrom (disk : Disk) (slashes : Nat) : List Text → Disk × Except PathError Unit
  | [] => disk.ensureDirectory ⟨slashes, []⟩
  | part :: outer =>
    let p : Path := ⟨slashes, (part :: outer).reverse⟩
    match disk.makeDirectory p with
    | .error .notFound =>
      match makeDirectoriesFrom disk slashes outer with
      | (disk, .ok ()) => disk.ensureDirectory p
      | failed => failed
    | _ => disk.ensureDirectory p

/-- Makes a directory and those that lead to it, as far as they are not there. -/
def makeDirectories (disk : Disk) (p : Path) : Disk × Except PathError Unit :=
  disk.makeDirectoriesFrom p.slashes p.parts.reverse

end Disk

end ActorFacade
