import ActorFacade.Actor.Generator
import ActorFacade.Files.Disk
import ActorFacade.Text.Blank

/-! # Building actors

An actor is written to a file whose first line carries its fingerprint.  A file that carries the
current fingerprint is up to date and is left alone, unless the build is forced.  A build that fails
may leave behind what it did before it failed: directories, or a file that was opened for writing
and is therefore empty.

Records may be kept on the same disk, even in the file of the actor.  They are kept when they are
written: those of the fingerprint before the file is looked at, and those of the rendering before
the file is written.
-/

namespace ActorFacade.Build

/-- Why a build fails. -/
inductive Fault where
  | actor (cause : Actor.Fault)
  | path (cause : PathError)
  /-- The first line of the old file is no text. -/
  | decode (cause : Utf8.DecodeError)
  /-- The text of the actor cannot be encoded. -/
  | encode (cause : Utf8.EncodeError)
deriving DecidableEq, Repr

/-- The wording of a failure. -/
def Fault.message : Fault → Text
  | .actor cause => cause.message
  | .path cause => cause.message
  | .decode cause => cause.message
  | .encode cause => cause.message

/-- What a build has done. -/
structure Outcome where
  /-- The file. -/
  path : Path
  /-- Whether it was written. -/
  written : Bool
  /-- The fingerprint of the actor. -/
  fingerprint : Text
  /-- The number of methods of an actor that was written. -/
  methodCount : Option Nat := none
deriving DecidableEq, Repr

/-- The channel of builds. -/
def channel : Channel := .part "build"

/-! ## Where actors are written -/

/-- The file of an actor: in a directory for generated files beside the file of its suite, or in the
working directory if the suite has no file. -/
def defaultPath (disk : Disk) (suite : Suite) : Except Integer.LimitError Path := do
  let name ← suite.classText
  let base := match suite.path with
    | some p => (Path.ofText p).parent
    | none => disk.workingPath
  return (base.append (Path.ofText "_generated")).append (Path.ofText (name ++ ".php"))

/-- The file that an actor is written to. -/
def target (disk : Disk) (suite : Suite) (output : Option Path) : Except Fault Path :=
  match output with
  | some p => .ok p
  | none => (defaultPath disk suite).mapError fun e ↦ .actor (.limit e)

/-! ## Stamps -/

/-- The fingerprint on a first line, if there is one. -/
def stampOf? (line : Text) : Option Text :=
  if line.startsWith ActorText.stampMark then
    let stamp := Text.trim (line.drop ActorText.stampMark.length)
    if stamp.isEmpty then none else some stamp
  else none

/-- The fingerprint on the first line of some bytes. -/
def stampOfBytes (bytes : List UInt8) : Except Utf8.DecodeError (Option Text) :=
  (Utf8.firstLine bytes).map stampOf?

/-- The fingerprint that a file carries, if there is such a file and it carries one. -/
def readStamp (disk : Disk) (p : Path) : Except Fault (Option Text) :=
  match disk.read p with
  | .error .notFound => .ok none
  | .error e => .error (.path ⟨e, p⟩)
  | .ok bytes => (stampOfBytes bytes).mapError .decode

/-! ## Building -/

/-- Writes a text to a file, together with the directories that lead to it.  A text without bytes
leaves the file empty. -/
def writeText (disk : Disk) (p : Path) (text : Text) : Disk × Except Fault Unit :=
  match disk.makeDirectories p.parent with
  | (disk, .error e) => (disk, .error (.path e))
  | (disk, .ok ()) =>
    match Utf8.encode text with
    | .ok bytes =>
      match disk.write p bytes with
      | .ok disk => (disk, .ok ())
      | .error e => (disk, .error (.path ⟨e, p⟩))
    | .error e =>
      match disk.write p [] with
      | .ok disk => (disk, .error (.encode e))
      | .error e => (disk, .error (.path ⟨e, p⟩))

/-- Whether a build has nothing to do. -/
def isUpToDate (disk : Disk) (p : Path) (force : Bool) (fingerprint : Text) :
    Except Fault Bool :=
  if force then .ok false else (readStamp disk p).map (· == some fingerprint)

/-- What becomes of a disk when records are written. -/
abbrev Keeper := Disk → List Record → Disk

/-- Keeps no records. -/
def keepNone : Keeper := fun disk _ ↦ disk

/-- The record of a file that is up to date. -/
def upToDateRecord (target : Path) : Record :=
  ⟨.info, channel, some (target.text ++ " is up to date")⟩

/-- The record of a file that was written. -/
def writtenRecord (target : Path) (rendered : Actor.Rendered) : Record :=
  ⟨.info, channel, some ("Wrote " ++ target.text ++ " (" ++ Text.ofNat rendered.methods.length ++
    " methods)")⟩

/-- Renders an actor and writes it to its file. -/
def render (keep : Keeper) (disk : Disk) (g : Generator) (target : Path) (fingerprint : Text) :
    Disk × Logged Fault Outcome :=
  let produced := g.produce.mapError .actor
  let disk := keep disk produced.records
  match produced.result with
  | .error e => (disk, ⟨produced.records, .error e⟩)
  | .ok rendered =>
    match writeText disk target rendered.text with
    | (disk, .error e) => (disk, ⟨produced.records, .error e⟩)
    | (disk, .ok ()) =>
      let record := writtenRecord target rendered
      (keep disk [record], ⟨produced.records ++ [record],
        .ok ⟨target, true, fingerprint, some rendered.methods.length⟩⟩)

/-- Writes an actor unless its file carries the fingerprint. -/
def refresh (keep : Keeper) (disk : Disk) (g : Generator) (target : Path) (force : Bool)
    (fingerprint : Text) : Disk × Logged Fault Outcome :=
  match isUpToDate disk target force fingerprint with
  | .error e => (disk, Logged.fail e)
  | .ok true =>
    let record := upToDateRecord target
    (keep disk [record], ⟨[record], .ok ⟨target, false, fingerprint, none⟩⟩)
  | .ok false => render keep disk g target fingerprint

/-- Builds the actor of a suite, in the given file or in the one where it belongs. -/
def run (disk : Disk) (suite : Suite) (output : Option Path) (registry : Registry)
    (options : Actor.Options) (force : Bool) (keep : Keeper := keepNone) :
    Disk × Logged Fault Outcome :=
  match Generator.create suite registry options, target disk suite output with
  | .error e, _ => (disk, Logged.fail (.actor e))
  | .ok _, .error e => (disk, Logged.fail e)
  | .ok g, .ok target =>
    let stamped := g.fingerprint.mapError .actor
    let disk := keep disk stamped.records
    match stamped.result with
    | .error e => (disk, ⟨stamped.records, .error e⟩)
    | .ok fingerprint =>
      let (disk, refreshed) := refresh keep disk g.settled target force fingerprint
      (disk, ⟨stamped.records ++ refreshed.records, refreshed.result⟩)

/-- The registry after a build, whether it succeeded or not: the modules of a suite without defects
were made. -/
def registryAfter (suite : Suite) (registry : Registry) : Registry :=
  if suite.defect?.isSome then registry else registry.settled suite

end ActorFacade.Build
