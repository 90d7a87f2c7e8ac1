import ActorFacade.Hierarchy.Declaring
import ActorFacade.Provider.Attributes
import ActorFacade.Text.Blank
import ActorFacade.Text.Quoted
import ActorFacade.Text.Word

/-! # What names lead to

The environment has importable modules with the classes and objects in them, and entry points, which
give names to some of these objects.  An object is referred to by the name of its module and the
path of attributes that leads to it.

A module is an object too: it has what is in it, its name, and what every module has.  A function in
it can stand in for what it has not.
-/

namespace ActorFacade

/-- Why a name leads nowhere. -/
inductive ImportError where
  | emptyName
  /-- A name that is relative to nothing. -/
  | relative (name : Text)
  /-- A module is missing; if a module that its name begins with is there, so is its name. -/
  | noModule (name : Text) (ancestor : Option Text)
  /-- A module has no such attribute; it may be a module without a name. -/
  | noModuleAttribute (module : Option Text) (name : Text)
  | attribute (cause : AttributeError)
  /-- A module says by something unsuitable where the modules within it are. -/
  | places (cause : TypeDefect)
  /-- The target of an entry point does not have the form of one. -/
  | noTarget
deriving DecidableEq, Repr

namespace ImportError

/-- The wording of an error. -/
def message : ImportError → Text
  | .emptyName => "Empty module name"
  | .relative name =>
    "the 'package' argument is required to perform a relative import for " ++ name.quoted
  | .noModule name none => "No module named " ++ name.quoted
  | .noModule name (some a) =>
    "No module named " ++ name.quoted ++ "; " ++ a.quoted ++ " is not a package"
  | .noModuleAttribute (some m) name => "module '" ++ m ++ "' has no attribute '" ++ name ++ "'"
  | .noModuleAttribute none name => "module has no attribute '" ++ name ++ "'"
  | .attribute cause => cause.message
  | .places cause => cause.message
  | .noTarget => "'NoneType' object has no attribute 'group'"

/-- Whether an error is about what is missing, rather than about the form of a name or a failure on
the way. -/
def isMissing : ImportError → Bool
  | .emptyName | .relative _ | .places _ | .noTarget => false
  | .attribute cause => cause.isMissing
  | .noModule .. | .noModuleAttribute .. => true

end ImportError

/-- A name for an object of a module. -/
structure EntryPoint where
  /-- The group of names that this one belongs to. -/
  group : Text
  /-- The name. -/
  name : Text
  /-- The module and the path of attributes, with a colon in between.  Without a path the module
  itself is the object.  Both can have blanks behind them and the path in front, and extras in
  brackets can follow. -/
  target : Text
deriving DecidableEq, Repr

/-- An object in a module. -/
structure ModuleMember where
  /-- The module. -/
  module : Text
  /-- The name of the object in it. -/
  name : Text
  /-- The object. -/
  object : Provider
deriving DecidableEq, Repr

/-- Why a module cannot keep an object, which is no class, under a name. -/
def ModuleMember.error? (m : ModuleMember) : Option Hierarchy.DeclarationError :=
  match Hierarchy.placingError? m.name with
  | some .classFixed => some (.notClass m.object.classOf.shownName)
  | e => e

/-- Everything that names can lead to. -/
structure Environment where
  /-- The classes. -/
  hierarchy : Hierarchy := {}
  /-- The other objects in modules. -/
  members : List ModuleMember := []
  /-- The entry points in order. -/
  entryPoints : List EntryPoint := []
deriving DecidableEq, Repr

namespace Environment

/-! ## Modules -/

/-- Whether there is a module of a name. -/
def hasModule (env : Environment) (name : Text) : Bool :=
  env.hierarchy.classes.any (fun e ↦ e.ref.place?.map (·.1) == some name) ||
    env.members.any (·.module == name)

/-- A dotted name cut down to its first `n` parts. -/
def firstParts (n : Nat) (name : Text) : Text :=
  Text.join "." ((Text.pieces 0x2E name).take n)

/-! ## Objects -/

/-- The object of a name in a module. -/
def inModule? (env : Environment) (module name : Text) : Option Provider :=
  match env.members.reverse.find? fun m ↦ m.module == module && m.name == name with
  | some m => some m.object
  | none => (env.hierarchy.inModule? module name).map .class

/-- The object of a name that a module itself has. -/
def moduleEntry? (env : Environment) (module name : Text) : Option Provider :=
  (env.inModule? module name).or <|
    if name = Text.ofString "__name__" then some (.text module)
    else if ["__doc__", "__package__", "__loader__", "__spec__"].any (name = Text.ofString ·) then
      some .null
    else none

/-- The error of a module that has no attribute of a name. -/
def lacksAttribute (env : Environment) (module name : Text) : ImportError :=
  match env.moduleEntry? module "__name__" with
  | some (.value v) => .noModuleAttribute v.text? name
  | _ => .noModuleAttribute none name

/-- Calls an object with the name of an attribute. -/
def callWithName (env : Environment) (p : Provider) : Except CallError Provider :=
  match p with
  | .function f result => (f.call 1 []).map fun _ ↦ result
  | .method f _ => (f.call 2 []).map fun _ ↦ .null
  | .class c => (env.hierarchy.create c 1 []).map Provider.ofMade
  | p => .error (.notCallable p.classOf.shownName)

/-- The attribute of a name of a module. -/
def moduleAttribute (env : Environment) (module name : Text) : Except ImportError Provider :=
  let self := Provider.module module
  let seen (a : Found) : Except ImportError Provider :=
    (Provider.ofObjectSlot env.hierarchy self a).mapError .attribute
  match env.hierarchy.find? self.classOf name, env.moduleEntry? module name with
  | some a, entry =>
    if a.slot.isReading then seen a
    else match entry with
      | some p => .ok p
      | none => seen a
  | none, some p => .ok p
  | none, none =>
    match env.inModule? module askedLastName with
    | some p => (env.callWithName p).mapError fun e ↦ .attribute (.computation e)
    | none => .error (env.lacksAttribute module name)

/-! ## Importing -/

/-- The places where a module says that the modules within it are; there are none. -/
def checkPlaces (env : Environment) (places : Provider) : Except ImportError Unit :=
  match places with
  | .value (.atom .null) => .ok ()
  | .value v => (v.itemsOf.map fun _ ↦ ()).mapError .places
  | p => .error (.places (.notIterable (p.kindOf env.hierarchy).shownName))

/-- The error of a missing module that a module would have to be in, which may say where that is. -/
def missingWithin (env : Environment) (package name : Text) : ImportError :=
  match env.moduleAttribute package "__path__" with
  | .ok places =>
    match env.checkPlaces places with
    | .ok () => .noModule name none
    | .error e => e
  | .error e => if e.isMissing then .noModule name (some package) else e

/-- The error of a missing module: the first missing one of those that lead to it, behind the
longest beginning of the name that is there. -/
def missingModule (env : Environment) (name : Text) : ImportError :=
  let counts := (List.range (Text.pieces 0x2E name).length).reverse
  match counts.find? fun n ↦ 0 < n && env.hasModule (firstParts n name) with
  | some n => env.missingWithin (firstParts n name) (firstParts (n + 1) name)
  | none => .noModule (firstParts 1 name) none

/-- Imports a module. -/
def importModule (env : Environment) (name : Text) : Except ImportError Unit :=
  if name.isEmpty then .error .emptyName
  else if name.startsWith "." then .error (.relative name)
  else if env.hasModule name then .ok ()
  else .error (env.missingModule name)

/-! ## References -/

/-- The attribute of a name of an object. -/
def attributeOf (env : Environment) (p : Provider) (name : Text) : Except ImportError Provider :=
  match p with
  | .module m => env.moduleAttribute m name
  | p => (p.attributeOf env.hierarchy name).mapError .attribute

/-- The object at the end of a path of attributes from a module. -/
def follow (env : Environment) (module : Text) (path : List Text) : Except ImportError Provider :=
  path.foldlM env.attributeOf (.module module)

/-- The two sides of a reference. -/
def splitReference (reference : Text) : Text × Text := (reference.cut? ":").getD (reference, [])

/-- The object that a reference leads to. -/
def lookup (env : Environment) (reference : Text) : Except ImportError Provider := do
  let (module, path) := splitReference reference
  env.importModule module
  env.follow module (Text.pieces 0x2E path)

/-- Whether a code point can be in a dotted name of a target. -/
def isTargetPart (c : CodePoint) : Bool := c == 0x2E || Text.isWordPart c

/-- Whether a text is empty or extras in brackets. -/
def isExtras (t : Text) : Bool :=
  match t with
  | [] => true
  | 0x5B :: t => (Text.trimRight t).getLast? == some 0x5D && !(Text.trimRight t).contains 0x0A
  | _ => false

/-- A name at the beginning of a text, and what follows it and the blanks behind it. -/
def leadingName (t : Text) : Text × Text :=
  (t.takeWhile isTargetPart, (t.dropWhile isTargetPart).dropWhile Text.isBlank)

/-- The two sides of a target. -/
def splitTarget? (t : Text) : Option (Text × Text) :=
  let (module, t) := leadingName t
  let (hasPath, path, t) := match t with
    | 0x3A :: t => (true, leadingName (Text.trimLeft t))
    | t => (false, [], t)
  if module.isEmpty || (hasPath && path.isEmpty) || !isExtras t then none else some (module, path)

/-- The attributes on the path of a target; empty names in it count for nothing. -/
def targetPath (path : Text) : List Text := (Text.pieces 0x2E path).filter fun p ↦ !p.isEmpty

/-- The object of an entry point. -/
def load (env : Environment) (e : EntryPoint) : Except ImportError Provider := do
  let some (module, path) := splitTarget? e.target | throw .noTarget
  env.importModule module
  env.follow module (targetPath path)

/-! ## What looking changes -/

/-- The environment after an attribute of an object was looked at: a class that has no annotations
of its own gets empty ones. -/
def afterLooking (env : Environment) (p : Provider) (name : Text) : Environment :=
  match p with
  | .class c =>
    if name = annotationsName && ((env.hierarchy.get c).attribute? name).isNone then
      { env with hierarchy := env.hierarchy.setAttribute c name (.value (.dict [])) }
    else env
  | _ => env

/-- The environment after a path of attributes was followed from an object, as far as it leads. -/
def afterPath (env : Environment) (p : Provider) : List Text → Environment
  | [] => env
  | name :: path =>
    match env.attributeOf p name with
    | .ok q => (env.afterLooking p name).afterPath q path
    | .error _ => env

/-- The environment after a reference was looked up. -/
def afterLookup (env : Environment) (reference : Text) : Environment :=
  let (module, path) := splitReference reference
  match env.importModule module with
  | .ok () => env.afterPath (.module module) (Text.pieces 0x2E path)
  | .error _ => env

/-- The environment after the object of an entry point was looked up. -/
def afterLoad (env : Environment) (e : EntryPoint) : Environment :=
  match splitTarget? e.target with
  | some (module, path) =>
    match env.importModule module with
    | .ok () => env.afterPath (.module module) (targetPath path)
    | .error _ => env
  | none => env

/-- The first entry point of a name in a group. -/
def entryPoint? (env : Environment) (group name : Text) : Option EntryPoint :=
  env.entryPoints.find? fun e ↦ e.group == group && e.name == name

end Environment

end ActorFacade
