import ActorFacade.Hierarchy.Basic
import ActorFacade.Text.Identifier

/-! # Layouts of instances

An instance has parts, each with a name, and can moreover have entries, for attributes that no class
names, and a place for those who watch it.  A class can list the parts that it adds; entries and
watchers are listed like parts.  A class without a list adds entries and watchers, unless its
instances have them already.

The instances of a class are laid out like those of one of its bases.  All bases with parts of their
own have to be in one line for that, each laid out like the next.
-/

namespace ActorFacade

/-- Why instances have no layout. -/
inductive LayoutError where
  /-- The bases have parts that do not go together. -/
  | conflict
  /-- The list of parts cannot be gone through. -/
  | notListed (cause : TypeDefect)
  /-- A listed part is of a type that is no text. -/
  | notText (typeName : Text)
  | notName
  | repeatedEntries
  | repeatedWatchers
  /-- An attribute of the class stands where a part would. -/
  | taken (name : Text)
deriving DecidableEq, Repr

/-- The wording of an error. -/
def LayoutError.message : LayoutError → Text
  | .conflict => "multiple bases have instance lay-out conflict"
  | .notListed cause => cause.message
  | .notText name => "__slots__ items must be strings, not '" ++ shortTypeName name ++ "'"
  | .notName => "__slots__ must be identifiers"
  | .repeatedEntries => "__dict__ slot disallowed: we already got one"
  | .repeatedWatchers =>
    "__weakref__ slot disallowed: either we already got one, or __itemsize__ != 0"
  | .taken name => name.quoted ++ " in __slots__ conflicts with class variable"

/-- What a class adds to its instances. -/
structure Layout where
  /-- The names of the parts. -/
  parts : List Text := []
  /-- The names of what is no part. -/
  extras : List Text := []
deriving DecidableEq, Repr

namespace Layout

/-- The names of what can be listed like a part without being one. -/
def extraNames : List Text := [entriesName, watchersName]

/-- The error of what is listed although instances have it. -/
def repeatedError (name : Text) : LayoutError :=
  if name = entriesName then .repeatedEntries else .repeatedWatchers

/-- The name of a part as a class keeps it: names that begin with two low lines, and do not end with
two, are kept with the name of the class in front. -/
def keptName (className name : Text) : Text :=
  let owner := className.dropWhile (· == 0x5F)
  if name.startsWith "__" && !Text.startsWith name.reverse "__" && !owner.isEmpty then
    "_" ++ owner ++ name
  else name

end Layout

namespace Hierarchy

/-- The nearest class with parts of its own that instances of a class are laid out like. -/
def solid (h : Hierarchy) (c : ClassRef) : ClassRef :=
  ((h.get c).layouts.find? fun k ↦ (h.get k).hasParts).getD .object

/-- Whether a class derives from another or is that one. -/
def derivesFrom (h : Hierarchy) (c d : ClassRef) : Bool := (h.lineage c).contains d

/-- The base that instances are laid out like: the first with the most parts. -/
def layoutBase (h : Hierarchy) (bases : List ClassRef) : Except LayoutError ClassRef :=
  bases.tail.foldlM (fun best b ↦
    if h.derivesFrom (h.solid best) (h.solid b) then .ok best
    else if h.derivesFrom (h.solid b) (h.solid best) then .ok b
    else .error .conflict) (bases.head?.getD .object)

/-- Whether instances of a class have something that is no part. -/
def hasExtra (h : Hierarchy) (c : ClassRef) (name : Text) : Bool :=
  (h.get c).layouts.any fun k ↦ (h.get k).extras.contains name

/-- Adds a listed name to those before it. -/
def listPart (h : Hierarchy) (base : ClassRef) (names : List Text) (v : Value) :
    Except LayoutError (List Text) :=
  match v.text? with
  | none => .error (.notText v.typeName)
  | some name =>
    if !Text.isIdentifier name then .error .notName
    else if Layout.extraNames.contains name && (names.contains name || h.hasExtra base name) then
      .error (Layout.repeatedError name)
    else .ok (names ++ [name])

/-- The items of a list of parts, which can be a text for one part. -/
def listed (list : Attribute) : Except LayoutError (List Value) :=
  match list with
  | .value v => if v.text?.isSome then .ok [v] else v.itemsOf.mapError .notListed
  | list => list.items.mapError .notListed

/-- The names that a class lists for a layout like that of a base. -/
def listParts (h : Hierarchy) (base : ClassRef) (list : Attribute) :
    Except LayoutError (List Text) := do
  (← listed list).foldlM (h.listPart base) []

/-- What a class with some bases adds to its instances.  The attributes of the class must not have
the names of parts, except for those that no class keeps. -/
def layoutOf (h : Hierarchy) (className : Text) (base : ClassRef) (bases : List ClassRef)
    (attributes : List (Text × Attribute)) : Except LayoutError Layout := do
  let lacked := Layout.extraNames.filter fun name ↦ !h.hasExtra base name
  match attributes.lookup partListName with
  | none => return { extras := lacked }
  | some list =>
    let names ← h.listParts base list
    let parts := (names.filter fun name ↦ !Layout.extraNames.contains name).map
      (Layout.keptName className)
    let isTaken (name : Text) : Bool :=
      name = moduleName || (attributes.lookup name).isSome && !unkeptNames.contains name
    match parts.find? isTaken with
    | some name => throw (.taken name)
    | none =>
      return {
        parts
        extras := lacked.filter fun name ↦
          names.contains name || bases.any fun b ↦ b != base && h.hasExtra b name }

end Hierarchy

end ActorFacade
