import ActorFacade.Environment
import ActorFacade.Value.Items

/-! # Restrictions of providers

A provider may say which of its operations an actor has, by naming those that it has only or those
that it has not.  It does so by attributes; a provider without these attributes restricts nothing.
-/

namespace ActorFacade

/-- Why the restrictions of a provider cannot be read. -/
inductive RestrictionError where
  /-- They are of an unsuitable type. -/
  | defect (cause : TypeDefect)
  /-- They cannot be computed. -/
  | computation (cause : ImportError)
deriving DecidableEq, Repr

/-- The wording of an error. -/
def RestrictionError.message : RestrictionError → Text
  | .defect cause => cause.message
  | .computation cause => cause.message

namespace Environment

/-! ## Objects that are asked for names -/

/-- What an attribute makes that is called for an object of a class with some positional
arguments. -/
def callFor (h : Hierarchy) (c : ClassRef) (name : Text) (given : Nat) :
    Attribute → Except CallError Provider
  | .function f | .classBound f => (f.call (given + 1) []).map fun _ ↦ .null
  | .static f => (f.call given []).map fun _ ↦ .null
  | .computed f => do
    f.call 1 []
    throw (.notCallable "NoneType")
  | .value v => .error (.notCallable v.typeName)
  | .nested k => (h.create k given []).map Provider.ofMade
  | .part => .error (.unset c.shownName name)
  | .plainInit | .protocolInit => .ok .null

/-- Calls an attribute for an object of a class; nothing that it can make is suitable. -/
def refuseResult (h : Hierarchy) (c : ClassRef) (name : Text) (a : Attribute)
    (defect : Text → TypeDefect) : RestrictionError :=
  match callFor h c name 0 a with
  | .ok p => .defect (defect p.classOf.shownName)
  | .error e => .computation (.attribute (.computation e))

/-- Why it cannot be said whether an object of a class counts as true; most do. -/
def truthError? (h : Hierarchy) (c : ClassRef) : Option RestrictionError :=
  match h.lookup? c "__bool__", h.lookup? c "__len__" with
  | some a, _ => some (refuseResult h c "__bool__" a .notTruth)
  | none, some a => some (refuseResult h c "__len__" a .notCount)
  | none, none => none

/-- Why an object of a class cannot be gone through by asking for what stands at its places.  If it
can, there is no end of places. -/
def placesError (h : Hierarchy) (c : ClassRef) (a : Attribute) : RestrictionError :=
  match callFor h c "__getitem__" 1 a with
  | .ok _ => .computation (.attribute (.computation .endless))
  | .error e => .computation (.attribute (.computation e))

/-- Whether an attribute can be read off an object. -/
def isReadable : Attribute → Bool
  | .part => false
  | .computed f => (f.call 1 []).toBool
  | _ => true

/-- Why an object of a class cannot be gone through.  What says how to go through it is passed over
if it cannot be read; then the object is asked for what stands at its places. -/
def iterationError (h : Hierarchy) (c : ClassRef) : RestrictionError :=
  let refused : RestrictionError := .defect (.notIterable c.shownName)
  match h.lookup? c "__iter__", h.lookup? c "__getitem__" with
  | some (.value (.atom .null)), _ => refused
  | none, some a => placesError h c a
  | none, none => refused
  | some way, place =>
    if !isReadable way then
      match place with
      | some a => if isReadable a then placesError h c a else refused
      | none => refused
    else if way matches .computed _ then refused
    else refuseResult h c "__iter__" way .notIterator

/-- The set of names that an object describes. -/
def nameSet (env : Environment) (p : Provider) : Except RestrictionError (List Value) :=
  match p with
  | .value v => v.nameSet.mapError .defect
  | .instance c => .error ((truthError? env.hierarchy c).getD (iterationError env.hierarchy c))
  | p => .error (.defect (.notIterable (p.kindOf env.hierarchy).shownName))

/-- The set of names that an attribute of an object describes. -/
def namedSet (env : Environment) (p : Provider) (name : Text) :
    Except RestrictionError (List Value) :=
  match env.attributeOf p name with
  | .ok q => env.nameSet q
  | .error e => if e.isMissing then .ok [] else .error (.computation e)

/-- The names of the only operations that a provider has for actors; empty for all. -/
def only (env : Environment) (p : Provider) : Except RestrictionError (List Value) :=
  match p with
  | .handle _ names _ => names.nameSet.mapError .defect
  | p => env.namedSet p "only_actions"

/-- The names of operations that a provider has not for actors. -/
def exclude (env : Environment) (p : Provider) : Except RestrictionError (List Value) :=
  match p with
  | .handle _ _ names => names.nameSet.mapError .defect
  | p => env.namedSet p "exclude_actions"

end Environment

end ActorFacade
