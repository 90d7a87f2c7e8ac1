import ActorFacade.Hierarchy.Calling
import ActorFacade.Provider
import ActorFacade.Standard.Types

/-! # Attributes of objects

An attribute of an object is looked up in the lineage of its class.  A class is an object too, of
one of the types of classes; what is read off a class comes before its own attributes, and these
come before what else its type has.  How an attribute is seen depends on whether one looks at it
from an object or from the class: a function becomes bound to the object, and what is read off
objects is there only for an object.

A class can say by functions how attributes of its objects are looked up, or what stands in for
those that are missing.  To look at a computed attribute is to call its function.  Both can fail.
-/

namespace ActorFacade

/-- Why there is no attribute of a name. -/
inductive AttributeError where
  | ofClass (className name : Text)
  | ofObject (typeName name : Text)
  /-- A part of an object has no value. -/
  | ofPart (typeName name : Text)
  /-- A class could have the attribute, but has it not. -/
  | unset (name : Text)
  /-- The attribute cannot be computed. -/
  | computation (cause : CallError)
deriving DecidableEq, Repr

namespace AttributeError

/-- The wording of an error. -/
def message : AttributeError → Text
  | .ofClass c name => "type object '" ++ shorterTypeName c ++ "' has no attribute '" ++ name ++ "'"
  | .ofObject t name => "'" ++ shorterTypeName t ++ "' object has no attribute '" ++ name ++ "'"
  | .ofPart t name => "'" ++ shortTypeName t ++ "' object has no attribute '" ++ name ++ "'"
  | .unset name => name
  | .computation cause => cause.message

/-- Whether the attribute is missing, rather than a failure on the way to it. -/
def isMissing : AttributeError → Bool
  | .computation cause => cause.isMissing
  | _ => true

end AttributeError

/-! ## Looking up -/

/-- The name of a class in errors about its objects.  Some modules of standard types are named with
them. -/
def ClassRef.shownName (c : ClassRef) : Text :=
  match c with
  | .builtin name =>
    if name.startsWith "datetime." || name.startsWith "_abc." then name else c.lastName
  | c => c.lastName

/-- What a declared class has without having declared it. -/
def ClassEntry.impliedSlot? (e : ClassEntry) (isAbstractable : Bool) (name : Text) : Option Slot :=
  if name = moduleName then (e.ref.place?).map fun p ↦ .declared (.value (.text p.1))
  else if name = docName then some (.declared (.value .null))
  else if e.extras.contains name then
    some (.reading (if name = entriesName then "builtins.dict" else "builtins.NoneType"))
  else if !isAbstractable then none
  else if name = abstractNamesName then some (.object "builtins.frozenset")
  else if abstractableNames.contains name then some (.object "_abc._abc_data")
  else none

/-- The standard type that a class is. -/
def ClassRef.type? (c : ClassRef) : Option StandardType :=
  if c.place?.isSome then none else StandardType.find? c.fullName

/-- An attribute where it is found. -/
structure Found where
  /-- The class that has it. -/
  owner : ClassRef
  /-- Its name. -/
  name : Text
  /-- The attribute. -/
  slot : Slot
deriving DecidableEq, Repr

namespace Hierarchy

/-- The classes in which attributes of objects of a class are looked up. -/
def types (h : Hierarchy) (c : ClassRef) : List ClassRef :=
  match c with
  | .builtin name =>
    c :: (((StandardType.find? name).map (·.behind)).getD []).map .builtin ++ [.object]
  | c => h.lineage c

/-- The attribute of a name that a class itself has. -/
def ownSlot? (h : Hierarchy) (c : ClassRef) (name : Text) : Option Slot :=
  (((h.get c).attribute? name).map .declared).or <|
    match c.place? with
    | some _ => (h.get c).impliedSlot? (h.isAbstractable c) name
    | none => c.type?.bind (·.slot? name)

/-- The first attribute of a name in the lineage of a class. -/
def find? (h : Hierarchy) (c : ClassRef) (name : Text) : Option Found :=
  (h.types c).findSome? fun k ↦ (h.ownSlot? k name).map fun s ↦ ⟨k, name, s⟩

end Hierarchy

namespace Feature

/-- Whether a feature has documentation; the parts that classes list have none. -/
def isDocumented (f : Feature) : Bool :=
  match f.owner.type? with
  | some t => !t.undocumented.contains f.name
  | none => f.kind != .part

/-- Whether the parameters of a feature are known. -/
def isSigned (f : Feature) : Bool := f.owner.type?.any fun t ↦ !t.unsigned.contains f.name

end Feature

namespace Provider

/-! ## Attributes of classes -/

/-- The class of an object, or of a class. -/
def kindOf (h : Hierarchy) : Provider → ClassRef
  | .class c => h.kind c
  | p => p.classOf

/-- An operation that is the same wherever it is looked up from.  What makes objects is an operation
of the class that has it; others belong to no object. -/
def fixed (a : Found) : Provider :=
  .bound ⟨.procedure, a.owner, a.name⟩ (if a.name = newName then .class a.owner else null)

/-- An attribute of a class as the class itself has it. -/
def ofClassSlot (c : ClassRef) (a : Found) : Provider :=
  match a.slot with
  | .operator => .feature ⟨.operator, a.owner, a.name⟩
  | .procedure => .feature ⟨.procedure, a.owner, a.name⟩
  | .shared => .bound ⟨.procedure, a.owner, a.name⟩ (.class c)
  | .fixed => fixed a
  | .field _ | .declared .part => .feature ⟨.part, a.owner, a.name⟩
  | .reading _ => .feature ⟨.reading, a.owner, a.name⟩
  | .object type => ofType type
  | .declared .plainInit => .feature ⟨.operator, .object, a.name⟩
  | .declared (.function f) | .declared (.static f) => plainFunction f
  | .declared .protocolInit => plainFunction Attribute.protocolInitFunction
  | .declared (.classBound f) => .method f (.class c)
  | .declared (.computed f) => .property f
  | .declared (.value v) => .value v
  | .declared (.nested k) => .class k

/-! ## What is read off objects -/

/-- The documentation of a function. -/
def docOf (f : Function) : Provider := (f.doc.map text).getD null

/-- What ends the parameters at the beginning of a documentation. -/
def parametersEnd : Text := ")" ++ Text.newline ++ "--" ++ Text.newline ++ Text.newline

/-- Whether a documentation begins with a name and parameters, without an empty line. -/
def isSignedDoc (name doc : Text) : Bool :=
  doc.startsWith (name ++ Text.ofString "(") && (Text.cut? doc parametersEnd).any fun parts ↦
    !Text.occursIn (Text.newline ++ Text.newline) parts.1

/-- Whether the parameters of a class are known. -/
def isSignedIn (h : Hierarchy) (c : ClassRef) : Bool :=
  match (h.get c).attribute? docName with
  | some (.value v) => (v.text?).any (isSignedDoc c.lastName)
  | _ => c.type?.any (·.isSigned)

/-- Whether a class is a standard type of which the attributes cannot change. -/
def isClosed (c : ClassRef) : Bool :=
  c.place?.isNone && (c.fullName.startsWith valueModule || c.fullName.startsWith "datetime.")

/-- What a class itself has under a name that something is read off classes by. -/
def heldBy? (h : Hierarchy) (c : ClassRef) (name : Text) : Option Provider :=
  if isClosed c then none else (h.ownSlot? c name).map fun s ↦ ofClassSlot c ⟨c, name, s⟩

/-- The documentation of a class, which it has itself. -/
def classDoc (h : Hierarchy) (c : ClassRef) : Provider :=
  let documented := c.type?.any (·.isDocumented)
  match h.ownSlot? c docName with
  | some s =>
    if s.isReading && documented then .standard "builtins.str"
    else ofClassSlot c ⟨c, docName, s⟩
  | none => null

/-- What is read off a class, as far as it is known. -/
def ofClassReading? (h : Hierarchy) (c : ClassRef) (name : Text) : Option Provider :=
  if name = Text.ofString "__name__" then some (text c.lastName)
  else if name = shownNameName then some (text (h.nameOf c))
  else if name = moduleName then some ((heldBy? h c name).getD (text c.place.1))
  else if name = docName then some (classDoc h c)
  else if name = annotationsName || name = abstractNamesName then heldBy? h c name
  else if name = Text.ofString "__text_signature__" then some (textIf (isSignedIn h c))
  else if name = Text.ofString "__base__" then
    let behind := if c.place?.isSome then (h.get c).layouts.tail else (h.types c).tail
    some (behind.head?.elim null .class)
  else none

/-- What is read off a function, as far as it is known. -/
def ofFunctionReading? (f : Function) (name : Text) : Option Provider :=
  let defaults (formals : List Formal) (type : Text) : Provider :=
    if formals.any (·.default.isSome) then .standard type else null
  if name = Text.ofString "__name__" then
    some (text (((Text.pieces 0x2E f.qualified).getLast?).getD []))
  else if name = Text.ofString "__qualname__" then some (text f.qualified)
  else if name = Text.ofString "__doc__" then some (docOf f)
  else if name = Text.ofString "__defaults__" then some (defaults f.positionals "builtins.tuple")
  else if name = Text.ofString "__kwdefaults__" then
    some (defaults (f.formalsOf .keywordOnly) "builtins.dict")
  else if name = Text.ofString "__closure__" && f.isClosure then some (.standard "builtins.tuple")
  else none

/-- What is read off a feature, bound or not, as far as it is known. -/
def ofFeatureReading? (f : Feature) (name : Text) : Option Provider :=
  if name = Text.ofString "__objclass__" then some (.class f.owner)
  else if name = Text.ofString "__doc__" then some (textIf f.isDocumented)
  else if name = Text.ofString "__text_signature__" then some (textIf f.isSigned)
  else if name = Text.ofString "__module__" then some null
  else none

/-- What is read off an object, as far as it is known. -/
def reading? (h : Hierarchy) (p : Provider) (name : Text) : Option Provider :=
  if name = Text.ofString "__class__" then some (.class (p.kindOf h))
  else match p with
    | .class c => ofClassReading? h c name
    | .function f _ => ofFunctionReading? f name
    | .method f self =>
      if name = Text.ofString "__func__" then some (plainFunction f)
      else if name = Text.ofString "__self__" then some self
      else if name = Text.ofString "__doc__" then some (docOf f)
      else none
    | .property f =>
      if name = Text.ofString "fget" then some (plainFunction f)
      else if name = Text.ofString "__doc__" then some (docOf f)
      else none
    | .feature f => ofFeatureReading? f name
    | .bound f self =>
      if name = Text.ofString "__self__" then some self else ofFeatureReading? f name
    | _ => none

/-- What is read off an object by a name under which something of a type is found. -/
def read (h : Hierarchy) (p : Provider) (name type : Text) : Except AttributeError Provider :=
  match p.reading? h name, p with
  | some q, _ => .ok q
  | none, .class c =>
    if name = abstractNamesName then .error (.unset name)
    else if name = annotationsName && isClosed c then .error (.ofClass c.shownName name)
    else .ok (ofType type)
  | none, _ => .ok (ofType type)

/-- What an object itself has, besides what its class says. -/
def entry? (p : Provider) (name : Text) : Option Provider :=
  match p with
  | .value (.atom (.constant t)) => if name = Text.ofString "name" then some (text t) else none
  | .function f _ =>
    if f.isAbstract && name = Text.ofString "__isabstractmethod__" then some (.value (.bool true))
    else if name = Text.ofString "__wrapped__" then (StandardType.wrapped? f).map plainFunction
    else none
  | _ => none

/-! ## Seeing attributes -/

/-- An attribute of a class as an object of the class has it. -/
def ofObjectSlot (h : Hierarchy) (self : Provider) (a : Found) : Except AttributeError Provider :=
  match a.slot with
  | .operator => .ok (.bound ⟨.operator, a.owner, a.name⟩ self)
  | .declared .plainInit => .ok (.bound ⟨.operator, .object, a.name⟩ self)
  | .procedure => .ok (.bound ⟨.procedure, a.owner, a.name⟩ self)
  | .shared => .ok (.bound ⟨.procedure, a.owner, a.name⟩ (.class (self.kindOf h)))
  | .fixed => .ok (fixed a)
  | .field type | .reading type => self.read h a.name type
  | .object type => .ok (ofType type)
  | .declared (.function f) => .ok (.method f self)
  | .declared (.classBound f) => .ok (.method f (.class (self.kindOf h)))
  | .declared .protocolInit => .ok (.method Attribute.protocolInitFunction self)
  | .declared (.static f) => .ok (plainFunction f)
  | .declared (.computed f) => ((f.call 1 []).map fun _ ↦ null).mapError .computation
  | .declared (.value v) => .ok (.value v)
  | .declared (.nested c) => .ok (.class c)
  | .declared .part => .error (.ofPart self.classOf.shownName a.name)

/-! ## Attributes of objects -/

/-- The attribute of a name that an object itself or its class has. -/
def plainAttribute (h : Hierarchy) (p : Provider) (name : Text) : Except AttributeError Provider :=
  match p.entry? name, h.find? p.classOf name with
  | some q, _ => .ok q
  | none, some a => ofObjectSlot h p a
  | none, none => .error (.ofObject p.classOf.shownName name)

/-- What a call makes. -/
def ofMade : Made → Provider
  | some c => .instance c
  | none => null

/-- Asks a function of the class of an object for the attribute of a name. -/
def ask (h : Hierarchy) (c : ClassRef) (asked : Text) (a : Attribute) :
    Except AttributeError Provider :=
  let computed (r : Except CallError Provider) : Except AttributeError Provider :=
    r.mapError .computation
  match a with
  | .function f | .classBound f => computed ((f.call 2 []).map fun _ ↦ null)
  | .static f => computed ((f.call 1 []).map fun _ ↦ null)
  | .computed f => computed do
    f.call 1 []
    throw (CallError.notCallable "NoneType")
  | .value v => computed (.error (.notCallable v.typeName))
  | .nested k => computed ((h.create k 1 []).map ofMade)
  | .part => .error (.ofPart c.shownName asked)
  | .plainInit | .protocolInit => .ok null

/-- The attribute of a name of an instance of a class. -/
def instanceAttribute (h : Hierarchy) (c : ClassRef) (name : Text) :
    Except AttributeError Provider :=
  let first := match h.lookup? c askedFirstName with
    | some a => ask h c askedFirstName a
    | none => plainAttribute h (.instance c) name
  match first, h.lookup? c askedLastName with
  | .error e, some a => if e.isMissing then ask h c askedLastName a else .error e
  | r, _ => r

/-- The attribute of a name of a class. -/
def classAttribute (h : Hierarchy) (c : ClassRef) (name : Text) : Except AttributeError Provider :=
  match h.find? (h.kind c) name, h.find? c name with
  | some a, own =>
    if a.slot.isReading then ofObjectSlot h (.class c) a
    else match own with
      | some b => .ok (ofClassSlot c b)
      | none => ofObjectSlot h (.class c) a
  | none, some b => .ok (ofClassSlot c b)
  | none, none => .error (.ofClass c.shownName name)

/-- The attribute of a name of an object.  A bound function has the attributes of the function too.
-/
def attributeOf (h : Hierarchy) (p : Provider) (name : Text) : Except AttributeError Provider :=
  match p with
  | .instance c => instanceAttribute h c name
  | .class c => classAttribute h c name
  | .method f _ =>
    match plainAttribute h p name with
    | .ok q => .ok q
    | .error _ => plainAttribute h (plainFunction f) name
  | p => plainAttribute h p name

end Provider

end ActorFacade
