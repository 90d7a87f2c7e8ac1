import ActorFacade.Hierarchy.Calling
import ActorFacade.Hierarchy.Layout
import ActorFacade.Hierarchy.Linear
import ActorFacade.Standard.Types

/-! # Declaring classes

A class is declared with its bases and the members of its body.  A member of a name that the body
has already takes the place of the earlier one; an alias is a further name of a member.  The lineage
is the merge of the lineages of the bases, and the abstract names follow from it.

A class can say what is to happen when another one derives from it; what `protocol` says makes the
protocols.  A class with the name of an earlier one takes its name, but not its place in the
lineages of others.
-/

namespace ActorFacade.Hierarchy

/-- How a function of a body is wrapped. -/
inductive Wrapping where
  | plain
  | static
  | classBound
  | computed
deriving DecidableEq, Repr

/-- A member of the body of a class. -/
inductive Member where
  | function (wrapping : Wrapping) (name : Text) (formals : List Formal) (doc : Option Text)
      (isAbstract : Bool)
  | value (name : Text) (v : Value)
  /-- Another name of an earlier member. -/
  | alias (name earlier : Text)
deriving DecidableEq, Repr

/-! ## Bodies -/

/-- A function as an attribute. -/
def Wrapping.attribute : Wrapping → Function → Attribute
  | .plain => .function
  | .static => .static
  | .classBound => .classBound
  | .computed => .computed

/-- Adds a member to the attributes of a class of the given name. -/
def addMember (qualified : Text) (attributes : List (Text × Attribute)) :
    Member → List (Text × Attribute)
  | .function wrapping name formals doc isAbstract =>
    Attribute.set name
      (wrapping.attribute { qualified := qualified ++ "." ++ name, formals, doc, isAbstract })
      attributes
  | .value name v => Attribute.set name (.value v) attributes
  | .alias name earlier =>
    match attributes.find? fun a ↦ a.1 == earlier with
    | some (_, a) => Attribute.set name a attributes
    | none => attributes

/-- A plain function whose name says that it is of another kind becomes one of that kind. -/
def wrapByName (e : Text × Attribute) : Text × Attribute :=
  match e with
  | (name, .function f) =>
    if name = newName then (name, .static f)
    else if name = derivationName || name = parametersName then (name, .classBound f)
    else e
  | e => e

/-- Adds an attribute unless there is one of its name. -/
def setDefault (name : Text) (a : Attribute) (attributes : List (Text × Attribute)) :
    List (Text × Attribute) :=
  if attributes.any (·.1 == name) then attributes else attributes ++ [(name, a)]

/-- Objects that say when they are equal are no keys, unless they say how. -/
def withoutKeys (attributes : List (Text × Attribute)) : List (Text × Attribute) :=
  if attributes.any (·.1 == Text.ofString "__eq__") then
    setDefault "__hash__" (.value .null) attributes
  else attributes

/-- The attributes of a body. -/
def body (qualified : Text) (members : List Member) : List (Text × Attribute) :=
  (members.foldl (addMember qualified) []).map wrapByName

/-! ## Why there is no class -/

/-- Why there is no such class. -/
inductive DeclarationError where
  /-- Its instances have no layout. -/
  | layout (cause : LayoutError)
  /-- Its name holds a zero. -/
  | zeroInName
  /-- The name that it says it has is of a type that is no text. -/
  | nameNotText (typeName : Text)
  /-- Its documentation cannot be encoded. -/
  | documentation (cause : Utf8.EncodeError)
  /-- What should pass on the variables of its body is of another type. -/
  | notCell (shownType : Text)
  /-- A base is listed twice. -/
  | repeatedBase (c : ClassRef)
  /-- The lineages of the bases have no common order; these classes are in conflict. -/
  | noOrder (conflict : List ClassRef)
  /-- A protocol has a base that is none, which appears like this. -/
  | notProtocol (shownBase : Text)
  /-- It is asked whether a class is in a text. -/
  | classInText
  /-- It is asked whether a class is in some bytes. -/
  | classInBytes
  /-- An attribute that says something about the class is of an unsuitable type. -/
  | unsuitable (cause : TypeDefect)
  /-- One of the abstract names of a base is of a type that is no text. -/
  | abstractNotText (typeName : Text)
  /-- What is to happen when a class derives from another cannot. -/
  | derivation (cause : CallError)
  /-- The class around a nested one, which is of this type, cannot keep it under its name. -/
  | nameOnly (outerName name typeName : Text)
  | basesOnly (outerName typeName : Text)
  | classFixed
  /-- An object of this type is to be the class of a module. -/
  | notClass (typeName : Text)
  | notWritable (name : Text)
  | readOnly
deriving DecidableEq, Repr

namespace DeclarationError

/-- The number of bytes that there are for the wording of a conflict. -/
def conflictSize : Nat := 999

/-- The wording of a conflict, as far as there are bytes for it.  They can end within a code point.
-/
def conflictText (conflict : List ClassRef) : Except Utf8.DecodeError Text :=
  let full := "Cannot create a consistent method resolution" ++ Text.newline ++
    "order (MRO) for bases " ++ Text.join ", " (conflict.map ClassRef.lastName)
  Utf8.decode ((full.flatMap Utf8.bytesOf).take conflictSize)

/-- The wording of an error. -/
def message : DeclarationError → Text
  | .layout cause => cause.message
  | .zeroInName => "type name must not contain null characters"
  | .nameNotText name => "type __qualname__ must be a str, not " ++ name
  | .documentation cause => cause.message
  | .notCell shownType => "__classcell__ must be a nonlocal cell, not " ++ shownType
  | .repeatedBase c => "duplicate base class " ++ c.lastName
  | .noOrder conflict =>
    match conflictText conflict with
    | .ok t => t
    | .error e => e.message
  | .notProtocol base => "Protocols can only inherit from other protocols, got " ++ base
  | .classInText => "'in <string>' requires string as left operand, not type"
  | .classInBytes => "a bytes-like object is required, not 'type'"
  | .unsuitable cause => cause.message
  | .abstractNotText name => "attribute name must be string, not '" ++ shortTypeName name ++ "'"
  | .derivation cause => cause.message
  | .nameOnly outer name type =>
    "can only assign string to " ++ outer ++ "." ++ name ++ ", not '" ++ type ++ "'"
  | .basesOnly outer type => "can only assign tuple to " ++ outer ++ ".__bases__, not " ++ type
  | .classFixed => "__class__ assignment only supported for mutable types or ModuleType subclasses"
  | .notClass name => "__class__ must be set to a class, not '" ++ name ++ "' object"
  | .notWritable name => "attribute '" ++ name ++ "' of 'type' objects is not writable"
  | .readOnly => "readonly attribute"

end DeclarationError

/-! ## What a class says about itself -/

/-- The name within its module that a class shows. -/
def shownNameIn (attributes : List (Text × Attribute)) : Except DeclarationError (Option Text) :=
  match attributes.lookup shownNameName with
  | none => .ok none
  | some (.value v) =>
    match v.text? with
    | some t => .ok (some t)
    | none => .error (.nameNotText v.typeName)
  | some a => .error (.nameNotText a.typeName)

/-- Refuses documentation that cannot be encoded. -/
def checkDoc (attributes : List (Text × Attribute)) : Except DeclarationError Unit :=
  match attributes.lookup docName with
  | some (.value (.atom (.text t))) => ((Utf8.encode t).map fun _ ↦ ()).mapError .documentation
  | _ => .ok ()

/-- Refuses variables passed on that are none. -/
def checkCell (attributes : List (Text × Attribute)) : Except DeclarationError Unit :=
  match attributes.lookup cellName with
  | none => .ok ()
  | some (.value v) => .error (.notCell (shownClass {} (.builtin (valueTypeName v))))
  | some a => .error (.notCell ("<class '" ++ a.typeName ++ "'>"))

/-- The attributes that a class keeps, and its parts. -/
def kept (attributes : List (Text × Attribute)) (parts : List Text) : List (Text × Attribute) :=
  parts.foldl (fun attributes name ↦ setDefault name .part attributes)
    (attributes.filter fun a ↦ !unkeptNames.contains a.1)

/-! ## Deriving from other classes -/

/-- The function by which a protocol decides which classes follow it. -/
def protocolHook : Function where
  qualified := "Protocol.__init_subclass__.<locals>._proto_hook"
  formals := [{ name := "other" }]
  isClosure := true

/-- The modules with classes that count as protocols, and the names of these. -/
def namedProtocols : List (Text × List Text) := [
  ("collections.abc", ["Callable", "Awaitable", "Iterable", "Iterator", "AsyncIterable", "Hashable",
    "Sized", "Container", "Collection", "Reversible"]),
  ("contextlib", ["AbstractContextManager", "AbstractAsyncContextManager"])]

/-- Whether a class counts as a protocol by its name. -/
def isNamedProtocol (module : Value) (c : ClassRef) : Bool :=
  namedProtocols.any fun e ↦ module == .text e.1 && e.2.contains c.lastName

/-- Refuses a base of a protocol that is no protocol itself. -/
def checkBase (h : Hierarchy) (base : ClassRef) : Except DeclarationError Unit :=
  if base = .object then .ok ()
  else match (h.moduleOf base).unhashable? with
    | some name => .error (.unsuitable (.unhashable name))
    | none =>
      if isNamedProtocol (h.moduleOf base) base ||
          ((h.lineage base).contains .generic && h.isProtocol base) then .ok ()
      else .error (.notProtocol (h.shownClass base))

/-- The attributes of a class with a mark that says whether it is a protocol: it says so itself, or
`protocol` is among its bases. -/
def withMark (bases : List ClassRef) (attributes : List (Text × Attribute)) :
    List (Text × Attribute) :=
  if ((attributes.lookup markName).map Attribute.isTrue).getD false then attributes
  else Attribute.set markName (.value (.bool (bases.contains .protocol))) attributes

/-- The attributes of a class that derives from `protocol`: every such class has a mark and a hook,
and a protocol without an initialiser has one that refuses. -/
def deriveProtocol (h : Hierarchy) (bases lineage : List ClassRef)
    (attributes : List (Text × Attribute)) :
    Except DeclarationError (List (Text × Attribute)) := do
  let attributes := setDefault hookName (.function protocolHook) (withMark bases attributes)
  if !((attributes.lookup markName).any Attribute.isTrue) then return attributes
  bases.forM h.checkBase
  let inherited := lineage.any fun k ↦ ((h.get k).attribute? initName).isSome
  return if inherited then attributes else setDefault initName .protocolInit attributes

/-- Refuses written bases among which no class can be looked for. -/
def checkWrittenBases (attributes : List (Text × Attribute)) : Except DeclarationError Unit :=
  match attributes.lookup writtenBasesName with
  | none => .ok ()
  | some (.static _) => .error (.unsuitable (.notContainer "function"))
  | some (.classBound _) => .error (.unsuitable (.notContainer "method"))
  | some (.value (.atom (.text _))) | some (.value (.atom (.textMember _))) => .error .classInText
  | some (.value (.atom (.bytes _))) => .error .classInBytes
  | some (.value (.atom v)) => .error (.unsuitable (.notContainer (Value.atom v).typeName))
  | some (.value _) => .ok ()
  | some a => .error (.unsuitable (.notContainer a.typeName))

/-- The attributes of a class after what the classes in its lineage say that is to happen.  The
nearest one of those that are left decides; `protocol` and `generic` ask those behind them first. -/
def derive (h : Hierarchy) (bases lineage : List ClassRef) (attributes : List (Text × Attribute)) :
    List ClassRef → Except DeclarationError (List (Text × Attribute))
  | [] => .ok attributes
  | .protocol :: behind => do
    h.deriveProtocol bases lineage (← derive h bases lineage attributes behind)
  | .generic :: behind => do
    let attributes ← derive h bases lineage attributes behind
    checkWrittenBases attributes
    return Attribute.set parameterListName (.value (.tuple [])) attributes
  | c :: behind =>
    match (h.get c).attribute? derivationName with
    | some a => ((h.callForDerived a).mapError .derivation).map fun _ ↦ attributes
    | none => derive h bases lineage attributes behind

/-! ## Abstract names -/

/-- Whether the abstract attributes of a class with this lineage count. -/
def hasAbstractNames (lineage : List ClassRef) : Bool :=
  lineage.contains .abstractBase || lineage.contains .protocol

/-- Whether something is read off every class by a name, whatever attributes the class has. -/
def isReadOffClasses (name : Text) : Bool :=
  ["builtins.type", "builtins.object"].any fun type ↦
    ((StandardType.find? type).bind (·.slot? name)).any Slot.isReading

/-- The abstract names that a base hands on: a class whose abstract names do not count can still
list some. -/
def handedOn (h : Hierarchy) (base : ClassRef) : Except DeclarationError (List Text) :=
  if h.isAbstractable base then .ok (h.get base).abstractNames
  else match (h.get base).attribute? abstractNamesName with
    | none => .ok []
    | some a => do
      (← a.items.mapError .unsuitable).mapM fun v ↦
        match v.text? with
        | some name => .ok name
        | none => .error (.abstractNotText v.typeName)

/-- The class with its abstract names: its own, and those of its bases for which a lookup from the
class still finds something abstract. -/
def withAbstractNames (h : Hierarchy) (e : ClassEntry) : Except DeclarationError ClassEntry :=
  if hasAbstractNames e.lineage then do
    let own := (e.attributes.filter fun a ↦ a.2.isAbstract).map (·.1)
    let inherited ← e.bases.mapM h.handedOn
    let found (name : Text) : Option Attribute :=
      if isReadOffClasses name then none
      else (e.attribute? name).or (e.lineage.tail.findSome? fun k ↦ (h.get k).attribute? name)
    let isAbstract (name : Text) : Bool := (found name).any Attribute.isAbstract
    return { e with
      attributes := e.attributes.filter fun a ↦ !abstractableNames.contains a.1
      abstractNames := (own ++ inherited.flatten.filter isAbstract).eraseDups }
  else .ok e

/-! ## Classes -/

/-- The bases of a class that was declared with some; there is always one. -/
def basesOr (bases : List ClassRef) : List ClassRef := if bases.isEmpty then [.object] else bases

/-- The first of some classes that comes again. -/
def repeated? : List ClassRef → Option ClassRef
  | [] => none
  | c :: rest => if rest.contains c then some c else repeated? rest

/-- The lineage of a class, if its bases have a common order. -/
def lineageOf (h : Hierarchy) (c : ClassRef) (bases : List ClassRef) :
    Except DeclarationError (List ClassRef) :=
  match repeated? bases with
  | some b => .error (.repeatedBase b)
  | none =>
    ((Linear.merge (bases.map h.lineage ++ [bases])).map (c :: ·)).mapError .noOrder

/-- The class around a nested class, and the name of the nested class in it. -/
def outer? (module qualified : Text) : Option (ClassRef × Text) :=
  match (Text.pieces 0x2E qualified).reverse with
  | last :: o :: outer => some (.declared module (Text.join "." (o :: outer).reverse), last)
  | _ => none

/-- Why a class cannot keep a class under a name. -/
def nestingError? (h : Hierarchy) (outer c : ClassRef) (name : Text) : Option DeclarationError :=
  let type := (h.kind c).lastName
  if ["__name__", "__qualname__"].any (name = Text.ofString ·) then
    some (.nameOnly outer.lastName name type)
  else if name = Text.ofString "__bases__" then some (.basesOnly outer.lastName type)
  else if name = Text.ofString "__class__" then some .classFixed
  else if ["__dict__", "__text_signature__"].any (name = Text.ofString ·) then
    some (.notWritable name)
  else if ((StandardType.find? "builtins.type").bind (·.slot? name)).any Slot.isField then
    some .readOnly
  else none

/-- Why a module cannot keep a class under a name. -/
def placingError? (name : Text) : Option DeclarationError :=
  if name = entriesName then some .readOnly
  else if name = Text.ofString "__class__" then some .classFixed
  else none

/-- Makes a nested class an attribute of the class around it, if that is there; otherwise it stands
in its module under its last name. -/
def nest (h : Hierarchy) (c : ClassRef) (outer : Option (ClassRef × Text)) :
    Except DeclarationError Hierarchy :=
  match outer.filter fun o ↦ h.contains o.1 with
  | some (o, name) =>
    match h.nestingError? o c name with
    | some e => .error e
    | none => .ok (h.setAttribute o name (.nested c))
  | none =>
    match placingError? c.lastName with
    | some e => .error e
    | none => .ok h

/-- An attribute with a class under another name. -/
def renameIn (old new : ClassRef) : Attribute → Attribute
  | .nested c => .nested (if c = old then new else c)
  | a => a

/-- The classes with one of them under another name. -/
def rename (h : Hierarchy) (old new : ClassRef) : Hierarchy :=
  let renamed (c : ClassRef) : ClassRef := if c = old then new else c
  ⟨h.classes.map fun e ↦
    { e with
      ref := renamed e.ref
      attributes := e.attributes.map fun a ↦ (a.1, renameIn old new a.2)
      bases := e.bases.map renamed
      lineage := e.lineage.map renamed
      layouts := e.layouts.map renamed }⟩

/-- The name that a class has when a later one has taken its name. -/
def formerName (h : Hierarchy) (module qualified : Text) : ClassRef :=
  .former ((h.classes.filter fun e ↦ e.ref.place? == some (module, qualified)).length - 1) module
    qualified

/-- A class whose name is free, unless what it says about itself does not go together. -/
def entry (h : Hierarchy) (c : ClassRef) (bases : List ClassRef)
    (attributes : List (Text × Attribute)) : Except DeclarationError ClassEntry := do
  let base ← (h.layoutBase bases).mapError .layout
  let layout ← (h.layoutOf c.lastName base bases attributes).mapError .layout
  if c.lastName.contains 0 then throw .zeroInName
  let shownName? ← shownNameIn attributes
  checkDoc attributes
  checkCell attributes
  let lineage ← lineageOf h c bases
  let attributes ← h.derive bases lineage.tail (withoutKeys (kept attributes layout.parts))
    lineage.tail
  h.withAbstractNames {
    ref := c, attributes, bases, lineage
    abstractNames := []
    layouts := c :: (h.get base).layouts
    hasParts := !layout.parts.isEmpty
    extras := layout.extras
    shownName? }

/-- Adds a class whose name is free, unless what it says about itself does not go together. -/
def add (h : Hierarchy) (module qualified : Text) (bases : List ClassRef)
    (members : List Member) : Except DeclarationError Hierarchy := do
  let c := ClassRef.declared module qualified
  let e ← h.entry c bases (body qualified members)
  nest ⟨h.classes ++ [e]⟩ c (outer? module qualified)

/-- Declares a class, unless its bases do not go together. -/
def declare (h : Hierarchy) (module qualified : Text) (bases : List ClassRef)
    (members : List Member) : Except DeclarationError Hierarchy :=
  let c := ClassRef.declared module qualified
  let bases := basesOr bases
  if h.contains c then
    let former := h.formerName module qualified
    (h.rename c former).add module qualified (bases.map fun b ↦ if b = c then former else b) members
  else h.add module qualified bases members

/-! ## Classes in modules -/

/-- The name of a class in its module, if it is not nested in one of the classes before it. -/
def nameInModule? (before : List ClassEntry) (c : ClassRef) : Option (Text × Text) :=
  c.place?.bind fun (module, qualified) ↦
    match outer? module qualified with
    | none => some (module, qualified)
    | some (o, name) =>
      if before.any (·.ref.place? == o.place?) then none else some (module, name)

/-- The classes that stand in modules by their names there, the last one first. -/
def inModules (before : List ClassEntry) : List ClassEntry → List ((Text × Text) × ClassRef)
  | [] => []
  | e :: rest =>
    inModules (before ++ [e]) rest ++ ((nameInModule? before e.ref).map (·, e.ref)).toList

/-- The class of a name in a module.  A nested class whose outer class was not there stands in its
module; of classes with the same name there the last one counts. -/
def inModule? (h : Hierarchy) (module name : Text) : Option ClassRef :=
  ((inModules [] h.classes).find? fun e ↦ e.1 == (module, name)).map (·.2)

end ActorFacade.Hierarchy
