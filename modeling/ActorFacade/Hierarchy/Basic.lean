import ActorFacade.Declaration
import ActorFacade.Docblock
import ActorFacade.Hierarchy.Reserved
import ActorFacade.Value.Display
import ActorFacade.Value.Items

/-! # Hierarchies of classes

A class has attributes of its own, direct bases, and a lineage: the class itself and everything that
it derives from, in the order in which attributes are looked up.  Only plain functions among the
attributes are operations; functions wrapped in some way, other values and nested classes are not,
but they hide functions of the same name further back in the lineage from a lookup.
-/

namespace ActorFacade

/-- How a class is known. -/
inductive ClassRef where
  /-- The class that every class derives from. -/
  | object
  /-- The base of classes that may have abstract functions. -/
  | abstractBase
  /-- The base of classes that only describe other classes. -/
  | protocol
  /-- The base of `protocol`. -/
  | generic
  /-- The class of a value without a class of its own, by its full name. -/
  | builtin (fullName : Text)
  /-- A class of a module, by its name within the module. -/
  | declared (module qualified : Text)
  /-- A class of a module whose name was given to a later class; `earlier` such classes had the name
  before it. -/
  | former (earlier : Nat) (module qualified : Text)
deriving DecidableEq, Repr

/-- The full name of the class of declarations. -/
def ClassRef.declarationName : Text := "actorgen.metadata.models.TypeDeclaration"

/-- The full name by which a class is known; a class can show another one. -/
def ClassRef.fullName : ClassRef → Text
  | .object => "builtins.object"
  | .abstractBase => "abc.ABC"
  | .protocol => "typing.Protocol"
  | .generic => "typing.Generic"
  | .builtin name => name
  | .declared module qualified | .former _ module qualified => module ++ "." ++ qualified

/-- The module of a declared class, and its name within the module. -/
def ClassRef.place? : ClassRef → Option (Text × Text)
  | .declared module qualified | .former _ module qualified => some (module, qualified)
  | _ => none

/-- The name of a class without the classes and the module around it. -/
def ClassRef.lastName (c : ClassRef) : Text := ((Text.pieces 0x2E c.fullName).getLast?).getD []

/-- The module of a class and its name within the module. -/
def ClassRef.place (c : ClassRef) : Text × Text :=
  c.place?.getD (Text.join "." (Text.pieces 0x2E c.fullName).dropLast, c.lastName)

/-- The module of the types of values. -/
def valueModule : Text := "builtins."

/-- The name of the type of a value with its module. -/
def valueTypeName (v : Value) : Text :=
  match v with
  | .atom (.constant _) | .atom .absent => "actorgen.metadata.models." ++ v.typeName
  | .atom (.date ..) | .atom (.moment _) => "datetime." ++ v.typeName
  | v => valueModule ++ v.typeName

/-- The ways in which a formal parameter takes arguments. -/
inductive FormalKind where
  /-- By its place only. -/
  | positionalOnly
  /-- By its place or by a keyword. -/
  | positional
  /-- All positional arguments that are left. -/
  | variadic
  | keywordOnly
  /-- All keyword arguments that are left. -/
  | keywordVariadic
deriving DecidableEq, Repr

/-- Whether arguments are taken one by one by their places. -/
def FormalKind.isPositional : FormalKind → Bool
  | .positionalOnly | .positional => true
  | .variadic | .keywordOnly | .keywordVariadic => false

/-- Whether an argument may be given under the name of the parameter. -/
def FormalKind.isNamed : FormalKind → Bool
  | .positional | .keywordOnly => true
  | .positionalOnly | .variadic | .keywordVariadic => false

/-- A formal parameter of a function. -/
structure Formal where
  /-- Its name. -/
  name : Text
  /-- How it takes arguments. -/
  kind : FormalKind := .positional
  /-- The value that it has without an argument. -/
  default : Option Value := none
deriving DecidableEq, Repr

/-- Whether an argument is given to a formal parameter by a keyword. -/
def Formal.isGivenBy (p : Formal) (keyword : Text) : Bool := p.kind.isNamed && p.name == keyword

/-- Formal parameters in the order in which a function lists them: behind one that takes all
positional arguments that are left, or one that is given by keyword only, all others are given by
keyword only. -/
def Formal.listed : List Formal → List Formal
  | [] => []
  | p :: formals =>
    match p.kind with
    | .variadic | .keywordOnly =>
      p :: formals.map fun q ↦ if q.kind = .positional then { q with kind := .keywordOnly } else q
    | _ => p :: listed formals

/-- A function. -/
structure Function where
  /-- Its name with the classes around it. -/
  qualified : Text
  /-- Its formal parameters, among them the one for the instance. -/
  formals : List Formal
  /-- Its documentation as it stands in the source. -/
  doc : Option Text := none
  /-- Whether it is marked as abstract. -/
  isAbstract : Bool := false
  /-- Whether it uses variables of the functions around it. -/
  isClosure : Bool := false
deriving DecidableEq, Repr

/-- An attribute of a class. -/
inductive Attribute where
  | function (f : Function)
  /-- A function without a parameter for the instance. -/
  | static (f : Function)
  /-- A function with a parameter for the class. -/
  | classBound (f : Function)
  /-- A value that a function computes. -/
  | computed (f : Function)
  | value (v : Value)
  | nested (c : ClassRef)
  /-- The function that keeps a protocol from having instances. -/
  | protocolInit
  /-- The initialiser of classes that have none of their own; it takes no options. -/
  | plainInit
  /-- A part of every instance, which has no value yet. -/
  | part
deriving DecidableEq, Repr

/-- The function behind `protocolInit`; it takes all arguments. -/
def Attribute.protocolInitFunction : Function where
  qualified := "_no_init_or_replace_init"
  formals := [{ name := "self" }, { name := "args", kind := .variadic },
    { name := "kwargs", kind := .keywordVariadic }]

/-- The plain function that an attribute is. -/
def Attribute.function? : Attribute → Option Function
  | .function f => some f
  | .protocolInit => some protocolInitFunction
  | _ => none

/-- Whether an attribute counts as true; all but some values do. -/
def Attribute.isTrue : Attribute → Bool
  | .value v => v.isTrue
  | _ => true

/-- Whether an attribute is abstract: its function is, in whatever way it is wrapped. -/
def Attribute.isAbstract : Attribute → Bool
  | .function f | .static f | .classBound f | .computed f => f.isAbstract
  | _ => false

/-- The name of the type of an attribute as its class has it. -/
def Attribute.typeName : Attribute → Text
  | .function _ | .protocolInit => "function"
  | .static _ => "staticmethod"
  | .classBound _ => "classmethod"
  | .computed _ => "property"
  | .value v => v.typeName
  | .nested _ => "type"
  | .plainInit => "wrapper_descriptor"
  | .part => "member_descriptor"

/-- What an attribute has to go through; only values can be gone through. -/
def Attribute.items (a : Attribute) : Except TypeDefect (List Value) :=
  match a with
  | .value v => v.itemsOf
  | a => .error (.notIterable a.typeName)

/-- A class. -/
structure ClassEntry where
  /-- How it is known. -/
  ref : ClassRef
  /-- Its own attributes in order. -/
  attributes : List (Text × Attribute)
  /-- Its direct bases. -/
  bases : List ClassRef
  /-- The class and everything it derives from, in the order of lookup. -/
  lineage : List ClassRef
  /-- The names of abstract attributes that nothing stands in for. -/
  abstractNames : List Text
  /-- The class, the base that its instances are laid out like, the base that those of this base are
  laid out like, and so on. -/
  layouts : List ClassRef
  /-- Whether it adds parts to its instances. -/
  hasParts : Bool := false
  /-- The names of what it adds to its instances besides parts. -/
  extras : List Text := []
  /-- The name within its module that it shows, if it shows another one than the one it is known by.
  -/
  shownName? : Option Text := none
deriving DecidableEq, Repr

/-- A family of classes. -/
structure Hierarchy where
  /-- The classes in order of creation. -/
  classes : List ClassEntry := []
deriving DecidableEq, Repr

/-- Sets an attribute, which keeps its place if it has one. -/
def Attribute.set (name : Text) (a : Attribute) :
    List (Text × Attribute) → List (Text × Attribute)
  | [] => [(name, a)]
  | b :: rest => if b.1 = name then (name, a) :: rest else b :: set name a rest

namespace ClassEntry

/-- The attribute of a name. -/
def attribute? (e : ClassEntry) (name : Text) : Option Attribute :=
  (e.attributes.find? fun a ↦ a.1 == name).map (·.2)

/-- The plain function of a name. -/
def function? (e : ClassEntry) (name : Text) : Option Function :=
  (e.attribute? name).bind Attribute.function?

/-- The class with an attribute set. -/
def withAttribute (e : ClassEntry) (name : Text) (a : Attribute) : ClassEntry :=
  { e with attributes := Attribute.set name a e.attributes }

/-- The names of the plain functions. -/
def functionNames (e : ClassEntry) : List Text :=
  e.attributes.filterMap fun a ↦ a.2.function?.map fun _ ↦ a.1

/-- The attributes of a class that was not declared: only declarations have an operation, which
finds the method of a name. -/
def standardAttributes (c : ClassRef) : List (Text × Attribute) :=
  if c = .builtin ClassRef.declarationName then
    [("method", .function {
      qualified := "TypeDeclaration.method"
      formals := [{ name := "self" }, { name := "name" }] })]
  else []

/-- The lineage of a class that was not declared. -/
def standardLineage (c : ClassRef) : List ClassRef :=
  match c with
  | .object => [.object]
  | .protocol => [.protocol, .generic, .object]
  | _ => [c, .object]

/-- A class that was not declared. -/
def standard (c : ClassRef) : ClassEntry where
  ref := c
  attributes := standardAttributes c
  bases := match c with
    | .object => []
    | .protocol => [.generic]
    | _ => [.object]
  lineage := standardLineage c
  abstractNames := []
  layouts := standardLineage c

end ClassEntry

namespace Hierarchy

/-- The class of a reference. -/
def get (h : Hierarchy) (c : ClassRef) : ClassEntry :=
  (h.classes.find? fun e ↦ e.ref == c).getD (.standard c)

/-- Whether a class is in the family. -/
def contains (h : Hierarchy) (c : ClassRef) : Bool := h.classes.any fun e ↦ e.ref == c

/-- The classes in which attributes of a class are looked up. -/
def lineage (h : Hierarchy) (c : ClassRef) : List ClassRef := (h.get c).lineage

/-- The first attribute of a name in the lineage of a class. -/
def lookup? (h : Hierarchy) (c : ClassRef) (name : Text) : Option Attribute :=
  (h.lineage c).findSome? fun k ↦ (h.get k).attribute? name

/-- Sets an attribute of a class. -/
def setAttribute (h : Hierarchy) (c : ClassRef) (name : Text) (a : Attribute) : Hierarchy :=
  ⟨h.classes.map fun e ↦ if e.ref = c then e.withAttribute name a else e⟩

/-- Whether a class is a mark that says nothing about operations. -/
def isMarker (c : ClassRef) : Bool := c == .object || c == .abstractBase

/-- The mark by which a class itself says whether it is a protocol. -/
def mark? (h : Hierarchy) (c : ClassRef) : Option Bool :=
  match c with
  | .protocol => some true
  | .generic => some false
  | c => ((h.get c).attribute? markName).map Attribute.isTrue

/-- Whether a class is a protocol: the nearest mark in its lineage says so. -/
def isProtocol (h : Hierarchy) (c : ClassRef) : Bool :=
  ((h.lineage c).findSome? h.mark?).getD false

/-! ## Names -/

/-- The module that a class shows, which can be any value. -/
def moduleOf (h : Hierarchy) (c : ClassRef) : Value :=
  match (h.get c).attribute? moduleName with
  | some (.value v) => v
  | some a => .atom (.other a.typeName)
  | none => .text c.place.1

/-- The name within its module that a class shows. -/
def nameOf (h : Hierarchy) (c : ClassRef) : Text := ((h.get c).shownName?).getD c.place.2

/-- The full name that a class shows. -/
def fullName (h : Hierarchy) (c : ClassRef) : Text :=
  ((h.moduleOf c).display.toOption.getD []) ++ "." ++ h.nameOf c

/-- Whether the module that a class shows is the one of values, or goes without a name. -/
def isOfValues (h : Hierarchy) (c : ClassRef) : Bool :=
  h.moduleOf c == .text "builtins"

/-- The name under which a class is called: the module of values goes without saying. -/
def calledName (h : Hierarchy) (c : ClassRef) : Text :=
  if h.isOfValues c || h.moduleOf c == .null then h.nameOf c else h.fullName c

/-- A class as it appears inside messages. -/
def shownClass (h : Hierarchy) (c : ClassRef) : Text :=
  let named := if h.isOfValues c || (h.moduleOf c).text?.isNone then c.lastName else h.fullName c
  "<class '" ++ named ++ "'>"

/-- Whether a class is of the module of `protocol` itself. -/
def isOfProtocols (h : Hierarchy) (c : ClassRef) : Bool := h.moduleOf c == .text "typing"

/-- Whether a class is an interface: a protocol, other than those of the module of `protocol`, or a
class with abstract attributes left. -/
def isInterface (h : Hierarchy) (c : ClassRef) : Bool :=
  !isMarker c && if h.isProtocol c then !h.isOfProtocols c else !(h.get c).abstractNames.isEmpty

/-- Whether a class can have abstract attributes. -/
def isAbstractable (h : Hierarchy) (c : ClassRef) : Bool :=
  (h.lineage c).contains .abstractBase || (h.lineage c).contains .protocol

/-- The class of a class. -/
def kind (h : Hierarchy) (c : ClassRef) : ClassRef :=
  if (h.lineage c).contains .protocol then .builtin "typing._ProtocolMeta"
  else if (h.lineage c).contains .abstractBase then .builtin "abc.ABCMeta"
  else .builtin "builtins.type"

end Hierarchy

end ActorFacade
