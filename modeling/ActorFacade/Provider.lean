import ActorFacade.Declaration
import ActorFacade.Hierarchy.Basic

/-! # Providers

A provider is what stands behind a module: it has the operations of its type.  Functions and classes
are providers too, once they stand for themselves instead of being called, and so is every other
object that a name leads to.

What a class has for its objects without having declared it is a feature of the class.  A feature is
an object itself; bound to an object it is an operation of that object.
-/

namespace ActorFacade

/-- The kinds of what a class has for its objects. -/
inductive FeatureKind where
  /-- An operation that the language has a sign for. -/
  | operator
  /-- Any other operation. -/
  | procedure
  /-- A part of the objects. -/
  | part
  /-- Something that is read off the objects. -/
  | reading
deriving DecidableEq, Repr

/-- What a class has for its objects. -/
structure Feature where
  /-- Its kind. -/
  kind : FeatureKind
  /-- The class. -/
  owner : ClassRef
  /-- Its name. -/
  name : Text
deriving DecidableEq, Repr

namespace Feature

/-- The name of the type of a feature. -/
def typeName (f : Feature) : Text :=
  match f.kind with
  | .operator => "builtins.wrapper_descriptor"
  | .procedure => "builtins.method_descriptor"
  | .part => "builtins.member_descriptor"
  | .reading => "builtins.getset_descriptor"

/-- The name of the type of a feature that is bound to an object. -/
def boundTypeName (f : Feature) : Text :=
  match f.kind with
  | .operator => "builtins.method-wrapper"
  | _ => "builtins.builtin_function_or_method"

end Feature

/-- An object that can stand behind a module. -/
inductive Provider where
  /-- A stand-in for an object of a declared type. -/
  | handle (typeName : Text) (only exclude : Value)
  /-- The declaration of a type, standing for the type. -/
  | declaration (d : TypeDeclaration)
  | value (v : Value)
  | instance (c : ClassRef)
  | class (c : ClassRef)
  /-- A function and what it returns. -/
  | function (f : Function) (result : Provider)
  /-- A function bound to an object, which is its first argument; it returns the null value. -/
  | method (f : Function) (self : Provider)
  /-- A computed attribute itself, with its function. -/
  | property (f : Function)
  /-- A feature of a class itself. -/
  | feature (f : Feature)
  /-- A feature bound to an object. -/
  | bound (f : Feature) (self : Provider)
  /-- A module itself. -/
  | module (name : Text)
  /-- An object of a standard type of which nothing else is known. -/
  | standard (typeName : Text)
deriving DecidableEq, Repr, Inhabited

namespace Provider

/-- The null value. -/
abbrev null : Provider := .value .null

/-- A text. -/
abbrev text (t : Text) : Provider := .value (.text t)

/-- A function that returns the null value. -/
abbrev plainFunction (f : Function) : Provider := .function f null

/-- An object of a standard type; there is only one of the type of the null value. -/
def ofType (typeName : Text) : Provider :=
  if typeName = Text.ofString "builtins.NoneType" then null else .standard typeName

/-- A text of which only the type is known, or the null value. -/
def textIf (isText : Bool) : Provider := if isText then .standard "builtins.str" else null

/-- The class of a provider; a class counts as its own. -/
def classOf : Provider → ClassRef
  | .instance c | .class c => c
  | .value v => .builtin (valueTypeName v)
  | .handle .. => .builtin "actorgen.metadata.models.ProviderHandle"
  | .declaration _ => .builtin ClassRef.declarationName
  | .function .. => .builtin "builtins.function"
  | .method .. => .builtin "builtins.method"
  | .property _ => .builtin "builtins.property"
  | .feature f => .builtin f.typeName
  | .bound f _ => .builtin f.boundTypeName
  | .module _ => .builtin "builtins.module"
  | .standard name => .builtin name

/-- The name of the type of a provider, without its module. -/
def typeName (h : Hierarchy) : Provider → Text
  | .class c => (h.kind c).lastName
  | .value v => v.typeName
  | p => p.classOf.lastName

end Provider

end ActorFacade
