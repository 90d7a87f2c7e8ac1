import ActorFacade.Value.Display
import ActorFacade.Value.Items

/-! # Suites

A suite names the class of an actor, the modules whose operations it has, and options with which the
modules are made.  A suite that was read has texts, a list of texts and a mapping in these places.
One that was put together by hand may have any values there; `Suite.check` says whether an actor can
be made from it, and what is then still unsuitable shows when it is used.
-/

namespace ActorFacade

/-- The description of one actor. -/
structure Suite where
  /-- The name of the class. -/
  className : Value
  /-- The names of the modules. -/
  modules : Value
  /-- The namespace of the class as it was given. -/
  space : Value := .text []
  /-- The options of modules that have some, under their names. -/
  options : Value := .dict []
  /-- The file that the suite was read from. -/
  path : Option Text := none
  /-- The names of the parts that it lacks, because its parts were replaced by others. -/
  lacking : List Text := []
deriving DecidableEq, Repr

namespace Suite

/-! ## Defects -/

/-- What keeps an actor from being made. -/
inductive Defect where
  | noClassName
  | noModuleList
  /-- The suite lacks the part with this name. -/
  | lacks (part : Text)
deriving DecidableEq, Repr

/-- What is wrong with asking a suite for a part that it lacks. -/
def lackingPart (part : Text) : TypeDefect := .noAttribute "ActorSettings" part

/-- The wording of a defect. -/
def Defect.message : Defect → Text
  | .noClassName => "Actor settings require a class name"
  | .noModuleList => "Actor settings require a module list"
  | .lacks part => (lackingPart part).message

/-- The name of the part that is the name of the class. -/
def classNamePart : Text := "class_name"

/-- The name of the part that is the list of modules. -/
def modulesPart : Text := "modules"

/-- The name of the part that is the namespace. -/
def spacePart : Text := "namespace"

/-- The name of the part that is the options of modules. -/
def optionsPart : Text := "module_config"

/-- The value of a part of a suite, unless it lacks the part. -/
def part (s : Suite) (name : Text) (v : Value) : Except TypeDefect Value :=
  if s.lacking.contains name then .error (lackingPart name) else .ok v

/-- The first defect of a suite: its class has no name, or there is nothing or a text in place of
the list of modules. -/
def defect? (s : Suite) : Option Defect :=
  if s.lacking.contains classNamePart then some (.lacks classNamePart)
  else if !s.className.isTrue then some .noClassName
  else if s.lacking.contains modulesPart then some (.lacks modulesPart)
  else if s.modules = .null || s.modules.text?.isSome then some .noModuleList
  else none

/-! ## Changes -/

/-- Why a part of a suite cannot be given a value. -/
inductive ChangeError where
  /-- The namespace without the separators behind it follows from the namespace. -/
  | computed
  /-- A type is to be replaced by a value of the type with this name. -/
  | notClass (typeName : Text)
  /-- All parts are to be replaced by a value of the type with this name. -/
  | notParts (typeName : Text)
  /-- The place where references to a suite are counted. -/
  | notWritable
deriving DecidableEq, Repr

/-- The wording of an error. -/
def ChangeError.message : ChangeError → Text
  | .computed => "property 'qualified_namespace' of 'ActorSettings' object has no setter"
  | .notClass name => "__class__ must be set to a class, not '" ++ name ++ "' object"
  | .notParts name => "__dict__ must be set to a dictionary, not a '" ++ name ++ "'"
  | .notWritable => "attribute '__weakref__' of 'ActorSettings' objects is not writable"

/-- The name of all parts together. -/
def allParts : Text := "__dict__"

/-- Why a part that is not one of those a suite has cannot be given a value; most names can. -/
def changeError? (part : Text) (v : Value) : Option ChangeError :=
  if part = Text.ofString "qualified_namespace" then some .computed
  else if part = Text.ofString "__class__" then some (.notClass v.typeName)
  else if part = allParts && !(v matches .dict _) then
    some (.notParts (shortTypeName v.typeName))
  else if part = Text.ofString "__weakref__" then some .notWritable
  else none

/-- A suite with a part, whatever it had. -/
def having (s : Suite) (name : Text) : Suite :=
  { s with lacking := s.lacking.filter (· != name) }

/-- A suite with other parts.  Those that are not among them are lacking, or are as they are when
nothing is said about them. -/
def ofParts (es : Entries) : Suite where
  className := (es.get? classNamePart).getD .null
  modules := (es.get? modulesPart).getD .null
  space := (es.get? spacePart).getD (.text [])
  options := (es.get? optionsPart).getD .null
  lacking := [classNamePart, modulesPart, optionsPart].filter fun name ↦ (es.get? name).isNone

/-- A suite with a value for a part.  Giving one to a part that suites do not have changes nothing.
-/
def set (s : Suite) (part : Text) (v : Value) : Except ChangeError Suite :=
  if part = classNamePart then .ok { s.having part with className := v }
  else if part = modulesPart then .ok { s.having part with modules := v }
  else if part = spacePart then .ok { s with space := v }
  else if part = optionsPart then .ok { s.having part with options := v }
  else match changeError? part v, v with
    | some cause, _ => .error cause
    | none, .dict es => .ok (if part = allParts then ofParts es else s)
    | none, _ => .ok s

/-! ## Parts -/

/-- The name of the class as a text. -/
def classText (s : Suite) : Except Integer.LimitError Text := s.className.display

/-- The names of the modules one by one. -/
def moduleItems (s : Suite) : Except TypeDefect (List Value) := do
  (← s.part modulesPart s.modules).itemsOf

/-- The names of the modules that are texts. -/
def moduleNames (s : Suite) : List Text :=
  match s.moduleItems with
  | .ok items => items.filterMap Value.text?
  | .error _ => []

/-- A namespace without the separators behind it. -/
def trimSpace (space : Text) : Text := space.dropRightWhile (· == 0x5C)

/-- The namespace without the separators behind it. -/
def qualifiedSpace (s : Suite) : Except TypeDefect Text :=
  match s.space, s.space.text? with
  | _, some t => .ok (trimSpace t)
  | .atom (.bytes _), none => .error .notBytes
  | v, none => .error (.noAttribute v.typeName "rstrip")

/-- The options of a module; a module without any has none. -/
def optionsOf (s : Suite) (name : Text) : Except TypeDefect Value := do
  let options ← s.part optionsPart s.options
  match options.entries? with
  | some es => return (es.get? name).getD (.dict [])
  | none => throw (.noAttribute options.typeName "get")

end Suite

end ActorFacade
