import ActorFacade.Provider.Attributes

/-! # What calls make

Classes and functions are called with options.  A declared class makes its instances; every standard
type has its own way to make objects, if it makes any.  Some standard types take options by name, as
their form says.
-/

namespace ActorFacade

/-- The options that a standard type takes. -/
structure Form where
  /-- The name under which the type is called. -/
  called : Text
  /-- The names of the options. -/
  names : List Text
  /-- How many of the first ones there have to be. -/
  required : Nat := 0
  /-- How many options there can be without a name. -/
  nameless : Nat := 0
deriving DecidableEq, Repr

namespace Form

/-- The number of options that there can be. -/
def most (f : Form) : Nat := f.names.length + f.nameless

/-- The first required option that is not given, and its place. -/
def lacking? (f : Form) (options : Entries) : Option (Text × Nat) :=
  ((f.names.take f.required).zipIdx).find? fun e ↦ (options.get? e.1).isNone

/-- The error of the first option that the form does not have. -/
def strange? (f : Form) : Entries → Option CallError
  | [] => none
  | (k, _) :: options =>
    match k.text? with
    | none => some .keywordsNotText
    | some name => if f.names.contains name then strange? f options
      else some (.invalidKeyword f.called name)

/-- Refuses options that do not fit. -/
def check (f : Form) (options : Entries) : Except CallError Unit :=
  if f.most < options.length then .error (.tooManyKeywords f.called f.most options.length)
  else match f.lacking? options, f.strange? options with
    | some (name, i), _ => .error (.lacksPart (f.called ++ "()") name (i + 1))
    | none, some e => .error e
    | none, none => .ok ()

end Form

namespace StandardType

/-- The standard types that make nothing when they are given options only, and why. -/
def refusals : List (Text × CallError) := [
  ("datetime.date", .lacksPart "function" "year" 1),
  ("datetime.datetime", .lacksPart "function" "year" 1),
  ("datetime.timezone", .lacksPart "timezone()" "offset" 1),
  ("builtins.builtin_function_or_method", .notMade "builtin_function_or_method"),
  ("builtins.method-wrapper", .notMade "method-wrapper"),
  ("builtins.wrapper_descriptor", .notMade "wrapper_descriptor"),
  ("builtins.method_descriptor", .notMade "method_descriptor"),
  ("builtins.getset_descriptor", .notMade "getset_descriptor"),
  ("builtins.member_descriptor", .notMade "member_descriptor")]

/-- The standard types that make nothing when they are given texts for keywords, and why. -/
def keywordRefusals : List (Text × CallError) := [
  ("builtins.type", .oneOrThree "type"),
  ("abc.ABCMeta", .missing "ABCMeta.__new__" ["name", "bases", "namespace"]),
  ("typing._ProtocolMeta", .missing "ABCMeta.__new__" ["name", "bases", "namespace"])]

/-- The standard types that can make something only without options, what they make then, and how
they refuse options. -/
def makings : List (Text × Except CallError Provider × CallError) := [
  ("builtins.NoneType", .ok .null, .takesNothing "NoneType"),
  ("builtins.method", .error (.lacksArguments "method" "2 arguments"), .noKeywords "method"),
  ("builtins.code", .error (.lacksArguments "code" "at least 16 arguments"), .noKeywords "code"),
  ("actorgen.metadata.models._NoDefault", .ok (.value (.atom .absent)),
    .takesNoArguments "_NoDefault")]

/-- The standard types that can make something only without options, and what they make then.  They
refuse keywords that are no texts first. -/
def plainMakings : List (Text × Provider) := [
  ("builtins.bool", .value (.bool false)),
  ("builtins.float", .value (.double (.zero false))),
  ("builtins.list", .value (.list [])),
  ("builtins.tuple", .value (.tuple [])),
  ("builtins.set", .value (.set [])),
  ("builtins.frozenset", .standard "builtins.frozenset")]

/-- The forms of the standard types that take options by name. -/
def forms : List (Text × Form) := [
  ("builtins.int", { called := "int", names := ["base"], nameless := 1 }),
  ("builtins.str", { called := "str", names := ["object", "encoding", "errors"] }),
  ("builtins.bytes", { called := "bytes", names := ["source", "encoding", "errors"] }),
  ("builtins.property", { called := "property", names := ["fget", "fset", "fdel", "doc"] }),
  ("builtins.module", { called := "module", names := ["name", "doc"], required := 1 }),
  ("builtins.mappingproxy", { called := "mappingproxy", names := ["mapping"], required := 1 }),
  ("builtins.function", {
    called := "function", names := ["code", "globals", "name", "argdefs", "closure"]
    required := 2 }),
  ("datetime.timedelta", {
    called := "__new__"
    names := ["days", "seconds", "microseconds", "milliseconds", "minutes", "hours", "weeks"] })]

/-- Makes a reference to a constant. -/
def makeConstant (options : Entries) : Except CallError Provider := do
  let initialiser := method "ConstantRef.__init__" "self name"
  initialiser.call 1 options
  return match (options.get? "name").bind Value.text? with
    | some name => .value (.atom (.constant name))
    | none => .standard "actorgen.metadata.models.ConstantRef"

/-- Makes the traits of a class of records. -/
def makeTraits (name : Text) (options : Entries) : Except CallError Provider := do
  traitsInitialiser.call 1 options
  return .standard name

/-- An option that has to be a text that can be passed on. -/
def textOption (called name : Text) (options : Entries) : Except ConversionError (Option Text) :=
  match options.get? name with
  | none => .ok none
  | some v =>
    match v.text? with
    | none =>
      .error (.optionNotText called name (if v = .null then "None" else v.typeName))
    | some t =>
      match Utf8.encode t with
      | .error e => .error (.unencodableOption e)
      | .ok _ => if t.contains 0 then .error .zeroInOption else .ok (some t)

/-- How texts and bytes are converted, as some options say. -/
def codingOf (called : Text) (options : Entries) : Except ConversionError Coding := do
  let encoding ← textOption called "encoding" options
  return ⟨encoding, ← textOption called "errors" options⟩

/-- The error of an option that is not of the type that it should be. -/
def wrongOption (called name needed : Text) (options : Entries) : CallError :=
  let v := (options.get? name).getD .null
  .wrongPart called name needed (if v = .null then "None" else v.typeName)

/-- Whether a value can be looked up in; lists cannot, for this. -/
def isLookedUp : Value → Bool
  | .dict _ | .mapping _ => true
  | v => v.text?.isSome || (v matches .atom (.bytes _))

/-- Makes an object of a standard type with options of its form. -/
def makeByForm (name : Text) (options : Entries) : Except CallError Provider :=
  if name = Text.ofString "builtins.int" then
    if options.isEmpty then .ok (.value (.int 0)) else .error (.conversion .baseWithoutText)
  else if name = Text.ofString "builtins.str" then
    ((codingOf "str" options).bind fun coding ↦
      (Value.toText (options.get? "object") coding).map Provider.text).mapError .conversion
  else if name = Text.ofString "builtins.bytes" then
    ((codingOf "bytes" options).bind fun coding ↦
      (Value.checkBytes (options.get? "source") coding).map fun _ ↦
        Provider.standard name).mapError .conversion
  else if name = Text.ofString "builtins.module" then
    if ((options.get? "name").bind Value.text?).isSome then .ok (.standard name)
    else .error (wrongOption "module" "name" "str" options)
  else if name = Text.ofString "builtins.mappingproxy" then
    match options.get? "mapping" with
    | some (.dict es) => .ok (.value (.mapping es))
    | some v => if isLookedUp v then .ok (.standard name)
      else .error (.notMapping "mappingproxy" v.typeName)
    | none => .ok (.standard name)
  else if name = Text.ofString "builtins.function" then
    .error (wrongOption "function" "code" "code" options)
  else .ok (.standard name)

/-- Makes an object of a standard type. -/
def make (name : Text) (options : Entries) : Except CallError Provider :=
  let areTexts := options.all fun e ↦ e.1.text?.isSome
  match refusals.lookup name, makings.lookup name, keywordRefusals.lookup name,
      plainMakings.lookup name, forms.lookup name with
  | some e, _, _, _, _ => .error e
  | _, some (made, e), _, _, _ => if options.isEmpty then made else .error e
  | _, _, some e, _, _ => .error (if areTexts then e else .keywordsNotText)
  | _, _, _, some p, _ =>
    if !areTexts then .error .keywordsNotText
    else if options.isEmpty then .ok p
    else .error (.noKeywords (ClassRef.builtin name).lastName)
  | _, _, _, _, some form => do
    form.check options
    makeByForm name options
  | _, _, _, _, _ =>
    if name = Text.ofString "builtins.dict" then
      if areTexts then .ok (.value (.dict options)) else .error .keywordsNotText
    else if name = Text.ofString "actorgen.metadata.models.ConstantRef" then makeConstant options
    else if name = Text.ofString "dataclasses._DataclassParams" then makeTraits name options
    else .ok (.standard name)

end StandardType

namespace Provider

/-- What a class makes when it is called with options. -/
def makeInstance (h : Hierarchy) (c : ClassRef) (options : Entries) : Except CallError Provider :=
  match c with
  | .builtin name => StandardType.make name options
  | c => (h.create c 0 options).map ofMade

end Provider

end ActorFacade
