import ActorFacade.Hierarchy.Basic
import ActorFacade.Text.Quoted
import ActorFacade.Value.Conversion

/-! # Calls with options

A module is made by calling a function or a class with its options as keyword arguments.  Such a
call fails when the options do not fit the formal parameters, when a class has abstract attributes
left, or when it is a protocol.  Of several things wrong with a call the first in this order is
reported: options that are no mapping, keywords that are no texts, unexpected keywords, arguments in
excess, missing arguments.

The initialiser of a class may itself be a class, and so may the function that makes its instances;
making an instance then calls these.  A function that makes instances makes none: functions have the
null value for a result.

A class that derives from protocols without being one may have inherited their refusing initialiser.
When the first instance of such a class is made the initialiser gives way: the class gets the next
initialiser of its lineage as its own, which is then called.  `settle` is this change.
-/

namespace ActorFacade

/-- Why a call fails. -/
inductive CallError where
  /-- The options for what is called are of a type that is no mapping. -/
  | optionsNotMapping (called typeName : Text)
  | keywordsNotText
  | unexpected (function keyword : Text)
  /-- Keywords name parameters that take arguments by their places only. -/
  | positionalOnly (function : Text) (names : List Text)
  /-- The keyword names a parameter that has its argument already. -/
  | repeated (function keyword : Text)
  /-- There are more positional arguments than the `least` to `most` that the function takes;
  `keywordOnly` others were given by keyword. -/
  | excess (function : Text) (least most given keywordOnly : Nat)
  | missing (function : Text) (names : List Text)
  | missingKeywordOnly (function : Text) (names : List Text)
  /-- A class without initialiser was given options. -/
  | takesNoArguments (className : Text)
  /-- A class that has no initialiser but that of a protocol was given options. -/
  | takesInstanceOnly (className : Text)
  | isAbstract (className : Text) (names : List Text)
  | isProtocol
  /-- What is called cannot be. -/
  | notCallable (typeName : Text)
  /-- An initialiser made something, of this type. -/
  | initialiserResult (typeName : Text)
  /-- Classes call one another without end. -/
  | endless
  /-- What is called is a part of an object that has no value. -/
  | unset (typeName name : Text)
  /-- What is called for an instance of a protocol was given an instance of another type. -/
  | unmarked (typeName : Text)
  /-- A standard type was given options. -/
  | noKeywords (called : Text)
  | invalidKeyword (called keyword : Text)
  | tooManyKeywords (called : Text) (most given : Nat)
  /-- A standard type was not given what it needs, which stands at a place. -/
  | lacksPart (called part : Text) (place : Nat)
  /-- A standard type was given something of another type than it needs. -/
  | wrongPart (called part needed typeName : Text)
  | notMapping (called typeName : Text)
  /-- A standard type cannot convert what it was given. -/
  | conversion (cause : ConversionError)
  | lacksArguments (called needed : Text)
  | oneOrThree (called : Text)
  /-- A standard type takes nothing. -/
  | takesNothing (typeName : Text)
  /-- No object of a standard type can be made. -/
  | notMade (typeName : Text)
deriving DecidableEq, Repr

namespace CallError

/-- An ending for more than one. -/
def plural (n : Nat) : Text := if n = 1 then [] else "s"

/-- A name between quotation marks. -/
def inQuotes (name : Text) : Text := name.quoted

/-- Names one after the other, the last behind an `and`. -/
def listed : List Text → Text
  | [] => []
  | [a] => inQuotes a
  | [a, b] => inQuotes a ++ " and " ++ inQuotes b
  | names =>
    Text.join ", " (names.dropLast.map inQuotes) ++ ", and " ++
      ((names.getLast?).map inQuotes).getD []

/-- The wording for missing arguments of a kind. -/
def missingText (function kind : Text) (names : List Text) : Text :=
  function ++ "() missing " ++ Text.ofNat names.length ++ " required " ++ kind ++ " argument" ++
    plural names.length ++ ": " ++ listed names

/-- The wording for positional arguments in excess. -/
def excessText (function : Text) (least most given keywordOnly : Nat) : Text :=
  let taken : Text :=
    if least = most then Text.ofNat most ++ " positional argument" ++ plural most
    else "from " ++ Text.ofNat least ++ " to " ++ Text.ofNat most ++ " positional arguments"
  let others : Text :=
    if keywordOnly = 0 then []
    else " positional argument" ++ plural given ++ " (and " ++ Text.ofNat keywordOnly ++
      " keyword-only argument" ++ plural keywordOnly ++ ")"
  let verb : Text := if given = 1 && keywordOnly = 0 then " was" else " were"
  function ++ "() takes " ++ taken ++ " but " ++ Text.ofNat given ++ others ++ verb ++ " given"

/-- The wording of an error. -/
def message : CallError → Text
  | .optionsNotMapping called name =>
    called ++ "() argument after ** must be a mapping, not " ++ shortTypeName name
  | .keywordsNotText => "keywords must be strings"
  | .unexpected f k => f ++ "() got an unexpected keyword argument '" ++ k ++ "'"
  | .positionalOnly f names =>
    f ++ "() got some positional-only arguments passed as keyword arguments: '" ++
      Text.join ", " names ++ "'"
  | .repeated f k => f ++ "() got multiple values for argument '" ++ k ++ "'"
  | .excess f least most given keywordOnly => excessText f least most given keywordOnly
  | .missing f names => missingText f "positional" names
  | .missingKeywordOnly f names => missingText f "keyword-only" names
  | .takesNoArguments c => shortTypeName c ++ "() takes no arguments"
  | .takesInstanceOnly c =>
    shortTypeName c ++ ".__init__() takes exactly one argument (the instance to initialize)"
  | .isAbstract c names =>
    "Can't instantiate abstract class " ++ c ++ " with abstract method" ++ plural names.length ++
      " " ++ Text.join ", " names
  | .isProtocol => "Protocols cannot be instantiated"
  | .notCallable name => "'" ++ shortTypeName name ++ "' object is not callable"
  | .initialiserResult name => "__init__() should return None, not '" ++ shortTypeName name ++ "'"
  | .endless => "maximum recursion depth exceeded while calling a Python object"
  | .unset name part => "'" ++ shortTypeName name ++ "' object has no attribute '" ++ part ++ "'"
  | .unmarked name =>
    "type object '" ++ shorterTypeName name ++ "' has no attribute '" ++ markName ++ "'"
  | .noKeywords f => f ++ "() takes no keyword arguments"
  | .invalidKeyword f k => "'" ++ k ++ "' is an invalid keyword argument for " ++ f ++ "()"
  | .tooManyKeywords f most given =>
    f ++ "() takes at most " ++ Text.ofNat most ++ " keyword argument" ++ plural most ++ " (" ++
      Text.ofNat given ++ " given)"
  | .lacksPart f part place =>
    f ++ " missing required argument '" ++ part ++ "' (pos " ++ Text.ofNat place ++ ")"
  | .wrongPart f part needed name =>
    f ++ "() argument '" ++ part ++ "' must be " ++ needed ++ ", not " ++ shorterTypeName name
  | .notMapping f name => f ++ "() argument must be a mapping, not " ++ name
  | .conversion cause => cause.message
  | .lacksArguments f needed => f ++ " expected " ++ needed ++ ", got 0"
  | .oneOrThree f => f ++ "() takes 1 or 3 arguments"
  | .takesNothing name => name ++ " takes no arguments"
  | .notMade name => "cannot create '" ++ name ++ "' instances"

/-- Whether something is missing where it was looked for. -/
def isMissing : CallError → Bool
  | .unset .. | .unmarked _ => true
  | _ => false

/-- Whether an error is one of a call that does not suit what is called, rather than a failure
within it. -/
def isOfCall : CallError → Bool
  | .endless | .unset .. | .unmarked _ => false
  | .conversion cause => cause.isAboutType
  | _ => true

end CallError

/-! ## Functions -/

namespace Function

/-- The formal parameters of a kind. -/
def formalsOf (f : Function) (kind : FormalKind) : List Formal := f.formals.filter (·.kind == kind)

/-- Whether a function has a formal parameter of a kind. -/
def hasFormal (f : Function) (kind : FormalKind) : Bool := f.formals.any (·.kind == kind)

/-- The formal parameters that take arguments by their places. -/
def positionals (f : Function) : List Formal := f.formals.filter (·.kind.isPositional)

/-- The names of parameters that have neither default nor argument. -/
def unfilled (formals : List Formal) (keywords : List Text) : List Text :=
  (formals.filter fun p ↦ p.default.isNone && !keywords.any p.isGivenBy).map (·.name)

/-- The keywords that name parameters which take arguments by their places only. -/
def misnamed (f : Function) (keywords : List Text) : List Text :=
  ((f.formalsOf .positionalOnly).map (·.name)).filter keywords.contains

/-- What is wrong with one of some keywords; `given` positional parameters have their arguments. -/
def keywordError? (f : Function) (given : Nat) (keywords : List Text) (keyword : Text) :
    Option CallError :=
  if (f.positionals.take given).any (·.isGivenBy keyword) then
    some (.repeated f.qualified keyword)
  else if f.formals.any (·.isGivenBy keyword) then none
  else if f.hasFormal .keywordVariadic then none
  else match f.misnamed keywords with
    | [] => some (.unexpected f.qualified keyword)
    | names => some (.positionalOnly f.qualified names)

/-- What is wrong with a call with `given` positional arguments and some keywords. -/
def callError? (f : Function) (given : Nat) (keywords : List Text) : Option CallError :=
  let keywordOnly := f.formalsOf .keywordOnly
  (keywords.findSome? (keywordError? f given keywords)).or <|
    if f.positionals.length < given && !f.hasFormal .variadic then
      some (.excess f.qualified (f.positionals.filter fun p ↦ p.default.isNone).length
        f.positionals.length given (keywordOnly.filter fun p ↦ keywords.any p.isGivenBy).length)
    else match unfilled (f.positionals.drop given) keywords, unfilled keywordOnly keywords with
      | a :: names, _ => some (.missing f.qualified (a :: names))
      | [], a :: names => some (.missingKeywordOnly f.qualified (a :: names))
      | [], [] => none

/-- Calls a function with options; `given` arguments stand in front of them. -/
def call (f : Function) (given : Nat) (options : Entries) : Except CallError Unit :=
  match options.mapM fun e ↦ e.1.text? with
  | none => .error .keywordsNotText
  | some keywords =>
    match f.callError? given keywords with
    | some e => .error e
    | none => .ok ()

end Function

/-! ## Classes -/

/-- What a call makes: an instance of a class, or the null value. -/
abbrev Made := Option ClassRef

/-- A way to call classes with positional arguments and options. -/
abbrev Creation := ClassRef → Nat → Entries → Except CallError Made

namespace Hierarchy

/-- The names of the abstract attributes of a class in order. -/
def sortedAbstractNames (h : Hierarchy) (c : ClassRef) : List Text :=
  (h.get c).abstractNames.mergeSort fun a b ↦ decide (a ≤ b)

/-- Refuses a class with abstract attributes. -/
def requireConcrete (h : Hierarchy) (c : ClassRef) : Except CallError Unit :=
  match h.sortedAbstractNames c with
  | [] => .ok ()
  | names => .error (.isAbstract c.lastName names)

/-- Refuses arguments for a class without initialiser. -/
def requireNoArguments (c : ClassRef) (given : Nat) (options : Entries) : Except CallError Unit :=
  if given = 0 && options.isEmpty then .ok () else .error (.takesNoArguments c.lastName)

/-- Refuses what an initialiser made. -/
def requireNothing : Made → Except CallError Unit
  | none => .ok ()
  | some c => .error (.initialiserResult c.lastName)

/-- Calls an attribute of a class as the function that makes its instances, to which the class is
passed. -/
def makeBy (create : Creation) (a : Attribute) (given : Nat) (options : Entries) :
    Except CallError Made :=
  match a with
  | .function f | .static f => (f.call (given + 1) options).map fun _ ↦ none
  | .classBound f => (f.call (given + 2) options).map fun _ ↦ none
  | .computed _ => .error (.notCallable a.typeName)
  | .value v => .error (.notCallable v.typeName)
  | .nested c => create c (given + 1) options
  | .part => .error (.notCallable a.typeName)
  | .plainInit | .protocolInit => .ok none

/-- Calls an attribute as the initialiser of an instance. -/
def initialise (create : Creation) (c : ClassRef) (a : Attribute) (given : Nat)
    (options : Entries) : Except CallError Unit :=
  match a with
  | .function f | .classBound f => f.call (given + 1) options
  | .static f => f.call given options
  | .computed f => do
    f.call 1 []
    throw (.notCallable "NoneType")
  | .value v => .error (.notCallable v.typeName)
  | .nested k => do requireNothing (← create k given options)
  | .plainInit => requireNoArguments c given options
  | .part => .error (.unset c.lastName initName)
  | .protocolInit => .ok ()

/-- Calls an attribute of a class as an initialiser to which the instance is passed. -/
def initialisePassed (create : Creation) (c : ClassRef) (a : Attribute) (given : Nat)
    (options : Entries) : Except CallError Unit :=
  match a with
  | .function f | .static f => f.call (given + 1) options
  | .classBound f => f.call (given + 2) options
  | .computed _ => .error (.notCallable a.typeName)
  | .value v => .error (.notCallable v.typeName)
  | .nested k => (create k (given + 1) options).map fun _ ↦ ()
  | .plainInit =>
    if given = 0 && options.isEmpty then .ok () else .error (.takesInstanceOnly c.lastName)
  | .part => .error (.notCallable a.typeName)
  | .protocolInit => .ok ()

/-- The initialiser of a class behind those that only protocols are given. -/
def ownInitialiser (h : Hierarchy) (c : ClassRef) : Attribute :=
  ((h.lineage c).findSome? fun k ↦
    ((h.get k).attribute? initName).filter (· != .protocolInit)).getD .plainInit

/-- The initialiser that an instance of a class is made with. -/
def initialiser (h : Hierarchy) (c : ClassRef) : Attribute :=
  (h.lookup? c initName).getD .plainInit

/-- Reaches the refusing initialiser of protocols, which refuses protocols only. -/
def callProtocolInit (h : Hierarchy) (c : ClassRef) (given : Nat) (options : Entries) :
    Except CallError Unit := do
  h.requireConcrete c
  Attribute.protocolInitFunction.call (given + 1) options
  if h.isProtocol c then throw .isProtocol

/-- Makes an instance of a class that has no function of its own for that. -/
def createPlainly (h : Hierarchy) (create : Creation) (c : ClassRef) (given : Nat)
    (options : Entries) : Except CallError Unit :=
  match h.initialiser c with
  | .protocolInit => do
    h.callProtocolInit c given options
    initialisePassed create c (h.ownInitialiser c) given options
  | .plainInit => do
    requireNoArguments c given options
    h.requireConcrete c
  | a => do
    h.requireConcrete c
    initialise create c a given options

/-- Calls a class with positional arguments and options; the number bounds how many classes call one
another. -/
def createWithin (h : Hierarchy) : Nat → Creation
  | 0 => fun _ _ _ ↦ .error .endless
  | bound + 1 => fun c given options ↦
    match h.lookup? c newName with
    | some a => makeBy (createWithin h bound) a given options
    | none => (h.createPlainly (createWithin h bound) c given options).map fun _ ↦ some c

/-- Calls a class with positional arguments and options. -/
def create (h : Hierarchy) : Creation := h.createWithin (h.classes.length + 1)

/-- Calls an attribute of a class as the function that is told of classes that derive from it. -/
def callForDerived (h : Hierarchy) (a : Attribute) : Except CallError Unit :=
  match a with
  | .function f | .classBound f => f.call 1 []
  | .static f => f.call 0 []
  | .computed _ => .error (.notCallable a.typeName)
  | .value v => .error (.notCallable v.typeName)
  | .nested k => (h.create k 0 []).map fun _ ↦ ()
  | .part => .error (.notCallable a.typeName)
  | .plainInit | .protocolInit => .ok ()

/-- The classes after one of them was called with positional arguments and options; the number
bounds how many classes call one another. -/
def settleWithin : Nat → Hierarchy → ClassRef → Nat → Entries → Hierarchy
  | 0, h, _, _, _ => h
  | bound + 1, h, c, given, options =>
    match h.lookup? c newName, h.initialiser c with
    | some (.nested k), _ => settleWithin bound h k (given + 1) options
    | some _, _ => h
    | none, .protocolInit =>
      if (h.callProtocolInit c given options).toBool then
        let own := h.ownInitialiser c
        let h := h.setAttribute c initName own
        match own with
        | .nested k => settleWithin bound h k (given + 1) options
        | _ => h
      else h
    | none, .nested k =>
      if (h.requireConcrete c).toBool then settleWithin bound h k given options else h
    | none, _ => h

/-- The classes after one of them was called with options. -/
def settle (h : Hierarchy) (c : ClassRef) (options : Entries) : Hierarchy :=
  h.settleWithin (h.classes.length + 1) c 0 options

end Hierarchy

end ActorFacade
