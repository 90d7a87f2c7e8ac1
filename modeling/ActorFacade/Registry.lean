import ActorFacade.Journal
import ActorFacade.Provider.Making
import ActorFacade.Registry.Restriction
import ActorFacade.Source.Declared
import ActorFacade.Source.Inspected
import ActorFacade.Suite.Basic

/-! # Registries

A registry finds the providers of the modules that a suite names, and merges their operations into
one table.  A name is looked up among the providers that the registry was given, then among the
entry points, and then as a reference.  Functions and classes found in this way are called with the
options of the module.  Making the first instance of a class can change its initialiser, so
`settled` is the registry that making the modules of a suite leaves behind.

In the table every operation belongs to the first module that has it.
-/

namespace ActorFacade

/-- Where the metadata of providers comes from. -/
inductive SourceKind where
  | declared
  | inspected
deriving DecidableEq, Repr

/-- What modules are found with. -/
structure Registry where
  /-- Where metadata comes from. -/
  kind : SourceKind := .inspected
  /-- The declared types. -/
  types : Declarations := {}
  /-- The given providers. -/
  providers : List (Text × Provider) := []
  /-- Whether entry points count. -/
  useEntryPoints : Bool := true
  /-- Rows that are set in the table when it is complete. -/
  extraActions : List (Text × Text) := []
  /-- What names lead to. -/
  environment : Environment := {}
deriving DecidableEq, Repr

/-- The table of operations with the modules that they belong to. -/
abbrev ActionTable := List (Text × Text)

/-- Providers under the names of their modules. -/
abbrev ResolvedModules := List (Text × Provider)

namespace Registry

/-- The group of the entry points that are modules. -/
def entryPointGroup : Text := "actorgen.modules"

/-! ## Failures -/

/-- Why modules or operations cannot be found. -/
inductive Fault where
  /-- A part of the suite is of an unsuitable type. -/
  | unsuitable (cause : TypeDefect)
  | unknownModule (name : Text)
  | entryPoint (name : Text) (cause : ImportError)
  | reference (reference : Text) (cause : ImportError)
  /-- A reference whose form is wrong, or an attribute on its way that cannot be computed. -/
  | malformedReference (cause : ImportError)
  | creation (name : Text) (cause : CallError)
  /-- What is called for a provider or for its class fails itself. -/
  | call (cause : CallError)
  /-- A provider restricts its operations by something unsuitable. -/
  | restriction (cause : RestrictionError)
  /-- The type of a provider is not described; the name is that of the type. -/
  | undescribed (typeName : Text)
deriving DecidableEq, Repr

/-- The wording of a failure. -/
def Fault.message : Fault → Text
  | .unsuitable cause => cause.message
  | .unknownModule name => "Unknown module '" ++ name ++ "'"
  | .entryPoint name cause =>
    "Failed to load module entry point '" ++ name ++ "': " ++ cause.message
  | .reference ref cause => "Cannot import module '" ++ ref ++ "': " ++ cause.message
  | .malformedReference cause => cause.message
  | .creation name cause => "Cannot create module '" ++ name ++ "': " ++ cause.message
  | .call cause => cause.message
  | .restriction cause => cause.message
  | .undescribed name => Source.undescribed name

/-! ## Modules -/

/-- The channel of registries. -/
def channel : Channel := .part "registry"

/-- Writes a record of a registry. -/
def note {ε : Type} (message : Text) : Logged ε Unit :=
  Logged.write ⟨.debug, channel, some message⟩

/-- The registry with its classes changed. -/
def withHierarchy (r : Registry) (hierarchy : Hierarchy) : Registry :=
  { r with environment := { r.environment with hierarchy } }

/-- What the name of a module is. -/
inductive NameSource where
  /-- The name of a given provider. -/
  | given (p : Provider)
  | entryPoint (e : EntryPoint)
  | reference
deriving DecidableEq, Repr

/-- What the name of a module is, if it is known. -/
def source? (r : Registry) (name : Text) : Option NameSource :=
  match r.providers.find? fun p ↦ p.1 == name with
  | some p => some (.given p.2)
  | none =>
    match if r.useEntryPoints then r.environment.entryPoint? entryPointGroup name else none with
    | some e => some (.entryPoint e)
    | none => if name.contains 0x3A then some .reference else none

/-- The object that the name of a module leads to. -/
def lookup (r : Registry) (name : Text) : Except Fault Provider :=
  match r.source? name with
  | some (.given p) => .ok p
  | some (.entryPoint e) => (r.environment.load e).mapError (.entryPoint name)
  | some .reference =>
    (r.environment.lookup name).mapError fun cause ↦
      if cause.isMissing then .reference name cause else .malformedReference cause
  | none => .error (.unknownModule name)

/-- Whether a text is among some values. -/
def isNamed (t : Text) (values : List Value) : Bool := values.any fun v ↦ v.text? == some t

/-- The mark that makes a name a reference. -/
def referenceMark : Text := ":"

/-- The failure to find a module by something that is no text. -/
def unnamed (name : Value) : Fault :=
  match name with
  | .atom (.bytes _) => .unsuitable .notBytes
  | .tuple xs =>
    if isNamed referenceMark xs then .unsuitable (.noAttribute name.typeName "partition")
    else .unknownModule (name.display.toOption.getD [])
  | v => .unsuitable (.notContainer v.typeName)

/-- Refuses an object whose class cannot be asked for. -/
def requireClass (h : Hierarchy) (p : Provider) : Except Fault Unit :=
  match p with
  | .instance c =>
    match Provider.instanceAttribute h c "__class__" with
    | .error (.computation cause) => if cause.isMissing then .ok () else .error (.call cause)
    | _ => .ok ()
  | _ => .ok ()

/-- The type of a provider. -/
def typeOf {ρ : Type} (s : Source ρ) (h : Hierarchy) (p : Provider) : Except Fault ρ := do
  requireClass h p
  (s.typeOf p).mapError .undescribed

/-- The failure to make the provider of a module. -/
def notMade (name : Text) (cause : CallError) : Fault :=
  if cause.isOfCall then .creation name cause else .call cause

/-- Calls a function, which makes something, with options.  The initialiser of protocols can only be
given an instance. -/
def callFunction (f : Function) (result : Provider) (options : Entries) :
    Except CallError Provider := do
  f.call 0 options
  match options.get? "self" with
  | some v =>
    if f = Attribute.protocolInitFunction then throw (.unmarked v.typeName)
    return result
  | none => return result

/-- The provider that an object is or makes with the options of its module. -/
def instantiate (h : Hierarchy) (name : Text) (object : Provider) (options : Value) :
    Except Fault Provider :=
  let made (called : Text) (r : Entries → Except CallError Provider) : Except Fault Provider :=
    (match options.entries? with
      | some es => r es
      | none => .error (.optionsNotMapping called options.typeName)).mapError (notMade name)
  match object with
  | .class c => made (h.calledName c) (Provider.makeInstance h c)
  | .function f result => made f.qualified (callFunction f result)
  | p => (requireClass h p).map fun _ ↦ p

/-- The classes after an object was asked for its provider. -/
def settleObject (h : Hierarchy) (object : Provider) (options : Value) : Hierarchy :=
  match object, options.entries? with
  | .class c, some es => h.settle c es
  | _, _ => h

/-- A module that is to be made. -/
structure Plan where
  /-- Its name. -/
  name : Text
  /-- What the name leads to. -/
  object : Provider
  /-- Its options. -/
  options : Value
deriving DecidableEq, Repr

/-- The plan for a module, unless its provider is there. -/
def plan (r : Registry) (suite : Suite) (resolved : ResolvedModules) (name : Value) :
    Except Fault (Option Plan) := do
  match name.unhashable?, name.text? with
  | some type, _ => throw (.unsuitable (.unhashable type))
  | none, none => throw (unnamed name)
  | none, some t =>
    if t ∈ resolved.map (·.1) then return none
    let object ← r.lookup t
    return some ⟨t, object, ← (suite.optionsOf t).mapError .unsuitable⟩

/-- The registry after the object of a module was looked up. -/
def afterLookup (r : Registry) (name : Text) : Registry :=
  match r.source? name with
  | some (.entryPoint e) => { r with environment := r.environment.afterLoad e }
  | some .reference => { r with environment := r.environment.afterLookup name }
  | some (.given _) | none => r

/-- Adds the providers of modules to those that are there, one after the other. -/
def resolveFrom (suite : Suite) (r : Registry) (resolved : ResolvedModules) :
    List Value → Registry × Except Fault ResolvedModules
  | [] => (r, .ok resolved)
  | name :: names =>
    match r.plan suite resolved name with
    | .error e => ((name.text?).elim r r.afterLookup, .error e)
    | .ok none => resolveFrom suite r resolved names
    | .ok (some p) =>
      let r := r.afterLookup p.name
      let h := r.environment.hierarchy
      let r := r.withHierarchy (settleObject h p.object p.options)
      match instantiate h p.name p.object p.options with
      | .error e => (r, .error e)
      | .ok provider => resolveFrom suite r (resolved ++ [(p.name, provider)]) names

/-- The registry after the modules of a suite were made, as far as they could be. -/
def settled (r : Registry) (suite : Suite) : Registry :=
  match suite.moduleItems with
  | .ok names => (resolveFrom suite r [] names).1
  | .error _ => r

/-- The providers of the modules of a suite in order. -/
def resolveModules (r : Registry) (suite : Suite) : Logged Fault ResolvedModules := do
  let names ← Logged.ofExcept (suite.moduleItems.mapError .unsuitable)
  let resolved ← Logged.ofExcept (resolveFrom suite r [] names).2
  note ("Resolved " ++ Text.ofNat resolved.length ++ " modules: " ++
    Text.join ", " (resolved.map (·.1)))
  return resolved

/-! ## Operations -/

/-- Whether an operation with this name is open to actors; others begin with an underscore. -/
def isOpen (operation : Text) : Bool := !operation.startsWith "_"

/-- Whether an operation passes the restrictions of its provider. -/
def isExposed (only exclude : List Value) (operation : Text) : Bool :=
  isOpen operation && (only.isEmpty || isNamed operation only) && !isNamed operation exclude

/-- The operations that a provider has for actors. -/
def exposed {ρ : Type} (s : Source ρ) (env : Environment) (p : Provider) :
    Except Fault (List Text) := do
  let t ← typeOf s env.hierarchy p
  let only ← (env.only p).mapError .restriction
  let exclude ← (env.exclude p).mapError .restriction
  return (s.operations t).filter (isExposed only exclude)

/-- The owner of an operation. -/
def owner? (table : ActionTable) (operation : Text) : Option Text :=
  (table.find? fun e ↦ e.1 == operation).map (·.2)

/-- Adds an operation of a module to a table, where it may belong to an earlier one. -/
def addOperation {ε : Type} (module : Text) (table : ActionTable) (operation : Text) :
    Logged ε ActionTable :=
  match owner? table operation with
  | none => pure (table ++ [(operation, module)])
  | some owner =>
    if owner = module then pure table
    else do
      note ("Operation '" ++ operation ++ "' of module '" ++ module ++
        "' is shadowed by module '" ++ owner ++ "'")
      return table

/-- Adds the operations of a module to a table. -/
def addOperations {ρ : Type} (s : Source ρ) (env : Environment) (table : ActionTable)
    (entry : Text × Provider) : Logged Fault ActionTable := do
  (← Logged.ofExcept (exposed s env entry.2)).foldlM (addOperation entry.1) table

/-- The merged table of some modules. -/
def mergeOperations {ρ : Type} (s : Source ρ) (env : Environment) (modules : ResolvedModules) :
    Logged Fault ActionTable :=
  modules.foldlM (addOperations s env) []

/-- Sets a row of a table; an operation that is there keeps its place. -/
def setRow (table : ActionTable) (row : Text × Text) : ActionTable :=
  if row.1 ∈ table.map (·.1) then table.map fun e ↦ if e.1 = row.1 then row else e
  else table ++ [row]

/-- The table of a registry for some modules. -/
def resolveActions {ρ : Type} (r : Registry) (s : Source ρ) (modules : ResolvedModules) :
    Logged Fault ActionTable := do
  return r.extraActions.foldl setRow (← mergeOperations s r.environment modules)

/-- What the source of metadata of a registry gives. -/
def withSource {α : Type} (r : Registry) (f : {ρ : Type} → Source ρ → α) : α :=
  match r.kind with
  | .declared => f (r.types.toSource r.environment.hierarchy)
  | .inspected => f r.environment.hierarchy.toSource

/-! ## The modules of a suite -/

/-- The names of the modules of a suite with those of their types.  The types are those that making
the modules leaves behind. -/
def moduleTypes (r : Registry) (suite : Suite) : Logged Fault (List (Text × Text)) :=
  let settled := r.settled suite
  settled.withSource fun s ↦ do
    let modules ← r.resolveModules suite
    Logged.ofExcept <| modules.mapM fun m ↦ do
      return (m.1, s.typeName (← typeOf s settled.environment.hierarchy m.2))

/-- The table of the modules of a suite. -/
def actionTable (r : Registry) (suite : Suite) : Logged Fault ActionTable :=
  let settled := r.settled suite
  settled.withSource fun s ↦ do settled.resolveActions s (← r.resolveModules suite)

end Registry

end ActorFacade
