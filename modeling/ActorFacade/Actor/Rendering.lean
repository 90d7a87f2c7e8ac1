import ActorFacade.Actor.Method
import ActorFacade.Fingerprint
import ActorFacade.Inherited
import ActorFacade.Registry

/-! # Rendering actors

`produce` makes the text of an actor from a suite.  The operations of the merged table are taken in
order; a method is left out when the actor has one of its name already, so that no two methods share
a name.  Nothing but the suite, the registry, the version and the base takes part.
-/

namespace ActorFacade.Actor

/-- Why an actor cannot be rendered. -/
inductive Fault where
  | suite (d : Suite.Defect)
  | registry (cause : Registry.Fault)
  /-- The table gives an operation to a module that was not resolved. -/
  | unknownOwner (module : Text)
  | undeclared (cause : Undeclared)
  /-- The signature of an operation cannot be written. -/
  | signature (operation module parameter typeName : Text)
  /-- The signature of an inherited method cannot be written. -/
  | inherited (parameter typeName : Text)
  | limit (e : Integer.LimitError)
  /-- The version cannot be encoded. -/
  | version (e : Utf8.EncodeError)
  /-- The namespace of the suite is of an unsuitable type. -/
  | space (cause : TypeDefect)
  /-- A part of the suite cannot be given a value. -/
  | change (cause : Suite.ChangeError)
  /-- Declarations cannot be added where metadata does not come from declarations. -/
  | notDeclared
deriving DecidableEq, Repr

/-- The wording of a failure. -/
def Fault.message : Fault → Text
  | .suite d => d.message
  | .registry cause => cause.message
  | .unknownOwner module => module.quoted
  | .undeclared cause => cause.message
  | .signature operation module parameter name =>
    "Cannot render '" ++ operation ++ "' of module '" ++ module ++ "': " ++
      (Signature.Failure.unsupported parameter name).message
  | .inherited parameter name => (Signature.Failure.unsupported parameter name).message
  | .limit e => e.message
  | .version e => e.message
  | .space cause => cause.message
  | .change cause => cause.message
  | .notDeclared => (TypeDefect.noAttribute "IntrospectionSource" "add").message

/-- The channel of actors. -/
def channel : Channel := .part "generator"

/-- Writes a record of an actor. -/
def note {ε : Type} (level : Level) (message : Text) : Logged ε Unit :=
  Logged.write ⟨level, channel, some message⟩

/-- What an actor is made with besides its suite and its registry. -/
structure Options where
  /-- The version of the generator. -/
  version : Text := "0.1.0"
  /-- The base of actors. -/
  base : TypeDeclaration := Inherited.standardBase
deriving DecidableEq, Repr

/-! ## Fingerprints -/

/-- The fingerprint for a table and the modules of a suite. -/
def stamp (o : Options) (suite : Suite) (table : ActionTable) : Except Fault Text :=
  (Fingerprint.compute o.version table suite.moduleNames).mapError .version

/-- The providers of a suite and the merged table. -/
def survey {ρ : Type} (r : Registry) (s : Source ρ) (suite : Suite) :
    Logged Fault (ResolvedModules × ActionTable) := do
  let modules ← (r.resolveModules suite).mapError .registry
  let table ← ((r.settled suite).resolveActions s modules).mapError .registry
  return (modules, table)

/-- The fingerprint of a suite.  The metadata is that of the classes as making the modules leaves
them. -/
def fingerprint (r : Registry) (o : Options) (suite : Suite) : Logged Fault Text :=
  (r.settled suite).withSource fun s ↦ do
    let (_, table) ← survey r s suite
    Logged.ofExcept (stamp o suite table)

/-! ## Methods -/

/-- The methods of an operation of a module. -/
def methodsOf {ρ : Type} (s : Source ρ) (modules : ResolvedModules) (operation module : Text) :
    Except Fault (List ActorMethod) := do
  match modules.find? fun m ↦ m.1 == module with
  | none => throw (.unknownOwner module)
  | some (_, provider) =>
    let t ← (s.typeOf provider).mapError fun name ↦ .registry (.undescribed name)
    let metadata ← (s.resolve t operation).mapError .undeclared
    (ActorMethod.ofMetadata metadata module).mapError fun failure ↦
      match failure with
      | .unsupported parameter name => .signature operation module parameter name
      | .limit e => .limit e

/-- The record of a method that is left out. -/
def noteSkipped {ε : Type} (action : Text) : Logged ε Unit :=
  note .debug ("Skipping '" ++ action ++ "'; action already generated")

/-- Adds a method unless there is one of its name. -/
def addMethod {ε : Type} (methods : List ActorMethod) (m : ActorMethod) :
    Logged ε (List ActorMethod) :=
  if m.action ∈ methods.map (·.action) then do
    noteSkipped m.action
    return methods
  else return methods ++ [m]

/-- Adds the methods of an operation unless there is a method of its own name. -/
def addOperation {ρ : Type} (s : Source ρ) (modules : ResolvedModules)
    (methods : List ActorMethod) (row : Text × Text) : Logged Fault (List ActorMethod) :=
  if row.1 ∈ methods.map (·.action) then do
    noteSkipped row.1
    return methods
  else do
    (← Logged.ofExcept (methodsOf s modules row.1 row.2)).foldlM addMethod methods

/-- The methods of a table. -/
def collectMethods {ρ : Type} (s : Source ρ) (modules : ResolvedModules) (table : ActionTable) :
    Logged Fault (List ActorMethod) :=
  table.foldlM (addOperation s modules) []

/-! ## The text -/

/-- The line that names the type of a provider. -/
def useLine {ρ : Type} (s : Source ρ) (p : Provider) : Except Fault Text := do
  let t ← (s.typeOf p).mapError fun name ↦ .registry (.undescribed name)
  return "use " ++ s.typeName t ++ ";"

/-- The line of the namespace, empty where there is none. -/
def spaceLine (space : Text) : Text := if space.isEmpty then [] else "namespace " ++ space ++ ";"

/-- The block of inherited methods. -/
def inheritedBlock (base : TypeDeclaration) : Except Fault Text :=
  (Inherited.lines base).mapError fun failure ↦
    match failure with
    | .unsupported parameter name => .inherited parameter name
    | .limit e => .limit e

/-- The values of an actor in its template. -/
def placements (hash space uses className inherited methods : Text) : List (Text × Text) :=
  [("hash", hash), ("namespace", space), ("use", uses), ("actor", className),
    ("inherited_methods", inherited), ("methods", methods)]

/-- The name of the class of a suite. -/
def className (suite : Suite) : Except Fault Text := suite.classText.mapError .limit

/-- Writes a record that ends with the name of the class.  Where this cannot be written there are no
words, which keeps nothing from being done. -/
def noteClass {ε : Type} (words : Text) (suite : Suite) : Logged ε Unit :=
  Logged.write ⟨.info, channel, (className suite).toOption.map (words ++ ·)⟩

/-- The text of an actor with some methods. -/
def render {ρ : Type} (s : Source ρ) (o : Options) (suite : Suite) (modules : ResolvedModules)
    (table : ActionTable) (methods : List ActorMethod) : Except Fault Text := do
  let uses ← modules.mapM fun m ↦ useLine s m.2
  let space ← suite.qualifiedSpace.mapError .space
  let hash ← stamp o suite table
  let name ← className suite
  let inherited ← inheritedBlock o.base
  return Template.fillWith ActorText.actor
    (placements hash (spaceLine space) (Text.join Text.newline uses) name inherited
      (Text.join Text.newline (methods.map ActorMethod.text)))

/-- An actor as it was rendered. -/
structure Rendered where
  /-- The text. -/
  text : Text
  /-- Its methods in order. -/
  methods : List ActorMethod
deriving DecidableEq, Repr

/-- Refuses a suite with a defect. -/
def check (suite : Suite) : Except Fault Unit :=
  match suite.defect? with
  | some d => .error (.suite d)
  | none => .ok ()

/-- Renders an actor with the metadata of a source. -/
def produceWith {ρ : Type} (s : Source ρ) (r : Registry) (o : Options) (suite : Suite) :
    Logged Fault Rendered := do
  Logged.ofExcept (check suite)
  noteClass "Generating actor " suite
  let (modules, table) ← survey r s suite
  note .debug ("Collected " ++ Text.ofNat table.length ++ " operations from " ++
    Text.ofNat modules.length ++ " modules")
  let methods ← collectMethods s modules table
  let text ← Logged.ofExcept (render s o suite modules table methods)
  noteClass ("Generated " ++ Text.ofNat methods.length ++ " methods for actor ") suite
  return ⟨text, methods⟩

/-- Renders an actor.  The metadata is that of the classes as making the modules leaves them. -/
def produce (r : Registry) (o : Options) (suite : Suite) : Logged Fault Rendered :=
  (r.settled suite).withSource fun s ↦ produceWith s r o suite

end ActorFacade.Actor
