import ActorFacade.Actor.Rendering

/-! # Generators

A generator renders the actor of a suite as often as it is asked, while the suite and the declared
types may be changed in between.  It remembers the methods of the last rendering that succeeded, and
it keeps the classes as making the modules left them.
-/

namespace ActorFacade

/-- A generator of one actor. -/
structure Generator where
  /-- The suite. -/
  suite : Suite
  /-- What modules are found with. -/
  registry : Registry := {}
  /-- What else an actor is made with. -/
  options : Actor.Options := {}
  /-- The methods of the last rendering that succeeded. -/
  methods : List ActorMethod := []
deriving DecidableEq, Repr

namespace Generator

/-- A request to a generator. -/
inductive Request where
  | produce
  | fingerprint
  /-- Adds a declaration to the declared types. -/
  | declare (d : TypeDeclaration)
  /-- Gives a value to a part of the suite. -/
  | set (part : Text) (v : Value)
deriving DecidableEq, Repr

/-- What a request is answered with, if it asks for something. -/
abbrev Reply := Option (Logged Actor.Fault Text)

/-- A generator for a suite without defects. -/
def create (suite : Suite) (registry : Registry) (options : Actor.Options) :
    Except Actor.Fault Generator := do
  Actor.check suite
  return { suite, registry, options }

/-- Renders the actor. -/
def produce (g : Generator) : Logged Actor.Fault Actor.Rendered :=
  Actor.produce g.registry g.options g.suite

/-- The fingerprint of the actor. -/
def fingerprint (g : Generator) : Logged Actor.Fault Text :=
  Actor.fingerprint g.registry g.options g.suite

/-- The names of the modules of the suite, whatever they are. -/
def moduleNames (g : Generator) : Except Actor.Fault (List Value) :=
  g.suite.moduleItems.mapError fun cause ↦ .registry (.unsuitable cause)

/-- The name of the class of the suite, whatever it is. -/
def className (g : Generator) : Except Actor.Fault Value :=
  (g.suite.part Suite.classNamePart g.suite.className).mapError fun cause ↦
    .registry (.unsuitable cause)

/-- The number of methods of the last rendering that succeeded. -/
def methodCount (g : Generator) : Nat := g.methods.length

/-- The same generator with its suite changed. -/
def withSuite (g : Generator) (suite : Suite) : Generator := { g with suite }

/-- The same generator after the modules of its suite were made. -/
def settled (g : Generator) : Generator := { g with registry := g.registry.settled g.suite }

/-- The same generator with a declaration added. -/
def declare (g : Generator) (d : TypeDeclaration) : Generator :=
  { g with registry := { g.registry with types := g.registry.types.add d } }

/-- The generator after it rendered the actor or failed to.  A suite with a defect is refused before
its modules are made. -/
def afterProduce (g : Generator) : Generator :=
  if g.suite.defect?.isSome then g
  else
    match g.produce.result with
    | .ok rendered => { g.settled with methods := rendered.methods }
    | .error _ => g.settled

/-- The generator after a request, and the reply. -/
def handle (g : Generator) : Request → Generator × Reply
  | .produce => (g.afterProduce, some ((·.text) <$> g.produce))
  | .fingerprint => (g.settled, some g.fingerprint)
  | .declare d =>
    match g.registry.kind with
    | .declared => (g.declare d, none)
    | .inspected => (g, some (Logged.fail .notDeclared))
  | .set part v =>
    match g.suite.set part v with
    | .ok suite => (g.withSuite suite, none)
    | .error cause => (g, some (Logged.fail (.change cause)))

/-- The generator after some requests. -/
def after (g : Generator) (requests : List Request) : Generator :=
  requests.foldl (fun g request ↦ (g.handle request).1) g

end Generator

end ActorFacade
