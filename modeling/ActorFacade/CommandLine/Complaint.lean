import ActorFacade.Build
import ActorFacade.Suite.Loading

/-! # Complaints

A failure that the user can mend is complained about: a suite that is wrong, or a type or an
operation that is not described.  All other failures are passed on as they are.
-/

namespace ActorFacade.CommandLine

/-- What a failure is about. -/
inductive Concern where
  /-- The suite or what it names. -/
  | configuration
  /-- A type or an operation that is not described. -/
  | description
  | other
deriving DecidableEq, Repr

/-- What a failure to find modules or operations is about. -/
def Concern.ofRegistry : Registry.Fault → Concern
  | .undescribed _ => .description
  | .unsuitable _ | .restriction _ | .malformedReference _ | .call _ => .other
  | .unknownModule _ | .entryPoint .. | .reference .. | .creation .. => .configuration

/-- What a failure to render an actor is about. -/
def Concern.ofActor : Actor.Fault → Concern
  | .registry cause => ofRegistry cause
  | .undeclared _ => .description
  | .suite _ | .signature .. => .configuration
  | .unknownOwner _ | .inherited .. | .limit _ | .version _ | .space _ | .change _ | .notDeclared =>
    .other

/-- A failure of the command. -/
inductive Fault where
  | load (cause : Suite.LoadError)
  | build (cause : Build.Fault)
  /-- The log file cannot be opened. -/
  | logFile (cause : PathError)
deriving DecidableEq, Repr

/-- The wording of a failure. -/
def Fault.message : Fault → Text
  | .load cause => cause.message
  | .build cause => cause.message
  | .logFile cause => cause.message

/-- What a failure to load a suite is about. -/
def Concern.ofLoad : Suite.LoadError → Concern
  | .missing _ | .document _ (.malformed _) | .notMapping _ => .configuration
  | .suite (.limit _) => .other
  | .suite _ => .configuration
  | .noHome | .path _ | .decode _ | .document .. => .other

/-- What a failure of the command is about. -/
def Fault.concern : Fault → Concern
  | .load cause => .ofLoad cause
  | .build (.actor cause) => .ofActor cause
  | .build _ | .logFile _ => .other

/-- What the user is told about a failure, if it can be mended. -/
def Fault.complaint? (f : Fault) : Option Text :=
  let complaint : Text := "actorgen build failed: " ++ f.message ++ Text.newline
  match f.concern with
  | .configuration => some complaint
  | .description =>
    some (complaint ++ "Run with --verbose for more details." ++ Text.newline)
  | .other => none

end ActorFacade.CommandLine
