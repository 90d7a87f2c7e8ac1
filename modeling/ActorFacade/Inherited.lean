import ActorFacade.Signature
import ActorFacade.ActorText

/-! # Inherited methods

The head of an actor lists the methods that it inherits from its base, without those that belong to
the life cycle of an object.
-/

namespace ActorFacade.Inherited

/-- Methods that are not listed. -/
def lifecycle : List Text := ["__construct", "__call"]

/-- A method whose parameters are all required. -/
def plainMethod (name : Text) (parameters : List Text) : MethodDeclaration :=
  ⟨name, parameters.map fun p ↦ { name := p }, []⟩

/-- The base of every actor. -/
def standardBase : TypeDeclaration where
  name := "Actorgen\\Actor"
  methods :=
    [plainMethod "__construct" ["scenario"],
     plainMethod "getScenario" [],
     plainMethod "wantToTest" ["text"],
     plainMethod "wantTo" ["text"],
     plainMethod "execute" ["callable"],
     plainMethod "expectTo" ["prediction"],
     plainMethod "expect" ["prediction"],
     plainMethod "amGoingTo" ["argumentation"],
     plainMethod "am" ["role"],
     plainMethod "lookForwardTo" ["achieveValue"],
     plainMethod "comment" ["description"],
     plainMethod "pause" [],
     plainMethod "__call" ["method", "arguments"]]

/-- The methods of a base that are listed. -/
def listed (base : TypeDeclaration) : List MethodDeclaration :=
  base.methods.filter fun m ↦ !lifecycle.contains m.name

/-- The line about a method. -/
def line (base : TypeDeclaration) (m : MethodDeclaration) : Except Signature.Failure Text := do
  let params ← Signature.ofParameters m.parameters base.name
  return Template.fillWith ActorText.inheritedMethod [("method", m.name), ("params", params)]

/-- The lines about the methods of a base. -/
def lines (base : TypeDeclaration) : Except Signature.Failure Text := do
  return Text.join Text.newline (← (listed base).mapM (line base))

end ActorFacade.Inherited
