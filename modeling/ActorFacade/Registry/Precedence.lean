import ActorFacade.Registry

/-! # Precedence

Of the modules that expose an operation the first owns it.  `Precedence.table` says so without going
through the modules one by one: the operations stand in the order of their first exposures, each
with its first exposer.
-/

namespace ActorFacade.Registry.Precedence

/-- Modules with the operations that they expose. -/
abbrev Exposures := List (Text × List Text)

/-- The first module that exposes an operation. -/
def owner? (es : Exposures) (operation : Text) : Option Text :=
  (es.find? fun e ↦ e.2.contains operation).map (·.1)

/-- The operations that some module exposes, in the order of their first exposures. -/
def operations (es : Exposures) : List Text := (es.flatMap (·.2)).eraseDups

/-- The table in which every operation has its first exposer. -/
def table (es : Exposures) : ActionTable :=
  (operations es).map fun operation ↦ (operation, (owner? es operation).getD [])

/-- What the providers of some modules expose. -/
def exposures {ρ : Type} (s : Source ρ) (env : Environment) (modules : ResolvedModules) :
    Except Fault Exposures :=
  modules.mapM fun m ↦ do return (m.1, ← exposed s env m.2)

@[simp] theorem owner?_nil (operation : Text) : owner? [] operation = none := rfl

/-- The first module goes first. -/
theorem owner?_cons (module : Text) (exposed : List Text) (es : Exposures) (operation : Text) :
    owner? ((module, exposed) :: es) operation =
      if operation ∈ exposed then some module else owner? es operation := by
  by_cases h : operation ∈ exposed <;> simp [owner?, h]

end ActorFacade.Registry.Precedence
