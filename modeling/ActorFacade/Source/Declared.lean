import ActorFacade.Source.Basic

/-! # Declared types as a source

An index holds declarations under their names; adding a declaration replaces the one of its name.
References to parents and interfaces may be cyclic, and types that are referred to need not be
declared.  Every walk therefore keeps the declared names that it has not visited yet, and ends
because they become fewer.

An operation is looked for on a type, then on the chain of its parents, then in the same way on its
interfaces.
-/

namespace ActorFacade

/-- Declarations under their names. -/
structure Declarations where
  /-- The declarations in order of their first addition. -/
  types : List TypeDeclaration := []
deriving DecidableEq, Repr

namespace Declarations

/-- The declaration of a name. -/
def find? (idx : Declarations) (name : Text) : Option TypeDeclaration :=
  idx.types.find? fun d ↦ d.name == name

/-- The names of the declarations. -/
def names (idx : Declarations) : List Text := idx.types.map (·.name)

/-- Puts a declaration in the place of the one of its name, or at the end. -/
def addTo (d : TypeDeclaration) : List TypeDeclaration → List TypeDeclaration
  | [] => [d]
  | e :: types => if e.name = d.name then d :: types else e :: addTo d types

/-- Adds a declaration. -/
def add (idx : Declarations) (d : TypeDeclaration) : Declarations := ⟨addTo d idx.types⟩

/-- The index of some declarations, added in order. -/
def ofList (types : List TypeDeclaration) : Declarations := types.foldl add {}

theorem name_of_find? {idx : Declarations} {name : Text} {d : TypeDeclaration}
    (h : idx.find? name = some d) : d.name = name := by
  simpa using List.find?_some h

/-! ## Walks -/

/-- The names that are left after a visit. -/
def visit (name : Text) (unvisited : List Text) : List Text := unvisited.filter (· != name)

theorem length_visit_lt {name : Text} {unvisited : List Text} (h : name ∈ unvisited) :
    (visit name unvisited).length < unvisited.length :=
  List.length_filter_lt_length_iff_exists.2 ⟨name, h, by simp⟩

/-- A type and the chain of its parents, as far as they are declared and unvisited. -/
def lineageFrom (idx : Declarations) (unvisited : List Text) (name : Text) :
    List TypeDeclaration :=
  if _h : name ∈ unvisited then
    match idx.find? name with
    | none => []
    | some d =>
      d :: match d.parent with
        | none => []
        | some p => lineageFrom idx (visit name unvisited) p
  else []
termination_by unvisited.length
decreasing_by exact length_visit_lt _h

/-- A type and the chain of its parents. -/
def lineage (idx : Declarations) (name : Text) : List TypeDeclaration :=
  idx.lineageFrom idx.names name

/-- A part of the walk through interfaces. -/
inductive Task where
  /-- List an interface and walk on from its lineage. -/
  | interface (name : Text)
  /-- Walk on from the interfaces of a type, unless it has been visited. -/
  | declaration (d : TypeDeclaration)
deriving DecidableEq, Repr

/-- Whether a task is to list an interface. -/
def Task.isInterface : Task → Bool
  | .interface _ => true
  | .declaration _ => false

/-- Tasks for the lineage of a type. -/
def lineageTasks (idx : Declarations) (name : Text) : List Task :=
  (idx.lineage name).map .declaration

theorem countP_lineageTasks (idx : Declarations) (name : Text) :
    (idx.lineageTasks name).countP Task.isInterface = 0 := by
  simp [lineageTasks, List.countP_eq_zero, Task.isInterface]

/-- Lists a name unless it is listed. -/
def list (name : Text) (listed : List Text) : List Text :=
  if name ∈ listed then listed else listed ++ [name]

/-- Lists interfaces depth first until no task is left. -/
def collect (idx : Declarations) (unvisited listed : List Text) (tasks : List Task) : List Text :=
  match tasks with
  | [] => listed
  | .interface name :: tasks =>
    collect idx unvisited (list name listed) (idx.lineageTasks name ++ tasks)
  | .declaration d :: tasks =>
    if _h : d.name ∈ unvisited then
      collect idx (visit d.name unvisited) listed (d.interfaces.map .interface ++ tasks)
    else collect idx unvisited listed tasks
termination_by (unvisited.length, tasks.countP Task.isInterface, tasks.length)
decreasing_by
  · apply Prod.Lex.right
    apply Prod.Lex.left
    simp [List.countP_append, countP_lineageTasks, List.countP_cons, Task.isInterface]
  · exact Prod.Lex.left _ _ (length_visit_lt _h)
  · apply Prod.Lex.right
    simp only [List.countP_cons, Task.isInterface, Bool.false_eq_true, if_false, Nat.add_zero]
    apply Prod.Lex.right
    simp

/-- The interfaces of a type: those that its lineage lists, each followed by its own. -/
def interfaces (idx : Declarations) (name : Text) : List Text :=
  idx.collect idx.names [] (idx.lineageTasks name)

/-- The declaration within the lineage of a type that declares an operation. -/
def inLineage? (idx : Declarations) (operation name : Text) : Option TypeDeclaration :=
  (idx.lineage name).find? fun d ↦ d.declares operation

/-- Looks for a type that declares an operation, depth first through interfaces. -/
def search (idx : Declarations) (operation : Text) (unvisited stack : List Text) :
    Option TypeDeclaration :=
  match stack with
  | [] => none
  | name :: stack =>
    if _h : name ∈ unvisited then
      match idx.inLineage? operation name with
      | some d => some d
      | none => search idx operation (visit name unvisited) (idx.interfaces name ++ stack)
    else search idx operation unvisited stack
termination_by (unvisited.length, stack.length)
decreasing_by
  · exact Prod.Lex.left _ _ (length_visit_lt _h)
  · exact Prod.Lex.right _ (by simp)

/-- The type that declares an operation of a type. -/
def declaring? (idx : Declarations) (name operation : Text) : Option TypeDeclaration :=
  idx.search operation idx.names [name]

/-- The names of the operations of a type: those of its lineage, the nearest type first. -/
def operations (idx : Declarations) (name : Text) : List Text :=
  ((idx.lineage name).flatMap fun d ↦ d.methods.map (·.name)).eraseDups

/-- The method that a type itself declares for an operation. -/
def ownMethod? (idx : Declarations) (name operation : Text) : Option MethodDeclaration :=
  (idx.find? name).bind fun d ↦ d.method? operation

/-- The type of a provider: a stand-in, a declaration or a text names it. -/
def typeOf (h : Hierarchy) (p : Provider) : Except Text Text :=
  match p with
  | .handle name _ _ => .ok name
  | .declaration d => .ok d.name
  | .value v =>
    match v.text? with
    | some name => .ok name
    | none => .error v.typeName
  | p => .error (p.typeName h)

/-- The index as a source; types are known by their names.  The hierarchy only serves to name what
is no declared type. -/
def toSource (idx : Declarations) (h : Hierarchy) : Source Text where
  typeOf := typeOf h
  typeName name := name
  operations := idx.operations
  declaring? name operation := (idx.declaring? name operation).map (·.name)
  ownDoc name operation := ((idx.ownMethod? name operation).map (·.doc)).getD []
  interfaces := idx.interfaces
  parent? name := (idx.find? name).bind (·.parent)
  ownParameters? name operation := (idx.ownMethod? name operation).map (·.parameters)

end Declarations

end ActorFacade
