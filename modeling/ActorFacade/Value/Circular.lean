import ActorFacade.Value.Key

/-! # Values that lie within themselves

Containers can be parts of one another in circles.  Such containers are kept side by side, and each
part is an atom or the number of a container.  Seen from one of its parts a circular value is a
`Value` again, in which a container that is around a place is only marked there.

What is read off values part by part can be read off circular ones too: `Inspectable` is what both
have in common.

Circular values come from documents.  What reads documents is a part of the surroundings
(`DocumentReader`).
-/

namespace ActorFacade

-- The functor of a computation is that of its monad.
attribute [local instance (high)] Applicative.toFunctor

/-- Things that are values or lead to some. -/
class Inspectable (α : Type) where
  /-- The value in full. -/
  value : α → Value
  /-- The atom that a thing is. -/
  atom? : α → Option Atom
  /-- The items of a sequence that is not text. -/
  items? : α → Option (List α)
  /-- The entries of a mapping. -/
  entries? : α → Option (List (Value × α))

namespace Inspectable

variable {α : Type} [Inspectable α]

/-- The text that a thing is. -/
def text? (x : α) : Option Text := (atom? x).bind Atom.text?

/-- What is stored under a text. -/
def get? (es : List (Value × α)) (name : Text) : Option α :=
  (es.find? fun e ↦ e.1.sameKey (.text name)).map (·.2)

/-- Some entries in full. -/
def entriesInFull (es : List (Value × α)) : Entries := es.map fun e ↦ (e.1, value e.2)

end Inspectable

/-- The atom that a value is. -/
def Value.atom? : Value → Option Atom
  | .atom a => some a
  | _ => none

instance : Inspectable Value := ⟨id, Value.atom?, Value.items?, Value.entries?⟩

/-- A part of a container. -/
inductive Part where
  | atom (a : Atom)
  | container (number : Nat)
deriving DecidableEq, Repr, Inhabited

/-- A container of parts; only atoms are keys. -/
inductive Container where
  | list (xs : List Part)
  | tuple (xs : List Part)
  | set (xs : List Atom)
  | dict (es : List (Atom × Part))
deriving DecidableEq, Repr, Inhabited

/-- A part together with all containers that it can lead to. -/
structure Circular where
  /-- The containers by their numbers. -/
  containers : Array Container
  /-- The part. -/
  part : Part
deriving DecidableEq, Repr

namespace Circular

/-- A value without parts. -/
def ofAtom (a : Atom) : Circular := ⟨#[], .atom a⟩

/-- An empty mapping. -/
def empty : Circular := ⟨#[.dict []], .container 0⟩

/-- Another part among the same containers. -/
def seek (c : Circular) (p : Part) : Circular := { c with part := p }

/-- The container that a part is. -/
def container? (c : Circular) : Option Container :=
  match c.part with
  | .atom _ => none
  | .container n => c.containers[n]?

/-! ## The value in full -/

/-- What a container is marked as within itself. -/
def markOf : Container → Atom
  | .list _ => .enclosing .list
  | .tuple _ => .enclosing .tuple
  | .set _ => .other "set"
  | .dict _ => .enclosing .dict

/-- The values of containers that are without marks. -/
abbrev Whole := List (Nat × Value)

/-- A value, and whether it is without marks. -/
abbrev Seen := Value × Bool

/-- The value of a container with some parts. -/
def assemble (c : Container) (parts : List Value) : Value :=
  match c with
  | .list _ => .list parts
  | .tuple _ => .tuple parts
  | .set xs => Value.ofKeys true (xs.map .atom)
  | .dict es => .dict ((es.map fun e ↦ .atom e.1).zip parts)

/-- The parts of a container. -/
def partsOf : Container → List Part
  | .list xs | .tuple xs => xs
  | .set _ => []
  | .dict es => es.map (·.2)

/-- The value of a part; `around` are the numbers of the containers around it, and the number of
steps bounds how many these can be.  The value of a container without marks is found once. -/
def see (containers : Array Container) : Nat → List Nat → Part → StateM Whole Seen
  | _, _, .atom a => return (.atom a, true)
  | 0, _, .container _ => return (.null, true)
  | steps + 1, around, .container n => do
    let c := containers.getD n (.list [])
    if around.contains n then return (.atom (markOf c), false)
    if let some v := (← get).lookup n then return (v, true)
    let parts ← (partsOf c).mapM (see containers steps (n :: around))
    let v := assemble c (parts.map (·.1))
    let isWhole := parts.all (·.2)
    if isWhole then modify ((n, v) :: ·)
    return (v, isWhole)

/-- The value as it is seen from its outermost part. -/
def value (c : Circular) : Value :=
  ((see c.containers (c.containers.size + 1) [] c.part).run' []).1

/-! ## Part by part -/

/-- The atom that a circular value is. -/
def atom? (c : Circular) : Option Atom :=
  match c.part with
  | .atom a => some a
  | .container _ => none

/-- The items of a sequence. -/
def items? (c : Circular) : Option (List Circular) :=
  match c.container? with
  | some (.list xs) | some (.tuple xs) => some (xs.map c.seek)
  | _ => none

/-- The entries of a mapping. -/
def entries? (c : Circular) : Option (List (Value × Circular)) :=
  match c.container? with
  | some (.dict es) => some (es.map fun e ↦ (.atom e.1, c.seek e.2))
  | _ => none

instance : Inspectable Circular := ⟨value, atom?, items?, entries?⟩

end Circular

/-! ## Documents -/

/-- Why a document has no value. -/
inductive DocumentFault where
  /-- It does not follow its format, as the words say. -/
  | malformed (words : Text)
  /-- Reading it fails in a way of some other kind. -/
  | other (kind words : Text)
deriving DecidableEq, Repr

/-- What reads the value of a document that is not blank. -/
abbrev DocumentReader := Text → Except DocumentFault Circular

end ActorFacade
