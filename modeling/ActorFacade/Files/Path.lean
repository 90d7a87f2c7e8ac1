import ActorFacade.Text.Basic

/-! # Paths

A path is a row of names that starts at the root or at the working directory.  Empty names and
single dots count for nothing and are dropped when a path is read; double dots are kept, because
what they lead to depends on the directories that are there.
-/

namespace ActorFacade

/-- A path. -/
structure Path where
  /-- The number of slashes in front: none for a relative path, and two only if exactly two were
  written. -/
  slashes : Nat := 0
  /-- The names. -/
  parts : List Text := []
deriving DecidableEq, Repr

namespace Path

/-- The name that leads to the directory above. -/
def up : Text := ".."

/-- Whether a name counts in a path. -/
def counts (part : Text) : Bool := !part.isEmpty && part != Text.ofString "."

/-- The number of slashes that a path keeps of those in front of it. -/
def keptSlashes (t : Text) : Nat :=
  match (t.takeWhile (· == 0x2F)).length with
  | 0 => 0
  | 2 => 2
  | _ => 1

/-- The path that a text describes. -/
def ofText (t : Text) : Path := ⟨keptSlashes t, (Text.pieces 0x2F t).filter counts⟩

/-- The text of a path; an empty relative path is a single dot. -/
def text (p : Path) : Text :=
  if p.slashes = 0 && p.parts.isEmpty then "."
  else List.replicate p.slashes 0x2F ++ Text.join "/" p.parts

/-- Whether a path starts at the root. -/
def isAbsolute (p : Path) : Bool := p.slashes != 0

/-- A path from the end of another; an absolute path stands for itself. -/
def append (p q : Path) : Path :=
  if q.isAbsolute then q else { p with parts := p.parts ++ q.parts }

/-- The path without its last name. -/
def parent (p : Path) : Path := { p with parts := p.parts.dropLast }

/-- The last name. -/
def name (p : Path) : Text := p.parts.getLast?.getD []

/-- Drops names in front of double dots, as far as there are some. -/
def collapse (parts : List Text) : List Text :=
  parts.foldl (fun kept part ↦ if part = up then kept.dropLast else kept ++ [part]) []

end Path

end ActorFacade
