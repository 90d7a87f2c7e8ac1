import ActorFacade.Text.Utf8
import ActorFacade.Value.Key

/-! # Values that are gone through

Some values can be gone through item by item, and some of their items can be members of a set.  What
is said about a value of an unsuitable kind names its type.
-/

namespace ActorFacade

/-- A failure that comes from a value or an object of an unsuitable type. -/
inductive TypeDefect where
  | notIterable (typeName : Text)
  | unhashable (typeName : Text)
  /-- It cannot be asked whether a text is in it. -/
  | notContainer (typeName : Text)
  /-- It says whether an object counts as true, but is no truth value. -/
  | notTruth (typeName : Text)
  /-- It says how long an object is, but is no integer. -/
  | notCount (typeName : Text)
  /-- It says how to go through an object, but cannot do so itself. -/
  | notIterator (typeName : Text)
  /-- A text is used on bytes. -/
  | notBytes
  /-- It lacks an attribute that it should have. -/
  | noAttribute (typeName name : Text)
deriving DecidableEq, Repr

/-- The name of a type in a message that is about what its objects can do: its first 200 bytes. -/
def shortTypeName (name : Text) : Text := Utf8.clip 200 name

/-- The name of a type in a message that is about an attribute of it: its first 50 bytes. -/
def shorterTypeName (name : Text) : Text := Utf8.clip 50 name

/-- The name of a type in a message that is about what was returned: its first 100 bytes. -/
def returnedTypeName (name : Text) : Text := Utf8.clip 100 name

/-- The wording of a defect. -/
def TypeDefect.message : TypeDefect → Text
  | .notIterable name => "'" ++ shortTypeName name ++ "' object is not iterable"
  | .unhashable name => "unhashable type: '" ++ shortTypeName name ++ "'"
  | .notContainer name => "argument of type '" ++ shortTypeName name ++ "' is not iterable"
  | .notTruth name => "__bool__ should return bool, returned " ++ name
  | .notCount name => "'" ++ shortTypeName name ++ "' object cannot be interpreted as an integer"
  | .notIterator name => "iter() returned non-iterator of type '" ++ returnedTypeName name ++ "'"
  | .notBytes => "a bytes-like object is required, not 'str'"
  | .noAttribute type name =>
    "'" ++ shorterTypeName type ++ "' object has no attribute '" ++ name ++ "'"

namespace Value

/-- What a value has to go through: the code points of a text, the items of a sequence, the keys of
a mapping, and so on. -/
def itemsOf (v : Value) : Except TypeDefect (List Value) :=
  match v with
  | .atom (.text t) | .atom (.textMember t) => .ok (t.map fun c ↦ .text [c])
  | .atom (.bytes bs) => .ok (bs.map fun b ↦ .int b.toNat)
  | .list xs | .tuple xs | .set xs => .ok xs
  | .dict es | .mapping es => .ok (es.map (·.1))
  | v => .error (.notIterable v.typeName)

/-- The set of names that a value describes: nothing for a value that does not count as true. -/
def nameSet (v : Value) : Except TypeDefect (List Value) :=
  if v.isTrue then do
    let items ← v.itemsOf
    match unhashableIn? items with
    | some name => throw (.unhashable name)
    | none => return items
  else .ok []

end Value

end ActorFacade
