import ActorFacade.Value.Basic
import ActorFacade.Value.Scattered

/-! # Values as keys

Keys are compared by value: numbers of all kinds are one family, so that `1`, `true` and `1.0` are
the same key.  Inserting under a key that is already there keeps the old key and its place and takes
the new value.  Containers that can change are no keys.
-/

namespace ActorFacade

/-! ## Comparing keys -/

namespace Atom

/-- The integer that an atom is, if it is of an integer kind; truth values are zero and one. -/
def integer? : Atom → Option Int
  | .bool b => some (if b then 1 else 0)
  | .int n | .intMember n => some n
  | _ => none

/-- The binary number that an atom is, if it is of that kind. -/
def double? : Atom → Option Double
  | .double x | .doubleMember x => some x
  | _ => none

/-- The text that an atom is, if it is of a textual kind. -/
def text? : Atom → Option Text
  | .text t | .textMember t => some t
  | _ => none

/-- Whether two binary numbers are the same key: equal as numbers, or both no number. -/
def sameDouble (x y : Double) : Bool := x.sameNumber y || (x.isNaN && y.isNaN)

/-- Whether two atoms are the same key. -/
def sameKey (a b : Atom) : Bool :=
  match a.integer?, b.integer?, a.double?, b.double? with
  | some m, some n, _, _ => m == n
  | some m, _, _, some y => y.isInteger m
  | _, some n, some x, _ => x.isInteger n
  | _, _, some x, some y => sameDouble x y
  | _, _, _, _ =>
    match a.text?, b.text? with
    | some s, some t => s == t
    | _, _ => match a, b with
      | .moment m, .moment n => m.same n
      | a, b => a == b

end Atom

namespace Value

mutual
/-- Whether two values are the same key. -/
def sameKey : Value → Value → Bool
  | .atom a, .atom b => a.sameKey b
  | .tuple xs, .tuple ys => sameKeys xs ys
  | x, y => same x y

/-- Whether two lists of values are the same keys, place by place. -/
def sameKeys : List Value → List Value → Bool
  | [], [] => true
  | x :: xs, y :: ys => sameKey x y && sameKeys xs ys
  | _, _ => false
end

mutual
/-- The type name of the first part of a value that keeps it from being a key. -/
def unhashable? : Value → Option Text
  | .atom _ => none
  | .tuple xs => unhashableIn? xs
  | x => some x.typeName

/-- The type name of the first part of some values that keeps them from being keys. -/
def unhashableIn? : List Value → Option Text
  | [] => none
  | x :: xs => (unhashable? x).or (unhashableIn? xs)
end

/-- Whether an atom is equal to nothing but itself: something of an unknown kind, or no number. -/
def isUniqueAtom : Atom → Bool
  | .other _ => true
  | .double x | .doubleMember x => x.isNaN
  | _ => false

mutual
/-- Whether a key is equal to no other that is made in the same way. -/
def isUnique : Value → Bool
  | .atom a => isUniqueAtom a
  | .tuple xs => hasUnique xs
  | _ => false

/-- Whether one of some keys is equal to no other. -/
def hasUnique : List Value → Bool
  | [] => false
  | x :: xs => isUnique x || hasUnique xs
end

/-- Adds a member to a set unless it is there. -/
def addMember (members : List Value) (x : Value) : List Value :=
  if !x.isUnique && members.any (·.sameKey x) then members else members ++ [x]

/-- The set of some different keys, which are added together or one after the other.  If one of them
has no code that is known, they stay as they are. -/
def ofKeys (together : Bool) (xs : List Value) : Value :=
  match codes? xs with
  | some codes => .set (Scattered.order together (codes.zip xs))
  | none => .set xs

/-- The set of some values.  The other result is the type name of a value that cannot be a member.
-/
def ofMembers (xs : List Value) : Except Text Value :=
  match unhashableIn? xs with
  | some name => .error name
  | none => .ok (ofKeys false (xs.foldl addMember []))

/-- Whether a value is of an integer kind but no truth value. -/
def index? : Value → Option Int
  | .atom (.int n) | .atom (.intMember n) => some n
  | _ => none

end Value

/-! ## Entries -/

namespace Entries

/-- The value stored under a key. -/
def find? (es : Entries) (k : Value) : Option Value :=
  (List.find? (fun e ↦ e.1.sameKey k) es).map (·.2)

/-- The value stored under a text. -/
def get? (es : Entries) (name : Text) : Option Value := es.find? (.text name)

/-- Stores a value: under a key that is there already, which stays as it is, or at the end. -/
def insert (k v : Value) : Entries → Entries
  | [] => [(k, v)]
  | e :: es => if e.1.sameKey k then (e.1, v) :: es else e :: insert k v es

/-- The entries with their keys' values taken from left to right.  The other result is the type name
of a key that is none, if there is one.  Keys that are equal to no other all have entries of their
own. -/
def ofPairs (pairs : List (Value × Value)) : Except Text Entries :=
  pairs.foldlM (fun es e ↦
    match e.1.unhashable? with
    | some name => .error name
    | none => .ok (if e.1.isUnique then es ++ [e] else insert e.1 e.2 es)) []

/-- The keys are the integers from zero on, in order. -/
def isSequenceFrom : Nat → Entries → Bool
  | _, [] => true
  | n, e :: es => e.1.index? == some (n : Int) && isSequenceFrom (n + 1) es

/-- Whether the keys are exactly the integers from zero on, in order. -/
def isSequence (es : Entries) : Bool := isSequenceFrom 0 es

end Entries

end ActorFacade
