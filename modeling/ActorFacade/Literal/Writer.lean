import ActorFacade.Value.Key
import ActorFacade.Text.Escaped
import ActorFacade.Number.Shortest
import ActorFacade.Number.Integer

/-! # Writing literals

The literal of a value is its source text in a generated signature.  A mapping whose keys are the
integers from zero on, in order, is written as a list; every other mapping is written with its keys.
Members of enumerations are written as the plain number or text.  Values of other types, and
integers with too many digits, have no literal.
-/

namespace ActorFacade.Literal

open Integer (LimitError)

/-- Why a value has no literal. -/
inductive WriteError where
  /-- A part of the value is of a type without literals. -/
  | unsupported (typeName : Text)
  /-- A part of the value is an integer with too many digits. -/
  | limit (e : LimitError)
deriving DecidableEq, Repr

/-- The wording of a failure to write a literal. -/
def WriteError.message : WriteError → Text
  | .unsupported name => "Cannot encode default value of type " ++ name
  | .limit e => e.message

/-- The literal of a number. -/
def writeDouble : Double → Text
  | .nan => "NAN"
  | .infinity false => "INF"
  | .infinity true => "-INF"
  | .finite negative m e => Double.finiteText negative m e

/-- The literal of an integer. -/
def writeInt (n : Int) : Except WriteError Text :=
  match Integer.write n with
  | .ok t => .ok t
  | .error e => .error (.limit e)

/-- The literal of an atom. -/
def writeAtom : Atom → Except WriteError Text
  | .null | .absent => .ok "null"
  | .bool true => .ok "true"
  | .bool false => .ok "false"
  | .int n | .intMember n => writeInt n
  | .double x | .doubleMember x => .ok (writeDouble x)
  | .text t | .textMember t => .ok (Escaped.write t)
  | a => .error (.unsupported (Value.atomTypeName a))

/-- Items in brackets. -/
def brackets (items : List Text) : Text := 0x5B :: Text.join ", " items ++ [0x5D]

mutual
/-- The literal of a value. -/
def write : Value → Except WriteError Text
  | .atom a => writeAtom a
  | .list xs | .tuple xs => do return brackets (← writeAll xs)
  | .dict es | .mapping es => do
    return brackets (← if Entries.isSequence es then writeValues es else writeEntries es)
  | x => .error (.unsupported x.typeName)

/-- The literals of some values. -/
def writeAll : List Value → Except WriteError (List Text)
  | [] => .ok []
  | x :: xs => do
    let first ← write x
    return first :: (← writeAll xs)

/-- The literals of the values of some entries. -/
def writeValues : List (Value × Value) → Except WriteError (List Text)
  | [] => .ok []
  | (_, v) :: es => do
    let first ← write v
    return first :: (← writeValues es)

/-- The literals of some entries. -/
def writeEntries : List (Value × Value) → Except WriteError (List Text)
  | [] => .ok []
  | (k, v) :: es => do
    let key ← write k
    let value ← write v
    return (key ++ " => " ++ value) :: (← writeEntries es)
end

end ActorFacade.Literal
