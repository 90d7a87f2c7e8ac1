import ActorFacade.Value.Basic
import ActorFacade.Text.Quoted
import ActorFacade.Number.Shortest
import ActorFacade.Number.Integer

/-! # Values shown in messages

`shown` writes a value as it appears inside other values: texts are quoted.  `display` is the plain
form, in which a text stands for itself.  Both fail only for an integer with too many digits.
-/

namespace ActorFacade.Value

open Integer (LimitError)

/-- An atom as it appears inside other values. -/
def shownAtom : Atom → Except LimitError Text
  | .null => .ok "None"
  | .absent => .ok "NO_DEFAULT"
  | .bool true => .ok "True"
  | .bool false => .ok "False"
  | .int n | .intMember n => Integer.write n
  | .double x | .doubleMember x => .ok x.toText
  | .text t | .textMember t => .ok t.quoted
  | .bytes bs => .ok (Text.quotedBytes bs)
  | .constant name => .ok ("ConstantRef(name=" ++ name.quoted ++ ")")
  | .date year month day => .ok (Calendar.shownDay year month day)
  | .moment m => .ok m.shown
  | .enclosing .list => .ok "[...]"
  | .enclosing .tuple => .ok "(...)"
  | .enclosing .dict => .ok "\x7b...\x7d"
  | .other name => .ok ("<" ++ name ++ " object>")

/-- Items between commas. -/
def commas (items : List Text) : Text := Text.join ", " items

mutual
/-- A value as it appears inside other values. -/
def shown : Value → Except LimitError Text
  | .atom a => shownAtom a
  | .list xs => do return "[" ++ commas (← shownAll xs) ++ "]"
  | .tuple [x] => do return "(" ++ (← shown x) ++ ",)"
  | .tuple xs => do return "(" ++ commas (← shownAll xs) ++ ")"
  | .set [] => .ok "set()"
  | .set xs => do return "\x7b" ++ commas (← shownAll xs) ++ "\x7d"
  | .dict es => do return "\x7b" ++ commas (← shownEntries es) ++ "\x7d"
  | .mapping es => do return "mappingproxy(\x7b" ++ commas (← shownEntries es) ++ "\x7d)"

/-- All of some values. -/
def shownAll : List Value → Except LimitError (List Text)
  | [] => .ok []
  | x :: xs => do return (← shown x) :: (← shownAll xs)

/-- All of some entries. -/
def shownEntries : List (Value × Value) → Except LimitError (List Text)
  | [] => .ok []
  | (k, v) :: es => do
    let entry := (← shown k) ++ ": " ++ (← shown v)
    return entry :: (← shownEntries es)
end

/-- A value on its own: a text stands for itself, dates have the usual form, and a mapping that
cannot be changed looks like any other. -/
def display : Value → Except LimitError Text
  | .atom (.text t) | .atom (.textMember t) => .ok t
  | .atom (.date year month day) => .ok (Calendar.dayText year month day)
  | .atom (.moment m) => .ok m.text
  | .mapping es => shown (.dict es)
  | x => shown x

end ActorFacade.Value
