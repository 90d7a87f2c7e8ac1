import ActorFacade.Literal.Token
import ActorFacade.Value.Key
import ActorFacade.Text.Quoted

/-! # Reading literals

The reader takes one token at a time.  Its state is the array being read, inside the arrays around
it, so reading is a fold and every state it reaches can still be completed to a literal.  Entries
without a key are numbered on from the greatest index so far, and an array whose keys turn out to be
the integers from zero on is a list.
-/

namespace ActorFacade.Literal

/-! ## Errors -/

/-- Why a text is no literal. -/
inductive Cause where
  | unexpectedEnd
  | unrecognised
  | string (d : Escaped.Defect)
  | keyNotScalar
  | expectedSeparator
  | trailing
  | limit (e : Integer.LimitError)
deriving DecidableEq, Repr

/-- A refused text. -/
structure ReadError where
  /-- What is wrong. -/
  cause : Cause
  /-- The number of code points read before it. -/
  position : Nat
  /-- The text as a whole. -/
  text : Text
deriving DecidableEq, Repr

/-- The wording of a cause that has a position. -/
def Cause.message : Cause → Text
  | .unexpectedEnd => "Unexpected end of literal"
  | .unrecognised => "Unrecognised literal"
  | .string d => "Invalid string literal (" ++ d.message ++ ")"
  | .keyNotScalar => "Array keys must be scalars"
  | .expectedSeparator => "Expected ',' or ']'"
  | .trailing => "Unexpected trailing characters"
  | .limit e => e.message

/-- The wording of an error; a refused conversion of an integer has no position. -/
def ReadError.message (e : ReadError) : Text :=
  match e.cause with
  | .limit limit => limit.message
  | cause =>
    cause.message ++ " at position " ++ Text.ofNat e.position ++ ": " ++ e.text.quoted

/-- The cause that a defect is where a value should begin. -/
def Defect.cause : Defect → Cause
  | .unrecognised => .unrecognised
  | .string d => .string d
  | .limit e => .limit e

/-! ## Arrays -/

/-- An entry of an array. -/
inductive Item where
  | unkeyed (v : Value)
  | keyed (k v : Value)
deriving DecidableEq, Repr

namespace Item

/-- Whether an entry has a key. -/
def isKeyed : Item → Bool
  | .keyed .. => true
  | .unkeyed _ => false

/-- The value of an entry. -/
def value : Item → Value
  | .unkeyed v | .keyed _ v => v

/-- The index after a key: one more than the key where that is the greatest index so far. -/
def nextIndex (next : Int) (key : Value) : Int :=
  match key.index? with
  | some n => if next ≤ n then n + 1 else next
  | none => next

/-- Adds an entry to those collected so far. -/
def add (state : Entries × Int) (item : Item) : Entries × Int :=
  let key := match item with
    | .keyed k _ => k
    | .unkeyed _ => .int state.2
  (state.1.insert key item.value, nextIndex state.2 key)

end Item

/-- The entries of an array that has keys. -/
def collect (items : List Item) : Entries := (items.foldl Item.add ([], 0)).1

/-- The value of an array. -/
def arrayValue (items : List Item) : Value :=
  if items.any Item.isKeyed then
    let es := collect items
    if Entries.isSequence es then .list (es.map (·.2)) else .dict es
  else .list (items.map Item.value)

/-! ## States -/

/-- Where reading stands within an array. -/
inductive Slot where
  /-- Before an entry. -/
  | entry
  /-- Behind an arrow: the value of a key is wanted. -/
  | value (key : Value)
  /-- Behind a value that may turn out to be a key. -/
  | item (v : Value)
  /-- Behind an entry with a key. -/
  | full
deriving DecidableEq, Repr

/-- An array that is being read. -/
structure Frame where
  /-- Its complete entries. -/
  items : List Item
  /-- Where reading stands. -/
  slot : Slot
deriving DecidableEq, Repr

/-- Where reading stands as a whole. -/
inductive State where
  /-- Before the value. -/
  | start
  /-- Within arrays, the innermost first. -/
  | inside (frame : Frame) (outer : List Frame)
  /-- Behind the value. -/
  | done (v : Value)
deriving DecidableEq, Repr

namespace State

/-- Puts a value into an array where one is wanted. -/
def putInto (v : Value) (f : Frame) : Frame :=
  match f.slot with
  | .entry => { f with slot := .item v }
  | .value k => ⟨f.items ++ [.keyed k v], .full⟩
  | _ => f

/-- The state behind a value of the arrays around it. -/
def put (v : Value) : List Frame → State
  | [] => .done v
  | f :: outer => .inside (putInto v f) outer

/-- The entries of an array with the one that was read last. -/
def closedItems (f : Frame) : List Item :=
  match f.slot with
  | .item v => f.items ++ [.unkeyed v]
  | _ => f.items

/-- Where a value is wanted, takes a token; `outer` are the arrays around it. -/
def want (outer : List Frame) : Token → Except Cause State
  | .value v => .ok (put v outer)
  | .opening => .ok (.inside ⟨[], .entry⟩ outer)
  | .bad d => .error d.cause
  | _ => .error .unrecognised

/-- Takes a token; an error has its cause only. -/
def next (s : State) (tok : Token) : Except Cause State :=
  match s with
  | .start => want [] tok
  | .done _ => .error .trailing
  | .inside f outer =>
    match f.slot, tok with
    | .entry, .closing => .ok (put (arrayValue f.items) outer)
    | .entry, tok => want (f :: outer) tok
    | .value _, tok => want (f :: outer) tok
    | .item v, .arrow =>
      if v.unhashable?.isSome then .error .keyNotScalar
      else .ok (.inside { f with slot := .value v } outer)
    | .item _, .comma | .full, .comma => .ok (.inside ⟨closedItems f, .entry⟩ outer)
    | .item _, .closing | .full, .closing => .ok (put (arrayValue (closedItems f)) outer)
    | .item _, _ | .full, _ => .error .expectedSeparator

/-- The result when the text ends. -/
def finish : State → Except Cause Value
  | .done v => .ok v
  | .start => .error .unexpectedEnd
  | .inside f _ =>
    match f.slot with
    | .entry | .value _ => .error .unexpectedEnd
    | .item _ | .full => .error .expectedSeparator

end State

/-! ## Reading -/

/-- Where the error of a token is reported: behind an arrow, and at the beginning of other tokens.
-/
def Lexeme.errorPosition (l : Lexeme) (cause : Cause) : Nat :=
  if cause = .keyNotScalar then l.position + 2 else l.position

/-- Reads tokens from a state on; `length` is the length of the text. -/
def run (length : Nat) : State → List Lexeme → Except (Cause × Nat) Value
  | s, [] => s.finish.mapError fun cause ↦ (cause, length)
  | s, l :: ls =>
    match s.next l.token with
    | .ok s => run length s ls
    | .error cause => .error (cause, l.errorPosition cause)

/-- The value that a text is the literal of. -/
def read (t : Text) : Except ReadError Value :=
  (run t.length .start (tokens t)).mapError fun e ↦ ⟨e.1, e.2, t⟩

end ActorFacade.Literal
