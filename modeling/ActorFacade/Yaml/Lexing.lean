import ActorFacade.Yaml.Token

/-! # Cutting a document into tokens

The state of cutting has the tokens so far, the indentation of the blocks around the cursor, the
depth of brackets, and the candidates for keys, one for each depth at most.  Every step passes
blanks and comments, closes the blocks that the column is outside of, and reads one token; so there
are no more steps than characters.

A document may fail to be cut behind the place where it is seen to be malformed for another reason.
So `cut` gives the tokens in front of a defect too: all those whose place is settled, which are
those in front of the first candidate.
-/

namespace ActorFacade.Yaml

/-- A token that may turn out to begin a key. -/
structure Candidate where
  /-- The depth of brackets around it. -/
  depth : Nat
  /-- The number of tokens in front of it. -/
  number : Nat
  /-- Whether nothing but a key may stand there. -/
  isRequired : Bool
  /-- Where it stands. -/
  cursor : Cursor
deriving DecidableEq, Repr

/-- The state of cutting. -/
structure Lexing where
  /-- Where cutting stands. -/
  cursor : Cursor
  /-- The tokens so far, the last one first. -/
  tokens : List Token := []
  /-- The depth of brackets. -/
  depth : Nat := 0
  /-- The column of the innermost block, negative outside of all. -/
  indent : Int := -1
  /-- The columns of the blocks around it. -/
  outer : List Int := []
  /-- Whether a key may begin here. -/
  keyAllowed : Bool := true
  /-- The candidates for keys. -/
  candidates : List Candidate := []
deriving DecidableEq, Repr

namespace Lexing

/-- A state after a step, if there is one. -/
abbrev Step := Except Defect Lexing

/-! ## Tokens and blocks -/

/-- Adds a token. -/
def push (s : Lexing) (t : Token) : Lexing := { s with tokens := t :: s.tokens }

/-- Adds a token and moves on. -/
def pushTo (s : Lexing) (t : Token) (c : Cursor) : Lexing := { s.push t with cursor := c }

/-- Puts a token in front of the one with a given number. -/
def insertAt (s : Lexing) (number : Nat) (t : Token) : Lexing :=
  let later := s.tokens.length - number
  { s with tokens := s.tokens.take later ++ t :: s.tokens.drop later }

/-- Ends blocks that a column is outside of; `outer` are the columns around the innermost one. -/
def closeBlocks (column : Int) (s : Lexing) : List Int → Lexing
  | [] => { s with outer := [] }
  | i :: outer =>
    if column < s.indent then closeBlocks column { s.push .blockEnd with indent := i } outer
    else { s with outer := i :: outer }

/-- Ends the blocks that a column is outside of; within brackets columns do not matter. -/
def unwind (s : Lexing) (column : Int) : Lexing :=
  if s.depth = 0 then closeBlocks column s s.outer else s

/-- Begins a block at a column unless there is one; the result says whether it has begun. -/
def indentTo (s : Lexing) (column : Nat) : Lexing × Bool :=
  if s.indent < column then
    ({ s with outer := s.indent :: s.outer, indent := column }, true)
  else (s, false)

/-! ## Candidates -/

/-- Whether a candidate is out of reach: in another line or too far back. -/
def isStale (s : Lexing) (k : Candidate) : Bool :=
  k.cursor.line != s.cursor.line || 1024 < s.cursor.index - k.cursor.index

/-- Drops the candidates that are out of reach; a key that is required must not be dropped. -/
def dropStale (s : Lexing) : Step :=
  if s.candidates.any fun k ↦ s.isStale k && k.isRequired then .error .malformed
  else .ok { s with candidates := s.candidates.filter fun k ↦ !s.isStale k }

/-- The candidate at the current depth. -/
def candidate? (s : Lexing) : Option Candidate := s.candidates.find? fun k ↦ k.depth == s.depth

/-- Drops the candidate at the current depth, which must not be required. -/
def dropCandidate (s : Lexing) : Step :=
  if s.candidate?.any Candidate.isRequired then .error .malformed
  else .ok { s with candidates := s.candidates.filter fun k ↦ k.depth != s.depth }

/-- Remembers the next token as a candidate where a key may begin. -/
def saveCandidate (s : Lexing) : Step :=
  if s.keyAllowed then do
    let isRequired := s.depth = 0 && s.indent = (s.cursor.column : Int)
    let s ← s.dropCandidate
    return { s with
      candidates := s.candidates ++ [⟨s.depth, s.tokens.length, isRequired, s.cursor⟩] }
  else .ok s

/-- The same state with keys allowed or not. -/
def allow (s : Lexing) (b : Bool) : Lexing := { s with keyAllowed := b }

/-! ## Reading one token -/

/-- Passes blanks and comments; behind a line end outside of brackets a key may begin. -/
def skipBlanks : Nat → Lexing → Lexing
  | 0, s => s
  | steps + 1, s =>
    let c := s.cursor.skipSpaces.skipComment
    if isBreak c.peek then
      let s := { s with cursor := c.lineBreak.2 }
      skipBlanks steps (if s.depth = 0 then s.allow true else s)
    else { s with cursor := c }

/-- Reads the end of the document. -/
def readEnd (s : Lexing) : Step := do
  let s ← (s.unwind (-1)).dropCandidate
  return ({ s with candidates := [] }.allow false).push .streamEnd

/-- Reads a directive. -/
def readDirective (s : Lexing) : Step := do
  let s ← (s.unwind (-1)).dropCandidate
  let (t, c) ← Token.readDirective s.cursor
  return (s.allow false).pushTo t c

/-- Reads a mark between documents. -/
def readDocumentMark (s : Lexing) (t : Token) : Step := do
  let s ← (s.unwind (-1)).dropCandidate
  return (s.allow false).pushTo t (s.cursor.skip 3)

/-- Reads an opening bracket. -/
def readOpening (s : Lexing) (t : Token) : Step := do
  let s ← s.saveCandidate
  return ({ s with depth := s.depth + 1 }.allow true).pushTo t s.cursor.next

/-- Reads a closing bracket. -/
def readClosing (s : Lexing) (t : Token) : Step := do
  let s ← s.dropCandidate
  if s.depth = 0 then throw .malformed
  return ({ s with depth := s.depth - 1 }.allow false).pushTo t s.cursor.next

/-- Reads a comma. -/
def readComma (s : Lexing) : Step := do
  let s ← (s.allow true).dropCandidate
  return s.pushTo .comma s.cursor.next

/-- Begins a block of a kind at the current column, where a key may begin. -/
def openBlock (s : Lexing) (t : Token) : Step :=
  if s.depth ≠ 0 then .ok s
  else if !s.keyAllowed then .error .malformed
  else
    let (s, opened) := s.indentTo s.cursor.column
    .ok (if opened then s.push t else s)

/-- Reads the dash of an entry. -/
def readDash (s : Lexing) : Step := do
  let s ← s.openBlock .blockSequence
  let s ← (s.allow true).dropCandidate
  return s.pushTo .dash s.cursor.next

/-- Reads the question mark of a key. -/
def readKey (s : Lexing) : Step := do
  let s ← s.openBlock .blockMapping
  let s ← (s.allow (s.depth == 0)).dropCandidate
  return s.pushTo .key s.cursor.next

/-- Reads a colon.  If there is a candidate, it is a key now. -/
def readValue (s : Lexing) : Step :=
  match s.candidate? with
  | some k =>
    let s := { s with candidates := s.candidates.filter fun k ↦ k.depth != s.depth }
    let s := s.insertAt k.number .key
    let (s, opened) := if s.depth = 0 then s.indentTo k.cursor.column else (s, false)
    let s := if opened then s.insertAt k.number .blockMapping else s
    .ok ((s.allow false).pushTo .value s.cursor.next)
  | none => do
    let s ← s.openBlock .blockMapping
    let s ← (s.allow (s.depth == 0)).dropCandidate
    return s.pushTo .value s.cursor.next

/-- Reads a token that may begin a key. -/
def readKeyable (s : Lexing) (read : Cursor → Except Defect (Token × Cursor)) : Step := do
  let s ← s.saveCandidate
  let (t, c) ← read s.cursor
  return (s.allow false).pushTo t c

/-- Reads a block scalar. -/
def readBlock (s : Lexing) (isFolded : Bool) : Step := do
  let s ← (s.allow true).dropCandidate
  let (t, c) ← Scalar.block isFolded s.indent s.cursor.next
  return s.pushTo (.scalar t false) c

/-- Reads a plain scalar. -/
def readPlain (s : Lexing) : Step := do
  let s ← s.saveCandidate
  let p := Scalar.plain (s.depth != 0) (s.indent + 1) (s.cursor.rest.length + 1)
    ⟨[], s.cursor, false⟩ []
  return (s.allow p.atLineStart).pushTo (.scalar p.text true) p.cursor

/-- Whether a plain scalar may begin with a character. -/
def beginsPlain (flow : Bool) (c following : CodePoint) : Bool :=
  !(isSeparator c || isOneOf "-?:,[]\x7b\x7d#&*!|>'\"%@\x60" c) ||
    (!isSeparator following && (c == 0x2D || (!flow && (c == 0x3F || c == 0x3A))))

/-- Reads a token by its first character. -/
def readToken (s : Lexing) : Step :=
  let c := s.cursor
  let flow := s.depth != 0
  let x := c.peek
  let isApart := isSeparator (c.peek 1)
  let name (f : Text → Token) (c : Cursor) := (Token.anchorName c.next).map fun r ↦ (f r.1, r.2)
  let quoted (c : Cursor) :=
    (Scalar.quoted x (c.rest.length + 1) [] c.next).map fun r ↦ (Token.scalar r.1 false, r.2)
  if x = 0 then s.readEnd
  else if x = 0x25 && c.column = 0 then s.readDirective
  else if c.column = 0 && c.isAtMark "---" then s.readDocumentMark .documentStart
  else if c.column = 0 && c.isAtMark "..." then s.readDocumentMark .documentEnd
  else if x = 0x5B then s.readOpening .sequenceOpen
  else if x = 0x7B then s.readOpening .mappingOpen
  else if x = 0x5D then s.readClosing .sequenceClose
  else if x = 0x7D then s.readClosing .mappingClose
  else if x = 0x2C then s.readComma
  else if x = 0x2D && isApart then s.readDash
  else if x = 0x3F && (flow || isApart) then s.readKey
  else if x = 0x3A && (flow || isApart) then s.readValue
  else if x = 0x2A then s.readKeyable (name .alias)
  else if x = 0x26 then s.readKeyable (name .anchor)
  else if x = 0x21 then s.readKeyable Token.readTag
  else if x = 0x7C && !flow then s.readBlock false
  else if x = 0x3E && !flow then s.readBlock true
  else if x = 0x27 || x = 0x22 then s.readKeyable quoted
  else if beginsPlain flow x (c.peek 1) then s.readPlain
  else .error .malformed

/-- Passes what separates tokens and reads the next one. -/
def next (s : Lexing) : Step := do
  let s := skipBlanks (s.cursor.rest.length + 1) s
  let s ← s.dropStale
  (s.unwind s.cursor.column).readToken

/-- Reads tokens until the document ends; the defect is that of the step that fails, if one does. -/
def run : Nat → Lexing → Lexing × Option Defect
  | 0, s => (s, some .malformed)
  | steps + 1, s =>
    match s.next with
    | .error d => (s, some d)
    | .ok s => if s.tokens.head? = some .streamEnd then (s, none) else run steps s

/-- The number of tokens whose place is settled. -/
def settledCount (s : Lexing) : Nat :=
  ((s.candidates.filter fun k ↦ !s.isStale k).map Candidate.number).foldl min s.tokens.length

/-- The state at the beginning of a document, behind a byte order mark. -/
def start (t : Text) : Lexing :=
  let c : Cursor := { rest := t }
  { cursor := if c.peek = byteOrderMark then c.next else c }

end Lexing

/-- The tokens of a document, or those in front of its defect. -/
structure Cut where
  /-- The tokens. -/
  tokens : List Token
  /-- What is wrong behind them. -/
  defect : Option Defect := none
deriving DecidableEq, Repr

/-- Cuts a document into tokens. -/
def cut (t : Text) : Cut :=
  if !t.all isAllowed then ⟨[], some .malformed⟩
  else
    match Lexing.run (t.length + 2) (.start t) with
    | (s, none) => ⟨s.tokens.reverse, none⟩
    | (s, some d) => ⟨s.tokens.reverse.take s.settledCount, some d⟩

end ActorFacade.Yaml
