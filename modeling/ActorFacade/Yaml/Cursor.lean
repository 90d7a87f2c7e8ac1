import ActorFacade.Text.Basic

/-! # Reading a document character by character

A cursor is a place in a document, with what follows it and with its line and column.  The classes
of characters that decide where a token ends are here too.  The end of the document reads as the
character zero, which no document contains.
-/

namespace ActorFacade.Yaml

/-! ## Classes of characters -/

/-- The byte order mark. -/
def byteOrderMark : CodePoint := 0xFEFF

/-- Whether a document may contain a character. -/
def isAllowed (c : CodePoint) : Bool :=
  c == 0x09 || c == 0x0A || c == 0x0D || (0x20 ≤ c && c ≤ 0x7E) || c == 0x85 ||
    (0xA0 ≤ c && c ≤ 0xD7FF) || (0xE000 ≤ c && c ≤ 0xFFFD) || (0x10000 ≤ c && c ≤ 0x10FFFF)

/-- Whether a character ends a line. -/
def isBreak (c : CodePoint) : Bool :=
  c == 0x0A || c == 0x0D || c == 0x85 || c == 0x2028 || c == 0x2029

/-- Whether a character ends a line or the document. -/
def isLineEnd (c : CodePoint) : Bool := c == 0 || isBreak c

/-- Whether a character is a space, ends a line or ends the document. -/
def isSpaceOrEnd (c : CodePoint) : Bool := c == 0x20 || isLineEnd c

/-- Whether a character separates tokens. -/
def isSeparator (c : CodePoint) : Bool := c == 0x09 || isSpaceOrEnd c

/-- Whether a character is a space or a tab. -/
def isSpaceOrTab (c : CodePoint) : Bool := c == 0x20 || c == 0x09

/-- Whether a character is one of those in a string. -/
def isOneOf (s : String) (c : CodePoint) : Bool := (Text.ofString s).contains c

/-- Whether a character may stand in the name of an anchor or of a directive. -/
def isNameCharacter (c : CodePoint) : Bool :=
  Text.isAsciiDigit c || Text.isAsciiLetter c || isOneOf "-_" c

/-- Whether a character may stand in a tag. -/
def isTagCharacter (c : CodePoint) : Bool :=
  Text.isAsciiDigit c || Text.isAsciiLetter c || isOneOf "-;/?:@&=+$,_.!~*'()[]%" c

/-! ## Cursors -/

/-- A place in a document. -/
structure Cursor where
  /-- What follows. -/
  rest : Text
  /-- The number of characters before it. -/
  index : Nat := 0
  /-- The number of line ends before it. -/
  line : Nat := 0
  /-- The number of characters before it in its line. -/
  column : Nat := 0
deriving DecidableEq, Repr

namespace Cursor

/-- The character at a distance, zero behind the end. -/
def peek (c : Cursor) (distance : Nat := 0) : CodePoint := c.rest.getD distance 0

/-- The place behind the next character. -/
def next (c : Cursor) : Cursor :=
  match c.rest with
  | [] => c
  | x :: rest =>
    if isBreak x && !(x == 0x0D && rest.head? == some 0x0A) then ⟨rest, c.index + 1, c.line + 1, 0⟩
    else ⟨rest, c.index + 1, c.line, if x = byteOrderMark then c.column else c.column + 1⟩

/-- The place some characters further on. -/
def skip (c : Cursor) : Nat → Cursor
  | 0 => c
  | n + 1 => c.next.skip n

/-- The characters from here on that belong to a class. -/
def span (c : Cursor) (p : CodePoint → Bool) : Text := c.rest.takeWhile p

/-- The place behind the characters of a class. -/
def skipWhile (c : Cursor) (p : CodePoint → Bool) : Cursor := c.skip (c.span p).length

/-- The place behind some spaces. -/
def skipSpaces (c : Cursor) : Cursor := c.skipWhile (· == 0x20)

/-- The place behind a comment, if one begins here. -/
def skipComment (c : Cursor) : Cursor :=
  if c.peek = 0x23 then c.skipWhile fun x ↦ !isLineEnd x else c

/-- Passes a line end; as text it is a line feed, unless it is one of the two Unicode separators. -/
def lineBreak (c : Cursor) : Text × Cursor :=
  let x := c.peek
  if x = 0x0D && c.peek 1 = 0x0A then (Text.newline, c.skip 2)
  else if x = 0x0D || x = 0x0A || x = 0x85 then (Text.newline, c.next)
  else if isBreak x then ([x], c.next)
  else ([], c)

/-- Whether three characters that separate documents stand here. -/
def isAtMark (c : Cursor) (mark : String) : Bool :=
  c.rest.startsWith mark && isSeparator (c.peek 3)

/-- Whether a document is separated from another here. -/
def isAtDocumentMark (c : Cursor) : Bool := c.isAtMark "---" || c.isAtMark "..."

end Cursor

end ActorFacade.Yaml
