import ActorFacade.Yaml.Scalar
import ActorFacade.Text.Utf8

/-! # Tokens of a document

A document is cut into tokens.  Indentation becomes tokens too: blocks begin and end where columns
change.  A key that is written without a question mark is recognised only at the colon behind it, so
every token that could begin such a key is remembered as a candidate, and the marks of the key are
put in front of it when the colon comes.
-/

namespace ActorFacade.Yaml

/-- What a directive says. -/
inductive Directive where
  | version (major : Int)
  /-- An abbreviation for the beginnings of tags. -/
  | tag (handle lead : Text)
  | unknown
deriving DecidableEq, Repr

/-- A token. -/
inductive Token where
  | directive (d : Directive)
  | documentStart
  | documentEnd
  | blockSequence
  | blockMapping
  | blockEnd
  | sequenceOpen
  | sequenceClose
  | mappingOpen
  | mappingClose
  | comma
  | dash
  | key
  | value
  | alias (name : Text)
  | anchor (name : Text)
  /-- A tag; without a handle it is written in full. -/
  | tag (handle : Option Text) (rest : Text)
  | scalar (t : Text) (isPlain : Bool)
  | streamEnd
deriving DecidableEq, Repr

namespace Token

/-! ## Names, tags and directives -/

/-- Reads the name of an anchor behind its mark. -/
def anchorName (c : Cursor) : Reading :=
  let name := c.span isNameCharacter
  let c := c.skip name.length
  if name.isEmpty || !(isSeparator c.peek || isOneOf "?:,]\x7d%@\x60" c.peek) then
    .error .malformed
  else .ok (name, c)

/-- Reads the handle of a tag: an exclamation mark, or a name between two. -/
def tagHandle (c : Cursor) : Reading :=
  if c.peek ≠ 0x21 then .error .malformed
  else if c.peek 1 = 0x20 then .ok ("!", c.next)
  else
    let name := c.next.span isNameCharacter
    let behind := c.skip (name.length + 1)
    if behind.peek = 0x21 then .ok ("!" ++ name ++ "!", behind.next) else .error .malformed

/-- Reads escaped bytes of a tag. -/
def escapedBytes : Nat → List UInt8 → Cursor → Except Defect (List UInt8 × Cursor)
  | 0, _, _ => .error .malformed
  | steps + 1, bytes, c =>
    if c.peek = 0x25 then
      match Text.hexValue? (c.peek 1), Text.hexValue? (c.peek 2) with
      | some a, some b => escapedBytes steps (bytes ++ [(a * 16 + b).toUInt8]) (c.skip 3)
      | _, _ => .error .malformed
    else .ok (bytes, c)

/-- Reads the characters of a tag. -/
def tagCharacters : Nat → Text → Cursor → Reading
  | 0, _, _ => .error .malformed
  | steps + 1, t, c =>
    if c.peek = 0x25 then do
      let (bytes, c) ← escapedBytes (c.rest.length + 1) [] c
      match Utf8.decode bytes with
      | .ok decoded => tagCharacters steps (t ++ decoded) c
      | .error _ => throw .malformed
    else if isTagCharacter c.peek then tagCharacters steps (t ++ [c.peek]) c.next
    else .ok (t, c)

/-- Reads the part of a tag that must not be empty. -/
def tagRest (c : Cursor) : Reading := do
  let (t, behind) ← tagCharacters (c.rest.length + 1) [] c
  if behind.index = c.index then throw .malformed
  return (t, behind)

/-- Whether a tag has a second exclamation mark before it ends. -/
def hasHandle (c : Cursor) : Bool :=
  ((c.next.rest.takeWhile fun x ↦ !isSpaceOrEnd x).contains 0x21)

/-- Reads a tag. -/
def readTag (c : Cursor) : Except Defect (Token × Cursor) := do
  let (token, c) ←
    if c.peek 1 = 0x3C then do
      let (t, c) ← tagRest (c.skip 2)
      if c.peek ≠ 0x3E then throw .malformed
      pure (Token.tag none t, c.next)
    else if isSeparator (c.peek 1) then pure (Token.tag none "!", c.next)
    else if hasHandle c then do
      let (handle, c) ← tagHandle c
      let (t, c) ← tagRest c
      pure (Token.tag (some handle) t, c)
    else do
      let (t, c) ← tagRest c.next
      pure (Token.tag (some "!") t, c)
  if !isSpaceOrEnd c.peek then throw .malformed
  return (token, c)

/-- Reads a number of a version. -/
def versionNumber (c : Cursor) : Except Defect (Int × Cursor) :=
  let digits := c.span Text.isAsciiDigit
  if digits.isEmpty then .error .malformed
  else ((Integer.read false digits).mapError .limit).map fun n ↦ (n, c.skip digits.length)

/-- Reads what a directive says behind its name. -/
def directiveValue (name : Text) (c : Cursor) : Except Defect (Directive × Cursor) := do
  if name = Text.ofString "YAML" then
    let (major, c) ← versionNumber c.skipSpaces
    if c.peek ≠ 0x2E then throw .malformed
    let (_, c) ← versionNumber c.next
    if !isSpaceOrEnd c.peek then throw .malformed
    return (.version major, c)
  else if name = Text.ofString "TAG" then
    let (handle, c) ← tagHandle c.skipSpaces
    if c.peek ≠ 0x20 then throw .malformed
    let (lead, c) ← tagRest c.skipSpaces
    if !isSpaceOrEnd c.peek then throw .malformed
    return (.tag handle lead, c)
  else return (.unknown, c.skipWhile fun x ↦ !isLineEnd x)

/-- Reads a directive. -/
def readDirective (c : Cursor) : Except Defect (Token × Cursor) := do
  let name := c.next.span isNameCharacter
  let c := c.skip (name.length + 1)
  if name.isEmpty || !isSpaceOrEnd c.peek then throw .malformed
  let (d, c) ← directiveValue name c
  let c := c.skipSpaces.skipComment
  if !isLineEnd c.peek then throw .malformed
  return (.directive d, c.lineBreak.2)

end Token

end ActorFacade.Yaml
