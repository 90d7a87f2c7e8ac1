import ActorFacade.Number.Integer
import ActorFacade.Yaml.Cursor

/-! # The texts of scalars

A scalar is written plainly, in quotes, or as a block of indented lines.  In each form line ends
within the text are folded by rules of its own: a single line end becomes a space, and of several
the first is dropped.  Each reader takes as many steps as there are characters at most.
-/

namespace ActorFacade.Yaml

/-- Why a document cannot be read. -/
inductive Defect where
  /-- It does not follow the format. -/
  | malformed
  /-- An escape names a character beyond the last one. -/
  | noSuchCharacter
  /-- An escape names a character by a number that is too large for one. -/
  | characterTooLarge
  /-- A number in a directive has too many digits. -/
  | limit (e : Integer.LimitError)
deriving DecidableEq, Repr

/-- A text that was read and the place behind it. -/
abbrev Reading := Except Defect (Text × Cursor)

namespace Scalar

/-- What line ends within a scalar become: the first one as text, and those behind it. -/
def folded (first : Text) (breaks : Text) : Text :=
  if first ≠ Text.newline then first ++ breaks
  else if breaks.isEmpty then [0x20]
  else breaks

/-! ## Plain scalars -/

/-- Whether a plain scalar ends at a character, given the one behind it. -/
def endsPlain (flow : Bool) (c following : CodePoint) : Bool :=
  isSeparator c ||
    (c == 0x3A && (isSeparator following || (flow && isOneOf ",[]\x7b\x7d" following))) ||
    (flow && isOneOf ",?[]\x7b\x7d" c)

/-- The characters of a plain scalar up to where it ends or is interrupted. -/
def plainRun (flow : Bool) : Text → Text
  | [] => []
  | c :: t => if endsPlain flow c (t.headD 0) then [] else c :: plainRun flow t

/-- The line ends and spaces from here on, as text; nothing where a document is separated. -/
def plainBreaks : Nat → Text → Cursor → Option Text × Cursor
  | 0, breaks, c => (some breaks, c)
  | steps + 1, breaks, c =>
    if c.peek = 0x20 then plainBreaks steps breaks c.next
    else if isBreak c.peek then
      let (lineEnd, c) := c.lineBreak
      if c.isAtDocumentMark then (none, c) else plainBreaks steps (breaks ++ lineEnd) c
    else (some breaks, c)

/-- What stands between two runs of a plain scalar, as text, and whether a line ends there. -/
def plainGap (c : Cursor) : Text × Cursor × Bool :=
  let spaces := c.span (· == 0x20)
  let c := c.skipSpaces
  if isBreak c.peek then
    let (first, c) := c.lineBreak
    if c.isAtDocumentMark then ([], c, true)
    else match plainBreaks (c.rest.length + 1) [] c with
      | (some breaks, c) => (folded first breaks, c, true)
      | (none, c) => ([], c, true)
  else (spaces, c, false)

/-- A plain scalar that was read. -/
structure Plain where
  /-- Its text. -/
  text : Text
  /-- The place behind it and the gap that follows it. -/
  cursor : Cursor
  /-- Whether a line ends in this gap. -/
  atLineStart : Bool
deriving DecidableEq, Repr

/-- Reads a plain scalar; `gap` stands between what was read and what follows.  Outside of brackets
a line that is not indented by `indent` ends it. -/
def plain (flow : Bool) (indent : Int) : Nat → Plain → (gap : Text) → Plain
  | 0, p, _ => p
  | steps + 1, p, gap =>
    let run := if p.cursor.peek = 0x23 then [] else plainRun flow p.cursor.rest
    if run.isEmpty then p
    else
      let (following, c, newLine) := plainGap (p.cursor.skip run.length)
      let p : Plain := ⟨p.text ++ gap ++ run, c, newLine⟩
      if following.isEmpty || c.peek = 0x23 || (!flow && (c.column : Int) < indent) then p
      else plain flow indent steps p following

/-! ## Scalars in quotes -/

/-- The lines without content from here on, as text. -/
def quotedBreaks : Nat → Text → Cursor → Reading
  | 0, _, _ => .error .malformed
  | steps + 1, breaks, c =>
    if c.isAtDocumentMark then .error .malformed
    else
      let c := c.skipWhile isSpaceOrTab
      if isBreak c.peek then
        let (lineEnd, c) := c.lineBreak
        quotedBreaks steps (breaks ++ lineEnd) c
      else .ok (breaks, c)

/-- What blanks and line ends within quotes become. -/
def quotedGap (c : Cursor) : Reading :=
  let spaces := c.span isSpaceOrTab
  let c := c.skipWhile isSpaceOrTab
  if isBreak c.peek then do
    let (first, c) := c.lineBreak
    let (breaks, c) ← quotedBreaks (c.rest.length + 2) [] c
    return (folded first breaks, c)
  else .ok (spaces, c)

/-- The character that an escape of one letter stands for. -/
def shortEscape? (c : CodePoint) : Option CodePoint :=
  match c with
  | 0x30 => some 0x00
  | 0x61 => some 0x07
  | 0x62 => some 0x08
  | 0x74 | 0x09 => some 0x09
  | 0x6E => some 0x0A
  | 0x76 => some 0x0B
  | 0x66 => some 0x0C
  | 0x72 => some 0x0D
  | 0x65 => some 0x1B
  | 0x20 => some 0x20
  | 0x22 => some 0x22
  | 0x5C => some 0x5C
  | 0x2F => some 0x2F
  | 0x4E => some 0x85
  | 0x5F => some 0xA0
  | 0x4C => some 0x2028
  | 0x50 => some 0x2029
  | _ => none

/-- The number of hexadecimal digits behind a letter. -/
def escapeWidth? (c : CodePoint) : Option Nat :=
  match c with
  | 0x78 => some 2
  | 0x75 => some 4
  | 0x55 => some 8
  | _ => none

/-- The number written by hexadecimal digits. -/
def hexNumber? (t : Text) : Option Nat :=
  t.foldl (fun n c ↦ do return (← n) * 16 + (← Text.hexValue? c)) (some 0)

/-- Reads an escape behind its backslash. -/
def escape (c : Cursor) : Reading :=
  match shortEscape? c.peek, escapeWidth? c.peek with
  | some x, _ => .ok ([x], c.next)
  | none, some width =>
    let digits := c.next.rest.take width
    match hexNumber? digits with
    | some n =>
      if digits.length < width then .error .malformed
      else if n < 0x110000 then .ok ([n], c.skip (width + 1))
      else if n < 0x80000000 then .error .noSuchCharacter
      else .error .characterTooLarge
    | none => .error .malformed
  | none, none =>
    if isBreak c.peek then
      let c := c.lineBreak.2
      quotedBreaks (c.rest.length + 2) [] c
    else .error .malformed

/-- Reads a scalar behind its opening quotation mark, which is `mark`. -/
def quoted (mark : CodePoint) : Nat → Text → Cursor → Reading
  | 0, _, _ => .error .malformed
  | steps + 1, t, c =>
    let x := c.peek
    if x = mark then
      if x = 0x27 && c.peek 1 = 0x27 then quoted mark steps (t ++ [x]) (c.skip 2)
      else .ok (t, c.next)
    else if x = 0 then .error .malformed
    else if isSpaceOrTab x || isBreak x then do
      let (gap, c) ← quotedGap c
      quoted mark steps (t ++ gap) c
    else if x = 0x5C && mark = 0x22 then do
      let (escaped, c) ← escape c.next
      quoted mark steps (t ++ escaped) c
    else quoted mark steps (t ++ [x]) c.next

/-! ## Blocks -/

/-- What becomes of the line ends behind a block. -/
inductive Chomping where
  /-- One is kept. -/
  | clip
  /-- All are kept. -/
  | keep
  /-- None is kept. -/
  | strip
deriving DecidableEq, Repr

/-- The chomping that a character asks for. -/
def chomping? (c : CodePoint) : Option Chomping :=
  if c = 0x2B then some .keep else if c = 0x2D then some .strip else none

/-- The depth of indentation that a digit asks for; zero is none. -/
def depth? (c : CodePoint) : Except Defect (Option Nat) :=
  if c = 0x30 then .error .malformed
  else if Text.isAsciiDigit c then .ok (some (c - 0x30))
  else .ok none

/-- Reads what follows the mark of a block in its line. -/
def blockHeader (c : Cursor) : Except Defect (Chomping × Option Nat × Cursor) := do
  let (chomping, depth, c) ← match chomping? c.peek with
    | some chomping => do
      match ← depth? (c.peek 1) with
      | some depth => pure (chomping, some depth, c.skip 2)
      | none => pure (chomping, none, c.next)
    | none => do
      match ← depth? c.peek with
      | some depth =>
        match chomping? (c.peek 1) with
        | some chomping => pure (chomping, some depth, c.skip 2)
        | none => pure (.clip, some depth, c.next)
      | none => pure (.clip, none, c)
  if !isSpaceOrEnd c.peek then throw .malformed
  let c := c.skipSpaces.skipComment
  if !isLineEnd c.peek then throw .malformed
  return (chomping, depth, c.lineBreak.2)

/-- Passes empty lines in front of a block whose indentation is not known; the result has the line
ends, the greatest column reached and the place behind. -/
def blockStart : Nat → Text → Nat → Cursor → Text × Nat × Cursor
  | 0, breaks, deepest, c => (breaks, deepest, c)
  | steps + 1, breaks, deepest, c =>
    if c.peek = 0x20 then blockStart steps breaks (max deepest c.next.column) c.next
    else if isBreak c.peek then
      let (lineEnd, c) := c.lineBreak
      blockStart steps (breaks ++ lineEnd) deepest c
    else (breaks, deepest, c)

/-- The place behind spaces, but not beyond a column. -/
def indentTo (indent : Nat) (c : Cursor) : Cursor :=
  c.skip (min (c.span (· == 0x20)).length (indent - c.column))

/-- Passes empty lines of a block. -/
def blockBreaks (indent : Nat) : Nat → Text → Cursor → Text × Cursor
  | 0, breaks, c => (breaks, c)
  | steps + 1, breaks, c =>
    let c := indentTo indent c
    if isBreak c.peek then
      let (lineEnd, c) := c.lineBreak
      blockBreaks indent steps (breaks ++ lineEnd) c
    else (breaks, c)

/-- What a block had when its lines ended. -/
structure BlockEnd where
  /-- The text of its lines. -/
  text : Text
  /-- The end of the last line. -/
  lineEnd : Text
  /-- The line ends of the empty lines behind it. -/
  breaks : Text
  /-- The place behind. -/
  cursor : Cursor
deriving DecidableEq, Repr

/-- Reads the lines of a block; `breaks` are the ends of the empty lines in front of the next one.
-/
def blockLines (isFolded : Bool) (indent : Nat) : Nat → BlockEnd → BlockEnd
  | 0, b => b
  | steps + 1, b =>
    let c := b.cursor
    if c.column = indent && c.peek ≠ 0 then
      let opensWithText := !isSpaceOrTab c.peek
      let line := c.span fun x ↦ !isLineEnd x
      let (lineEnd, c) := (c.skip line.length).lineBreak
      let (breaks, c) := blockBreaks indent (c.rest.length + 1) [] c
      let text := b.text ++ b.breaks ++ line
      if c.column = indent && c.peek ≠ 0 then
        let joint :=
          if isFolded && lineEnd = Text.newline && opensWithText && !isSpaceOrTab c.peek then
            if breaks.isEmpty then [0x20] else []
          else lineEnd
        blockLines isFolded indent steps ⟨text ++ joint, lineEnd, breaks, c⟩
      else ⟨text, lineEnd, breaks, c⟩
    else b

/-- Reads a block behind its mark; `outer` is the indentation around it. -/
def block (isFolded : Bool) (outer : Int) (c : Cursor) : Reading := do
  let (chomping, depth, c) ← blockHeader c
  let least := max 1 (outer + 1).toNat
  let (breaks, indent, c) := match depth with
    | none =>
      let (breaks, deepest, c) := blockStart (c.rest.length + 1) [] 0 c
      (breaks, max least deepest, c)
    | some depth =>
      let indent := least + depth - 1
      let (breaks, c) := blockBreaks indent (c.rest.length + 1) [] c
      (breaks, indent, c)
  let b := blockLines isFolded indent (c.rest.length + 1) ⟨[], [], breaks, c⟩
  let ending := match chomping with
    | .clip => b.lineEnd
    | .keep => b.lineEnd ++ b.breaks
    | .strip => []
  return (b.text ++ ending, b.cursor)

end Scalar

end ActorFacade.Yaml
