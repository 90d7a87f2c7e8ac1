import ActorFacade.Text.Lines

/-! # Documentation

`tidy` removes the margin of a documentation text as it stands in source code.  `Docblock.ofText`
turns documentation into the lines of a comment block: every line begins with a star, and blank
lines at either end are left out.  Documentation that is itself written as a comment loses its
delimiters and its own stars.
-/

namespace ActorFacade.Docblock

/-! ## Margins of documentation -/

/-- Leading blanks of a line. -/
def indentation (line : Text) : Nat := line.length - line.trimLeft.length

/-- Lines without empty ones at either end. -/
def dropEmptyEnds (lines : List Text) : List Text :=
  ((lines.dropWhile (·.isEmpty)).reverse.dropWhile (·.isEmpty)).reverse

/-- Documentation without tabs, margin and empty lines at the ends.  The first line has no margin;
the others share the least indentation of those that are not blank. -/
def tidy (t : Text) : Text :=
  match Text.pieces 0x0A t.expandTabs with
  | [] => []
  | first :: rest =>
    let depth := ((rest.filter fun l ↦ !l.isAllBlank).map indentation).min?.getD 0
    Text.join Text.newline (dropEmptyEnds (first.trimLeft :: rest.map (·.drop depth)))

/-! ## Comment blocks -/

/-- What separates the lines of a comment block within a class. -/
def separator : Text := "\n     "

/-- The note at the end of the documentation of a conditional variant. -/
def conditionalNote : Text := "* Conditional Assertion: Test won't be stopped on fail"

/-- Whether documentation is written as a comment. -/
def isComment (raw : Text) : Bool := raw.trimLeft.startsWith "/**"

/-- A text without the delimiters of comments. -/
def dropDelimiters (raw : Text) : Text := (raw.replaceAll "/**" []).replaceAll "*/" []

/-- A line of a comment without its star and one space behind it, or of plain documentation without
trailing blanks. -/
def content (comment : Bool) (line : Text) : Text :=
  match comment, line.trim with
  | true, 0x2A :: 0x20 :: rest => rest
  | true, 0x2A :: rest => rest
  | _, _ => line.trimRight

/-- Lines without blank ones at either end. -/
def dropBlankEnds (lines : List Text) : List Text :=
  ((lines.dropWhile (·.isAllBlank)).reverse.dropWhile (·.isAllBlank)).reverse

/-- The contents of the lines of documentation. -/
def contents (raw : Text) : List Text :=
  let comment := isComment raw
  let body := if comment then dropDelimiters raw else raw
  dropBlankEnds (body.dedent.lines.map (content comment))

/-- A line of a comment block. -/
def starred (line : Text) : Text := if line.isAllBlank then "*" else "* " ++ line

/-- Documentation as a comment block; empty documentation is a lone star. -/
def ofText (raw : Text) : Text :=
  match contents raw with
  | [] => "*"
  | lines => Text.join separator (lines.map starred)

/-- Documentation of a conditional variant. -/
def conditional (block : Text) : Text := block ++ separator ++ conditionalNote

end ActorFacade.Docblock
