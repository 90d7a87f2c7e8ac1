import ActorFacade.Text.Blank

/-! # Lines and margins

Three notions of line meet here: `lines` ends a line at every line boundary of Unicode and at the
old separators, `pieces 0x0A` cuts at line feeds only, and `unifyNewlines` turns the two other
common line ends into line feeds, as reading a text file does.
-/

namespace ActorFacade.Text

/-! ## Line boundaries -/

/-- Code points that end a line on their own. -/
def isLineBreak (c : CodePoint) : Bool :=
  (0x0A ≤ c && c ≤ 0x0D) || (0x1C ≤ c && c ≤ 0x1E) || c == 0x85 || c == 0x2028 || c == 0x2029

/-- The lines of a text without their ends; a line end at the very end starts no further line. -/
def lines : Text → List Text
  | [] => []
  | 0x0D :: 0x0A :: t => [] :: lines t
  | c :: t =>
    if isLineBreak c then [] :: lines t
    else match lines t with
      | [] => [[c]]
      | line :: rest => (c :: line) :: rest

/-- Carriage returns, alone or before a line feed, become line feeds. -/
def unifyNewlines : Text → Text
  | [] => []
  | 0x0D :: 0x0A :: t => 0x0A :: unifyNewlines t
  | c :: t => (if c = 0x0D then 0x0A else c) :: unifyNewlines t

/-! ## Margins -/

/-- A tab or a space. -/
def isTabOrSpace (c : CodePoint) : Bool := c == 0x09 || c == 0x20

/-- The longest text that both texts begin with. -/
def commonStart : Text → Text → Text
  | a :: s, b :: t => if a = b then a :: commonStart s t else []
  | _, _ => []

/-- The longest run of tabs and spaces that all lines with other content begin with. -/
def margin (lines : List Text) : Text :=
  match (lines.filter fun l ↦ !l.all isTabOrSpace).map (·.takeWhile isTabOrSpace) with
  | [] => []
  | first :: rest => rest.foldl commonStart first

/-- The text without the common margin of its lines; lines of tabs and spaces become empty. -/
def dedent (t : Text) : Text :=
  let pieces := pieces 0x0A t
  let depth := (margin pieces).length
  join newline (pieces.map fun l ↦ if l.all isTabOrSpace then [] else l.drop depth)

/-- Spaces in place of tabs, to the next column divisible by eight, starting at a given column. -/
def expandTabsFrom : Nat → Text → Text
  | _, [] => []
  | column, c :: t =>
    if c = 0x09 then
      let width := 8 - column % 8
      List.replicate width 0x20 ++ expandTabsFrom (column + width) t
    else if c = 0x0A || c = 0x0D then c :: expandTabsFrom 0 t
    else c :: expandTabsFrom (column + 1) t

/-- Spaces in place of tabs. -/
def expandTabs (t : Text) : Text := expandTabsFrom 0 t

end ActorFacade.Text
