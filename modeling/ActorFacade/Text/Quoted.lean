import ActorFacade.Text.Printable

/-! # Texts shown in quotes

Messages show a text between quotation marks with everything unprintable escaped, so that two texts
never look the same.  Single quotation marks are used unless the text holds one and no double one.
-/

namespace ActorFacade.Text

/-- The quotation mark around a displayed text. -/
def quoteMark (t : Text) : CodePoint := if t.contains 0x27 && !t.contains 0x22 then 0x22 else 0x27

/-- The escape of an unprintable code point, with two, four or eight hexadecimal digits. -/
def escapeByCode (c : CodePoint) : Text :=
  if c < 0x100 then "\\x" ++ hexDigits 2 c
  else if c < 0x10000 then "\\u" ++ hexDigits 4 c
  else "\\U" ++ hexDigits 8 c

/-- How one code point is shown between quotation marks of a given kind. -/
def showCodePoint (printable : CodePoint → Bool) (mark c : CodePoint) : Text :=
  if c = mark || c = 0x5C then [0x5C, c]
  else if c = 0x09 then "\\t"
  else if c = 0x0A then "\\n"
  else if c = 0x0D then "\\r"
  else if printable c then [c]
  else escapeByCode c

/-- A text in quotes. -/
def quoted (t : Text) : Text :=
  let mark := quoteMark t
  mark :: t.flatMap (showCodePoint isPrintable mark) ++ [mark]

/-- Bytes in quotes: everything beyond ASCII is escaped. -/
def quotedBytes (bytes : List UInt8) : Text :=
  let t : Text := bytes.map UInt8.toNat
  let mark := quoteMark t
  0x62 :: mark :: t.flatMap (showCodePoint (fun c ↦ 0x20 ≤ c && c < 0x7F) mark) ++ [mark]

end ActorFacade.Text
