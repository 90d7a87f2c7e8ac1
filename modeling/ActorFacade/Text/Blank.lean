import ActorFacade.Text.Basic

/-! # Blank code points

White space in the wide sense: the Unicode property White_Space together with the four information
separators.  `trim` takes blanks off both ends, and its lemmas say that nothing blank is left there.
-/

namespace ActorFacade.Text

/-- Blank code points: White_Space and the separators `U+001C` to `U+001F`. -/
def isBlank (c : CodePoint) : Bool :=
  (0x09 ≤ c && c ≤ 0x0D) || (0x1C ≤ c && c ≤ 0x20) || c == 0x85 || c == 0xA0 || c == 0x1680 ||
  (0x2000 ≤ c && c ≤ 0x200A) || c == 0x2028 || c == 0x2029 || c == 0x202F || c == 0x205F ||
  c == 0x3000

/-- A text without its leading blanks. -/
def trimLeft (t : Text) : Text := t.dropWhile isBlank

/-- A text without its trailing blanks. -/
def trimRight (t : Text) : Text := dropRightWhile isBlank t

/-- A text without the blanks at either end. -/
def trim (t : Text) : Text := trimRight (trimLeft t)

/-- Blanks around numbers: the separators `U+001C` to `U+001F` do not count. -/
def isBlankOfNumber (c : CodePoint) : Bool := isBlank c && !(0x1C ≤ c && c ≤ 0x1F)

/-- The text of a number without the blanks around it. -/
def trimNumber (t : Text) : Text := dropRightWhile isBlankOfNumber (t.dropWhile isBlankOfNumber)

/-- Whether a text has nothing but blanks. -/
def isAllBlank (t : Text) : Bool := t.all isBlank

/-! ## What trimming leaves -/

theorem head?_trimLeft (t : Text) (c : CodePoint) (h : t.trimLeft.head? = some c) :
    isBlank c = false := by
  have := List.head?_dropWhile_not isBlank t
  unfold trimLeft at h
  rw [h] at this
  simpa using this

theorem getLast?_trimRight (t : Text) (c : CodePoint) (h : t.trimRight.getLast? = some c) :
    isBlank c = false := by
  have := List.head?_dropWhile_not isBlank t.reverse
  unfold trimRight dropRightWhile at h
  rw [List.getLast?_reverse] at h
  rw [h] at this
  simpa using this

end ActorFacade.Text
