/-! # Texts as sequences of code points

A text is a list of code points and may hold lone surrogates, which a string of Unicode scalar
values cannot.  This module has the operations that the rest of the library reads texts with:
search, replacement, cutting and joining.  `replaceAll` works from left to right and never looks
again at what it has written.
-/

namespace ActorFacade

/-- A code point is a number below `0x110000`; surrogates count. -/
abbrev CodePoint := Nat

/-- A text is its sequence of code points. -/
abbrev Text := List CodePoint

namespace Text

instance : LawfulBEq Text := inferInstanceAs (LawfulBEq (List Nat))

instance : LE Text := @List.instLE Nat instLTNat

instance : DecidableLE Text := @List.decidableLE Nat instDecidableEqNat instLTNat Nat.decLt

/-! ## Making texts -/

/-- The text with the characters of a string. -/
def ofString (s : String) : Text := s.toList.map Char.toNat

instance : Coe String Text := ⟨ofString⟩

/-- The line feed. -/
def newline : Text := [0x0A]

/-- The decimal digits of a natural number. -/
def ofNat (n : Nat) : Text := (Nat.toDigits 10 n).map Char.toNat

/-- The decimal digits of an integer, with a minus sign in front of a negative one. -/
def ofInt (n : Int) : Text := if n < 0 then 0x2D :: ofNat n.natAbs else ofNat n.natAbs

/-! ## Code points -/

/-- Whether a code point is half of a surrogate pair. -/
def isSurrogate (c : CodePoint) : Bool := 0xD800 ≤ c && c ≤ 0xDFFF

/-- A text is scalar when it could be a string: in range and without surrogates. -/
def IsScalar (t : Text) : Prop := ∀ c ∈ t, c < 0x110000 ∧ isSurrogate c = false

instance (t : Text) : Decidable t.IsScalar := List.decidableBAll _ t

/-- The string with these characters, where there is one for every code point. -/
def toString? (t : Text) : Option String :=
  if t.any isSurrogate then none else some (String.ofList (t.map Char.ofNat))

/-- Whether a code point is one of the ten ASCII digits. -/
def isAsciiDigit (c : CodePoint) : Bool := 0x30 ≤ c && c ≤ 0x39

/-- Whether a code point is an ASCII letter. -/
def isAsciiLetter (c : CodePoint) : Bool := (0x41 ≤ c && c ≤ 0x5A) || (0x61 ≤ c && c ≤ 0x7A)

/-- The lower-case form of an ASCII capital; everything else is left alone. -/
def asciiLower (c : CodePoint) : CodePoint := if 0x41 ≤ c && c ≤ 0x5A then c + 0x20 else c

/-- The value of a hexadecimal digit in either case. -/
def hexValue? (c : CodePoint) : Option Nat :=
  if 0x30 ≤ c ∧ c ≤ 0x39 then some (c - 0x30)
  else if 0x61 ≤ c ∧ c ≤ 0x66 then some (c - 0x57)
  else if 0x41 ≤ c ∧ c ≤ 0x46 then some (c - 0x37)
  else none

/-- The lower-case hexadecimal digit of a number below sixteen. -/
def hexDigit (n : Nat) : CodePoint := if n < 10 then 0x30 + n else 0x57 + n

/-- The lowest `width` hexadecimal digits of a number, most significant first. -/
def hexDigits : Nat → Nat → Text
  | 0, _ => []
  | width + 1, n => hexDigits width (n / 16) ++ [hexDigit (n % 16)]

@[simp] theorem length_hexDigits (width n : Nat) : (hexDigits width n).length = width := by
  induction width generalizing n with
  | zero => rfl
  | succ width ih => simp [hexDigits, ih]

/-! ## Searching and cutting -/

/-- Whether a text begins with another. -/
def startsWith (t lead : Text) : Bool := lead.isPrefixOf t

/-- The text before the first occurrence of `sep` and the text after it, if it occurs. -/
def cut? (t sep : Text) : Option (Text × Text) :=
  match t with
  | [] => if sep.isEmpty then some ([], []) else none
  | c :: t =>
    if sep.isPrefixOf (c :: t) then some ([], (c :: t).drop sep.length)
    else (cut? t sep).map fun p ↦ (c :: p.1, p.2)

/-- Whether `part` occurs somewhere in a text. -/
def occursIn (part t : Text) : Bool := (t.cut? part).isSome

/-- The pieces of a text between the occurrences of one code point; there is always one piece. -/
def pieces (sep : CodePoint) : Text → List Text
  | [] => [[]]
  | c :: t =>
    if c = sep then [] :: pieces sep t
    else match pieces sep t with
      | [] => [[c]]
      | piece :: rest => (c :: piece) :: rest

theorem pieces_ne_nil (sep : CodePoint) (t : Text) : pieces sep t ≠ [] := by
  cases t with
  | nil => simp [pieces]
  | cons c t =>
    unfold pieces
    split
    · simp
    · split <;> simp

/-- Texts written one after the other with `sep` in between. -/
def join (sep : Text) (ts : List Text) : Text := sep.intercalate ts

/-- What is left after dropping code points from the right while `p` holds. -/
def dropRightWhile (p : CodePoint → Bool) (t : Text) : Text := (t.reverse.dropWhile p).reverse

/-! ## Replacement -/

/-- Replacement with `skip` code points of an occurrence still to be passed over. -/
def replaceFrom (old new : Text) : Nat → Text → Text
  | _, [] => []
  | skip + 1, _ :: t => replaceFrom old new skip t
  | 0, c :: t =>
    if old.isPrefixOf (c :: t) then new ++ replaceFrom old new (old.length - 1) t
    else c :: replaceFrom old new 0 t

/-- Every occurrence of `old` becomes `new`: occurrences are found from left to right, do not
overlap, and inserted text is not searched.  The text `old` is meant to be non-empty. -/
def replaceAll (t old new : Text) : Text := replaceFrom old new 0 t

@[simp] theorem replaceAll_nil (old new : Text) : replaceAll [] old new = [] := rfl

end Text

end ActorFacade
