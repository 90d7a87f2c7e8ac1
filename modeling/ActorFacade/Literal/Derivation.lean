import ActorFacade.Literal.Grammar

/-! # Derivations of literals

A derivation is a literal taken apart as the grammar does it, with every blank, mark and spelling.
It has the text that it derives and the value that this text denotes; integers may be of any length
here.  What does not belong to the grammar cannot be put together.
-/

namespace ActorFacade.Literal

/-! ## Scalars -/

/-- A row of blanks. -/
abbrev Blanks := { b : Text // IsBlanks b }

/-- The value that a numeral denotes. -/
def Numeral.amount (n : Numeral) : Value :=
  match n.fraction, n.power with
  | none, none =>
    let digits : Int := Text.digitsValue n.whole
    .int (if n.negative then -digits else digits)
  | fraction, _ =>
    let fraction := fraction.getD []
    .double (Double.ofDecimal n.negative (Text.digitsValue (n.whole ++ fraction))
      (n.exponent - fraction.length))

/-- A literal without parts. -/
inductive Scalar where
  | string (pieces : List Piece) (h : (Piece.values? pieces).isSome)
  | number (n : Numeral) (h : n.IsWellFormed)
  | word (spelling : Text) (h : (wordValue? spelling).isSome)

namespace Scalar

/-- A scalar as it is written. -/
def text : Scalar → Text
  | .string ps _ => 0x22 :: ps.flatMap Piece.text ++ [0x22]
  | .number n _ => n.text
  | .word t _ => t

/-- The value that a scalar denotes. -/
def value : Scalar → Value
  | .string ps h => .text ((Piece.values? ps).get h)
  | .number n _ => n.amount
  | .word t h => (wordValue? t).get h

end Scalar

/-! ## Parts -/

/-- The smallest parts that literals are made of. -/
inductive Part where
  | scalar (s : Scalar)
  | opening
  | closing
  | comma
  | arrow

namespace Part

/-- A part as it is written. -/
def text : Part → Text
  | .scalar s => s.text
  | .opening => [0x5B]
  | .closing => [0x5D]
  | .comma => [0x2C]
  | .arrow => [0x3D, 0x3E]

/-- The token that a part is. -/
def token : Part → Token
  | .scalar s => .value s.value
  | .opening => .opening
  | .closing => .closing
  | .comma => .comma
  | .arrow => .arrow

/-- Whether a part is a scalar. -/
def isScalar : Part → Bool
  | .scalar _ => true
  | _ => false

end Part

/-- Parts with the blanks in front of them. -/
abbrev Parts := List (Blanks × Part)

/-- The text of some parts. -/
def Parts.text (ps : Parts) : Text := ps.flatMap fun p ↦ p.1.1 ++ p.2.text

/-- The tokens of some parts. -/
def Parts.tokens (ps : Parts) : List Token := ps.map fun p ↦ p.2.token

/-! ## Trees -/

/-- What stands before a closing bracket behind entries, together with the bracket. -/
inductive Closing where
  | plain (b : Blanks)
  /-- Behind a comma. -/
  | comma (b c : Blanks)

mutual
/-- A literal with the blanks in front of it. -/
inductive Tree where
  | scalar (b : Blanks) (s : Scalar)
  /-- An array without entries. -/
  | empty (b c : Blanks)
  | array (b : Blanks) (first : Entry) (rest : Rest) (closing : Closing)

/-- An entry of an array. -/
inductive Entry where
  | unkeyed (t : Tree)
  /-- The key is no array. -/
  | keyed (b : Blanks) (key : Scalar) (c : Blanks) (value : Tree)

/-- The entries of an array behind the first one. -/
inductive Rest where
  | nil
  | more (b : Blanks) (e : Entry) (rest : Rest)
end

/-- The parts of the end of an array. -/
def Closing.parts : Closing → Parts
  | .plain b => [(b, .closing)]
  | .comma b c => [(b, .comma), (c, .closing)]

mutual
/-- The parts of a literal. -/
def Tree.parts : Tree → Parts
  | .scalar b s => [(b, .scalar s)]
  | .empty b c => [(b, .opening), (c, .closing)]
  | .array b first rest closing =>
    (b, .opening) :: (first.parts ++ (rest.parts ++ closing.parts))

/-- The parts of an entry. -/
def Entry.parts : Entry → Parts
  | .unkeyed t => t.parts
  | .keyed b key c value => (b, .scalar key) :: (c, .arrow) :: value.parts

/-- The parts of entries with the commas in front of them. -/
def Rest.parts : Rest → Parts
  | .nil => []
  | .more b e rest => (b, .comma) :: (e.parts ++ rest.parts)
end

mutual
/-- The value that a literal denotes. -/
def Tree.value : Tree → Value
  | .scalar _ s => s.value
  | .empty .. => .list []
  | .array _ first rest _ => arrayValue (first.item :: rest.items)

/-- What an entry adds to its array. -/
def Entry.item : Entry → Item
  | .unkeyed t => .unkeyed t.value
  | .keyed _ key _ value => .keyed key.value value.value

/-- What entries add to their array. -/
def Rest.items : Rest → List Item
  | .nil => []
  | .more _ e rest => e.item :: rest.items
end

/-! ## Derivations -/

/-- A text as a whole taken apart: a literal and the blanks behind it. -/
structure Derivation where
  /-- The literal. -/
  tree : Tree
  /-- The blanks behind it. -/
  blanks : Blanks

/-- The text that is taken apart. -/
def Derivation.text (d : Derivation) : Text := d.tree.parts.text ++ d.blanks.1

/-- The value that it denotes. -/
def Derivation.value (d : Derivation) : Value := d.tree.value

/-! ## Long integers -/

/-- Whether a token is an integer with more digits than are converted. -/
def Token.isTooLong : Token → Bool
  | .bad (.limit _) => true
  | _ => false

/-- No token of a text is an integer with more digits than are converted. -/
def HasShortIntegers (t : Text) : Prop := ∀ l ∈ tokens t, l.token.isTooLong = false

instance (t : Text) : Decidable (HasShortIntegers t) :=
  inferInstanceAs (Decidable (∀ l ∈ tokens t, l.token.isTooLong = false))

end ActorFacade.Literal
