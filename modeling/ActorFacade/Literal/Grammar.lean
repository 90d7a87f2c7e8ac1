import ActorFacade.Literal.Reader

/-! # The grammar of literals

What the literals are, said without a reader: `Denotes t v` holds when the text `t` is a literal of
the value `v`.  Blanks may stand before every value, comma, arrow and bracket.  String literals are
rows of pieces, of which two escaped halves of a surrogate pair count as one code point.
-/

namespace ActorFacade.Literal

/-! ## Strings -/

/-- A piece of a string literal. -/
inductive Piece where
  /-- A character that stands for itself. -/
  | plain (c : CodePoint)
  /-- A character behind a backslash. -/
  | short (c : CodePoint)
  /-- Four hexadecimal digits behind a backslash and a `u`. -/
  | unit (a b c d : CodePoint)
deriving DecidableEq, Repr

namespace Piece

/-- A piece as it is written. -/
def text : Piece → Text
  | .plain c => [c]
  | .short c => [0x5C, c]
  | .unit a b c d => [0x5C, 0x75, a, b, c, d]

/-- The code point or half of a pair that a piece stands for, if it is well formed. -/
def value? : Piece → Option CodePoint
  | .plain c => if c ≤ 0x1F || c == 0x22 || c == 0x5C then none else some c
  | .short c => Escaped.simpleEscape? c
  | .unit a b c d => Escaped.unitValue? a b c d

/-- Whether a piece is four hexadecimal digits. -/
def isUnit : Piece → Bool
  | .unit .. => true
  | _ => false

/-- The text that well-formed pieces stand for: two halves of a pair that are both written by digits
are joined. -/
def values? : List Piece → Option Text
  | [] => some []
  | [p] => do return [← p.value?]
  | p :: q :: ps => do
    let m ← p.value?
    let n ← q.value?
    if p.isUnit && q.isUnit && Escaped.isHigh m && Escaped.isLow n then
      return Escaped.joinPair m n :: (← values? ps)
    else return m :: (← values? (q :: ps))

end Piece

/-- A string literal and the text that it stands for. -/
def IsString (t v : Text) : Prop :=
  ∃ ps : List Piece, t = 0x22 :: ps.flatMap Piece.text ++ [0x22] ∧ Piece.values? ps = some v

/-! ## Numbers and words -/

/-- A row of decimal digits of any script. -/
def IsDigits (t : Text) : Prop := t ≠ [] ∧ ∀ c ∈ t, Text.isDigit c = true

/-- A numeral whose parts are what they should be. -/
def Numeral.IsWellFormed (n : Numeral) : Prop :=
  IsDigits n.whole ∧ (∀ ds, n.fraction = some ds → IsDigits ds) ∧
    ∀ mark sign ds, n.power = some (mark, sign, ds) →
      (mark = 0x65 ∨ mark = 0x45) ∧ (sign = [] ∨ sign = [0x2B] ∨ sign = [0x2D]) ∧ IsDigits ds

/-- A number and its value. -/
def IsNumber (t : Text) (v : Value) : Prop :=
  ∃ n : Numeral, n.IsWellFormed ∧ t = n.text ∧ n.value = .ok v

/-- A word in any letter case and its value. -/
def IsWord (t : Text) (v : Value) : Prop := wordValue? t = some v

/-! ## Values -/

/-- A row of blanks. -/
def IsBlanks (t : Text) : Prop := t.isAllBlank = true

/-- A literal without parts and its value. -/
inductive IsScalar : Text → Value → Prop where
  | string {t v : Text} (h : IsString t v) : IsScalar t (.text v)
  | number {t : Text} {v : Value} (h : IsNumber t v) : IsScalar t v
  | word {t : Text} {v : Value} (h : IsWord t v) : IsScalar t v

/-- What may stand before a closing bracket behind entries. -/
inductive IsClosing : Text → Prop where
  | blanks {b : Text} (h : IsBlanks b) : IsClosing b
  | comma {b c : Text} (hb : IsBlanks b) (hc : IsBlanks c) : IsClosing (b ++ 0x2C :: c)

mutual
/-- A text, perhaps with blanks in front, is a literal of a value. -/
inductive Denotes : Text → Value → Prop where
  | scalar {b t : Text} {v : Value} (hb : IsBlanks b) (ht : IsScalar t v) : Denotes (b ++ t) v
  | empty {b c : Text} (hb : IsBlanks b) (hc : IsBlanks c) :
      Denotes (b ++ 0x5B :: c ++ [0x5D]) (.list [])
  | array {b t c : Text} {items : List Item} (hb : IsBlanks b) (ht : DenotesItems t items)
      (hc : IsClosing c) : Denotes (b ++ 0x5B :: t ++ c ++ [0x5D]) (arrayValue items)

/-- A text is an entry of an array. -/
inductive DenotesItem : Text → Item → Prop where
  | unkeyed {t : Text} {v : Value} (h : Denotes t v) : DenotesItem t (.unkeyed v)
  | keyed {t b u : Text} {k : Atom} {v : Value} (hk : Denotes t (.atom k)) (hb : IsBlanks b)
      (hv : Denotes u v) : DenotesItem (t ++ b ++ 0x3D :: 0x3E :: u) (.keyed (.atom k) v)

/-- A text is a row of entries with commas in between. -/
inductive DenotesItems : Text → List Item → Prop where
  | one {t : Text} {item : Item} (h : DenotesItem t item) : DenotesItems t [item]
  | more {t b u : Text} {items : List Item} {item : Item} (ht : DenotesItems t items)
      (hb : IsBlanks b) (hu : DenotesItem u item) :
      DenotesItems (t ++ b ++ 0x2C :: u) (items ++ [item])
end

/-- A text as a whole is a literal of a value: blanks may follow it. -/
def IsLiteral (t : Text) (v : Value) : Prop :=
  ∃ s b : Text, t = s ++ b ∧ Denotes s v ∧ IsBlanks b

end ActorFacade.Literal
