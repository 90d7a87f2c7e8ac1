import ActorFacade.Value.Basic
import ActorFacade.Text.Blank
import ActorFacade.Text.Escaped
import ActorFacade.Number.Integer

/-! # Tokens of literals

A literal is a sequence of tokens between blanks: values, brackets, commas and arrows.  Digits of
any script make numbers, and letter case does not matter in the six words.  A place where no token
begins yields a `bad` token, the last one; whether it matters which defect it has is up to the
reader.
-/

namespace ActorFacade.Literal

/-- What keeps text from being a value. -/
inductive Defect where
  /-- Nothing that a value can begin with. -/
  | unrecognised
  /-- A string literal that cannot be read. -/
  | string (d : Escaped.Defect)
  /-- An integer with too many digits. -/
  | limit (e : Integer.LimitError)
deriving DecidableEq, Repr

/-- The tokens of literals. -/
inductive Token where
  | value (v : Value)
  | opening
  | closing
  | comma
  | arrow
  | bad (d : Defect)
deriving DecidableEq, Repr

/-- A token and where it begins. -/
structure Lexeme where
  /-- The number of code points before the token. -/
  position : Nat
  /-- The token. -/
  token : Token
deriving DecidableEq, Repr

/-! ## Numbers -/

/-- The spelling of a number. -/
structure Numeral where
  /-- Whether there is a minus sign. -/
  negative : Bool
  /-- The digits before the point. -/
  whole : Text
  /-- The digits behind the point, if there is one. -/
  fraction : Option Text
  /-- The exponent with its mark and sign, if there is one. -/
  power : Option (CodePoint × Text × Text)
deriving DecidableEq, Repr

namespace Numeral

/-- The digits that a text begins with, if there are any. -/
def digits? (t : Text) : Option Text :=
  let ds := t.takeWhile Text.isDigit
  if ds.isEmpty then none else some ds

/-- A point and digits at the beginning of a text. -/
def fraction? : Text → Option Text
  | 0x2E :: t => digits? t
  | _ => none

/-- An exponent at the beginning of a text: its mark, its sign if there is one, its digits. -/
def power? : Text → Option (CodePoint × Text × Text)
  | mark :: t =>
    if mark = 0x65 || mark = 0x45 then
      match t with
      | sign :: t' =>
        if sign = 0x2B || sign = 0x2D then (digits? t').map fun ds ↦ (mark, [sign], ds)
        else (digits? t).map fun ds ↦ (mark, [], ds)
      | [] => none
    else none
  | [] => none

/-- The text of a fraction. -/
def fractionText : Option Text → Text
  | none => []
  | some ds => 0x2E :: ds

/-- The text of an exponent. -/
def powerText : Option (CodePoint × Text × Text) → Text
  | none => []
  | some (mark, sign, ds) => mark :: (sign ++ ds)

/-- The longest numeral that an unsigned text begins with. -/
def unsigned? (negative : Bool) (t : Text) : Option Numeral :=
  (digits? t).map fun whole ↦
    let t := t.drop whole.length
    let fraction := fraction? t
    let t := t.drop (fractionText fraction).length
    ⟨negative, whole, fraction, power? t⟩

/-- The longest numeral that a text begins with. -/
def read? : Text → Option Numeral
  | 0x2D :: t => unsigned? true t
  | t => unsigned? false t

/-- The text that a numeral was read from. -/
def text (n : Numeral) : Text :=
  (if n.negative then [0x2D] else []) ++ n.whole ++ fractionText n.fraction ++ powerText n.power

/-- The exponent of a numeral; without one it is zero. -/
def exponent (n : Numeral) : Int :=
  match n.power with
  | none => 0
  | some (_, sign, ds) =>
    if sign = [0x2D] then -(Text.digitsValue ds : Int) else Text.digitsValue ds

/-- The value of a numeral: an integer unless it has a point or an exponent. -/
def value (n : Numeral) : Except Integer.LimitError Value :=
  match n.fraction, n.power with
  | none, none => (Integer.read n.negative n.whole).map Value.int
  | fraction, _ =>
    let fraction := fraction.getD []
    .ok (.double (Double.ofDecimal n.negative (Text.digitsValue (n.whole ++ fraction))
      (n.exponent - fraction.length)))

end Numeral

/-! ## Words -/

/-- Whether a word can begin with a code point. -/
def isWordStart (c : CodePoint) : Bool := Text.isAsciiLetter c || c == 0x5F

/-- Whether a word can go on with a code point. -/
def isWordPart (c : CodePoint) : Bool := isWordStart c || Text.isAsciiDigit c

/-- The word that a text begins with, with a minus sign if there is one. -/
def word? : Text → Option Text
  | 0x2D :: c :: t => if isWordStart c then some (0x2D :: c :: t.takeWhile isWordPart) else none
  | c :: t => if isWordStart c then some (c :: t.takeWhile isWordPart) else none
  | [] => none

/-- The value that a word stands for, in any letter case. -/
def wordValue? (word : Text) : Option Value :=
  let name := word.map Text.asciiLower
  if name = Text.ofString "null" then some .null
  else if name = Text.ofString "true" then some (.bool true)
  else if name = Text.ofString "false" then some (.bool false)
  else if name = Text.ofString "nan" then some (.double .nan)
  else if name = Text.ofString "inf" then some (.double (.infinity false))
  else if name = Text.ofString "-inf" then some (.double (.infinity true))
  else none

/-! ## Tokens -/

/-- The token at the beginning of a non-empty text without leading blanks, and its length. -/
def token (c : CodePoint) (t : Text) : Token × Nat :=
  if c = 0x22 then
    match Escaped.readTail t with
    | .ok (v, rest) => (.value (.text v), t.length + 1 - rest.length)
    | .error d => (.bad (.string d), 1)
  else if c = 0x5B then (.opening, 1)
  else if c = 0x5D then (.closing, 1)
  else if c = 0x2C then (.comma, 1)
  else if c = 0x3D && t.head? == some 0x3E then (.arrow, 2)
  else match Numeral.read? (c :: t) with
    | some n =>
      match n.value with
      | .ok v => (.value v, n.text.length)
      | .error e => (.bad (.limit e), 1)
    | none =>
      match (word? (c :: t)).bind fun word ↦ (wordValue? word).map fun v ↦ (v, word.length) with
      | some (v, length) => (.value v, length)
      | none => (.bad .unrecognised, 1)

/-- The tokens of a text from a position on, with `skip` code points of a token to be passed over.
-/
def tokensFrom : Nat → Nat → Text → List Lexeme
  | _, _, [] => []
  | pos, skip + 1, _ :: t => tokensFrom (pos + 1) skip t
  | pos, 0, c :: t =>
    if Text.isBlank c then tokensFrom (pos + 1) 0 t
    else
      match token c t with
      | (.bad d, _) => [⟨pos, .bad d⟩]
      | (tok, length) => ⟨pos, tok⟩ :: tokensFrom (pos + 1) (length - 1) t

/-- The tokens of a text. -/
def tokens (t : Text) : List Lexeme := tokensFrom 0 0 t

end ActorFacade.Literal
