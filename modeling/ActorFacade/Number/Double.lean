import ActorFacade.Text.DecimalDigit
import ActorFacade.Text.Blank

/-! # Binary floating point numbers

A `Double` is a number of the binary64 format, given by sign, mantissa and exponent so that all
statements about it are statements about natural numbers and integers.  `ofRatio` rounds an exact
quotient to the nearest such number, ties to the even mantissa; `ofDecimal` and `ofText?` read
decimals through it.
-/

namespace ActorFacade

-- Powers are the built-in ones.
attribute [local instance (high)] instPowNat

/-- A binary64 number; `finite negative m e` is `m * 2 ^ e` with its sign. -/
inductive Double where
  | nan
  | infinity (negative : Bool)
  | finite (negative : Bool) (mantissa : Nat) (exponent : Int)
deriving DecidableEq, Repr, Inhabited

namespace Double

/-- The numbers that the format has: a mantissa below `2 ^ 53` that is at least `2 ^ 52` unless the
exponent is the least one, and a bounded exponent. -/
def IsCanonical : Double → Prop
  | .finite _ m e => m < 2 ^ (53 : Nat) ∧ -1074 ≤ e ∧ e ≤ 971 ∧ (2 ^ (52 : Nat) ≤ m ∨ e = -1074)
  | _ => True

instance : DecidablePred IsCanonical := fun x ↦ by
  cases x <;> unfold IsCanonical <;> infer_instance

/-- Zero with a sign. -/
def zero (negative : Bool) : Double := .finite negative 0 (-1074)

/-- Whether a number is no number. -/
def isNaN (x : Double) : Bool := x == .nan

/-- Whether a number is zero of either sign. -/
def isZero : Double → Bool
  | .finite _ m _ => m == 0
  | _ => false

/-! ## Rounding a quotient -/

/-- The value `m * 2 ^ e` as a quotient. -/
def ratio (m : Nat) (e : Int) : Nat × Nat :=
  if 0 ≤ e then (m * 2 ^ e.toNat, 1) else (m, 2 ^ (-e).toNat)

/-- The quotient `num / den` divided by `2 ^ e`, again as a quotient. -/
def scaleDown (num den : Nat) (e : Int) : Nat × Nat :=
  if 0 ≤ e then (num, den * 2 ^ e.toNat) else (num * 2 ^ (-e).toNat, den)

/-- The natural number nearest to `num / den`; a tie goes to the even one. -/
def roundHalfEven (num den : Nat) : Nat :=
  let q := num / den
  let r := num % den
  if 2 * r < den then q
  else if den < 2 * r then q + 1
  else if q % 2 = 0 then q else q + 1

/-- The binary exponent at which `num / den` has 53 binary digits, but never below `-1074`. -/
def exponentFor (num den : Nat) : Int :=
  let guess : Int := max (-1074) ((num.log2 : Int) - den.log2 - 53)
  let scaled := scaleDown num den guess
  if 2 ^ (53 : Nat) ≤ scaled.1 / scaled.2 then guess + 1 else guess

/-- The number nearest to `num / den`, ties to even; quotients out of range become infinite. -/
def ofRatio (negative : Bool) (num den : Nat) : Double :=
  if num = 0 then zero negative
  else
    let e := exponentFor num den
    let scaled := scaleDown num den e
    let m := roundHalfEven scaled.1 scaled.2
    let rounded : Nat × Int := if m = 2 ^ (53 : Nat) then (2 ^ (52 : Nat), e + 1) else (m, e)
    if 971 < rounded.2 then .infinity negative else .finite negative rounded.1 rounded.2

/-! ## Reading decimals -/

/-- The number of decimal digits of a natural number; zero has one. -/
def decimalLength (n : Nat) : Nat := (Nat.toDigits 10 n).length

/-- The number nearest to `digits * 10 ^ exponent`.  Where the exponent alone decides that the
result is infinite or zero, no power is computed. -/
def ofDecimal (negative : Bool) (digits : Nat) (exponent : Int) : Double :=
  if digits = 0 then zero negative
  else if 310 < (decimalLength digits : Int) + exponent then .infinity negative
  else if (decimalLength digits : Int) + exponent < -330 then zero negative
  else if 0 ≤ exponent then ofRatio negative (digits * 10 ^ exponent.toNat) 1
  else ofRatio negative digits (10 ^ (-exponent).toNat)

/-- The value of an exponent such as `+05`, if it is one. -/
def exponentValue? (t : Text) : Option Int :=
  let value (t : Text) : Option Int :=
    if !t.isEmpty && t.all Text.isDigit then some (Text.digitsValue t) else none
  match t with
  | 0x2B :: t => value t
  | 0x2D :: t => (value t).map (- ·)
  | t => value t

/-- Reads digits with an optional point among them, scaled by a power of ten. -/
def ofDigits? (negative : Bool) (t : Text) (exponent : Int) : Option Double :=
  let whole := t.takeWhile Text.isDigit
  match t.dropWhile Text.isDigit with
  | [] =>
    if whole.isEmpty then none else some (ofDecimal negative (Text.digitsValue whole) exponent)
  | 0x2E :: fraction =>
    if fraction.all Text.isDigit && !(whole.isEmpty && fraction.isEmpty) then
      some (ofDecimal negative (Text.digitsValue (whole ++ fraction)) (exponent - fraction.length))
    else none
  | _ => none

/-- Whether every underscore stands between two digits. -/
def underscoresAreInner : Text → Bool
  | a :: 0x5F :: b :: t =>
    Text.isDigit a && Text.isDigit b && underscoresAreInner (b :: t)
  | [_, 0x5F] => false
  | 0x5F :: _ => false
  | _ :: t => underscoresAreInner t
  | [] => true

/-- Reads an unsigned number. -/
def ofUnsigned? (negative : Bool) (t : Text) : Option Double :=
  let name := t.map Text.asciiLower
  if name = Text.ofString "nan" then some .nan
  else if name = Text.ofString "inf" || name = Text.ofString "infinity" then
    some (.infinity negative)
  else if !underscoresAreInner t then none
  else
    let t := t.filter (· != 0x5F)
    let isMark (c : CodePoint) : Bool := c == 0x65 || c == 0x45
    match t.dropWhile (!isMark ·) with
    | [] => ofDigits? negative t 0
    | _ :: power =>
      (exponentValue? power).bind (ofDigits? negative (t.takeWhile (!isMark ·)) ·)

/-- Reads a number: blanks around it, a sign, `nan`, `inf` or `infinity` in any case, decimal digits
of any script with single underscores between them, a point, an exponent. -/
def ofText? (t : Text) : Option Double :=
  match t.trimNumber with
  | 0x2B :: t => ofUnsigned? false t
  | 0x2D :: t => ofUnsigned? true t
  | t => ofUnsigned? false t

/-! ## Comparing by value -/

/-- Whether two numbers are equal as numbers: zeros are, and nothing is equal to what is no
number. -/
def sameNumber : Double → Double → Bool
  | .finite s m e, .finite s' m' e' => (m == 0 && m' == 0) || (s == s' && m == m' && e == e')
  | .infinity s, .infinity s' => s == s'
  | _, _ => false

/-- Whether a number is a given integer. -/
def isInteger (x : Double) (n : Int) : Bool :=
  match x with
  | .finite negative m e =>
    (m == 0 && n == 0) ||
      (negative == decide (n < 0) &&
        if 0 ≤ e then m * 2 ^ e.toNat == n.natAbs else m == n.natAbs * 2 ^ (-e).toNat)
  | _ => false

end Double

end ActorFacade
