import ActorFacade.Number.Double

/-! # Shortest decimals

The decimal of a binary number has the fewest digits that read back as the number, and of these the
ones nearest to it; a tie goes to the even digit.  The search tries one digit, two digits and so on
and checks each candidate by reading it, so that what is written reads back by construction.  How
the decimal is laid out is a `DecimalLayout`.
-/

namespace ActorFacade

-- Powers are the built-in ones.
attribute [local instance (high)] instPowNat

/-- The number `digits * 10 ^ exponent`. -/
structure Decimal where
  /-- All digits as one natural number. -/
  digits : Nat
  /-- The power of ten of the last digit. -/
  exponent : Int
deriving DecidableEq, Repr

namespace Decimal

/-- The binary number nearest to a decimal. -/
def toDouble (negative : Bool) (d : Decimal) : Double :=
  Double.ofDecimal negative d.digits d.exponent

/-- Moves trailing zeros into the exponent, at most `n` of them. -/
def dropZeros : Nat → Decimal → Decimal
  | 0, d => d
  | n + 1, d =>
    if d.digits % 10 = 0 then dropZeros n ⟨d.digits / 10, d.exponent + 1⟩ else d

end Decimal

namespace Double

/-- The value `m * 2 ^ e` as a decimal with all its digits. -/
def exactDecimal (m : Nat) (e : Int) : Decimal :=
  if 0 ≤ e then ⟨m * 2 ^ e.toNat, 0⟩ else ⟨m * 5 ^ (-e).toNat, e⟩

/-- The number of digits before the decimal point of `num / den`; negative when zeros follow the
point.  Scaling by `10 ^ 400` makes every positive number of the format exceed one. -/
def magnitude (num den : Nat) : Int := (decimalLength (num * 10 ^ (400 : Nat) / den) : Int) - 400

/-- The two neighbours of `num / den` among the multiples of `10 ^ k`, the nearer one first. -/
def neighbours (num den : Nat) (k : Int) : List Decimal :=
  let den' := if 0 ≤ k then den * 10 ^ k.toNat else den
  let num' := if 0 ≤ k then num else num * 10 ^ (-k).toNat
  let q := num' / den'
  let r := num' % den'
  if 2 * r < den' || (2 * r == den' && q % 2 == 0) then [⟨q, k⟩, ⟨q + 1, k⟩]
  else [⟨q + 1, k⟩, ⟨q, k⟩]

/-- The decimal with `n` digits that reads back as `m * 2 ^ e`, if there is one. -/
def withDigits? (m : Nat) (e : Int) (n : Nat) : Option Decimal :=
  let (num, den) := ratio m e
  (neighbours num den (magnitude num den - n)).find? fun d ↦
    d.toDouble false == .finite false m e

/-- The shortest decimal of `m * 2 ^ e`; seventeen digits are always enough. -/
def shortest (m : Nat) (e : Int) : Decimal :=
  let found := (List.range 17).findSome? fun i ↦ withDigits? m e (i + 1)
  (found.getD (exactDecimal m e)).dropZeros 17

end Double

/-! ## Layout -/

/-- How a decimal is written. -/
structure DecimalLayout where
  /-- The least power of ten of the first digit that is written without an exponent. -/
  positionalFrom : Int
  /-- The least power of ten of the first digit, above that, that is written with an exponent. -/
  positionalBelow : Int
  /-- The least number of digits of an exponent. -/
  exponentWidth : Nat
deriving DecidableEq, Repr

namespace DecimalLayout

/-- A row of zeros. -/
def zeros (n : Nat) : Text := List.replicate n 0x30

/-- An exponent with its sign and at least the given number of digits. -/
def exponentText (width : Nat) (n : Int) : Text :=
  let digits := Text.ofNat n.natAbs
  (if n < 0 then 0x2D else 0x2B) :: (zeros (width - digits.length) ++ digits)

/-- Writes a decimal: positionally with at least one digit on either side of the point, or as a
first digit, the other digits behind a point, and an exponent. -/
def write (layout : DecimalLayout) (d : Decimal) : Text :=
  let digits := Text.ofNat d.digits
  let lead : Int := (digits.length : Int) - 1 + d.exponent
  if layout.positionalFrom ≤ lead ∧ lead < layout.positionalBelow then
    if 0 ≤ d.exponent then digits ++ zeros d.exponent.toNat ++ ".0"
    else if 0 ≤ lead then
      digits.take (lead.toNat + 1) ++ 0x2E :: digits.drop (lead.toNat + 1)
    else "0." ++ zeros (-lead - 1).toNat ++ digits
  else
    let tail := digits.drop 1
    digits.take 1 ++ (if tail.isEmpty then [] else 0x2E :: tail) ++
      0x65 :: exponentText layout.exponentWidth lead

end DecimalLayout

namespace Double

/-- Numbers are written positionally from `0.0001` up to below `10 ^ 16`, and exponents have at
least two digits. -/
def layout : DecimalLayout := ⟨-4, 16, 2⟩

/-- The text of a finite number. -/
def finiteText (negative : Bool) (m : Nat) (e : Int) : Text :=
  (if negative then [0x2D] else []) ++
    (if m = 0 then Text.ofString "0.0" else layout.write (shortest m e))

/-- The text of a number. -/
def toText : Double → Text
  | .nan => "nan"
  | .infinity false => "inf"
  | .infinity true => "-inf"
  | .finite negative m e => finiteText negative m e

end Double

end ActorFacade
