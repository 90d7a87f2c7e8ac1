import ActorFacade.Text.DecimalDigit

/-! # Decimal text of integers

Converting between integers and decimal text is limited to `maxDigits` digits in both directions, so
that no input makes the conversion expensive.
-/

namespace ActorFacade.Integer

-- Powers are the built-in ones.
attribute [local instance (high)] instPowNat

/-- The number of digits beyond which a conversion is refused. -/
def maxDigits : Nat := 4300

/-- A refused conversion. -/
inductive LimitError where
  /-- An integer has too many digits to be written. -/
  | write
  /-- A text has too many digits to be read. -/
  | read (digits : Nat)
deriving DecidableEq, Repr

/-- The wording of a refused conversion. -/
def LimitError.message : LimitError → Text
  | .write =>
    "Exceeds the limit (4300 digits) for integer string conversion; " ++
      "use sys.set_int_max_str_digits() to increase the limit"
  | .read digits =>
    "Exceeds the limit (4300 digits) for integer string conversion: value has " ++
      Text.ofNat digits ++ " digits; use sys.set_int_max_str_digits() to increase the limit"

/-- Whether an integer has too many digits to be written. -/
def isTooLong (n : Int) : Bool := 10 ^ maxDigits ≤ n.natAbs

/-- The decimal text of an integer. -/
def write (n : Int) : Except LimitError Text :=
  if isTooLong n then .error .write else .ok (Text.ofInt n)

/-- The number written by a row of decimal digits with a sign. -/
def read (negative : Bool) (digits : Text) : Except LimitError Int :=
  if maxDigits < digits.length then .error (.read digits.length)
  else
    let n : Int := Text.digitsValue digits
    .ok (if negative then -n else n)

end ActorFacade.Integer
