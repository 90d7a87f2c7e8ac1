import ActorFacade.Number.Double

/-! # Sums and products of binary numbers

The exact sum or product of two finite numbers is a quotient of integers, and the result is the
number nearest to it.  An exact zero keeps the sign that both operands agree on.
-/

namespace ActorFacade.Double

/-- An integer with the sign of a number. -/
def signed (negative : Bool) (n : Nat) : Int := if negative then -n else n

/-- The number nearest to an integer. -/
def ofInt (n : Int) : Double := ofRatio (n < 0) n.natAbs 1

/-- The sum of two numbers. -/
def add : Double → Double → Double
  | .nan, _ | _, .nan => .nan
  | .infinity s, .infinity t => if s = t then .infinity s else .nan
  | .infinity s, _ | _, .infinity s => .infinity s
  | .finite s m e, .finite t n f =>
    let (a, b) := ratio m e
    let (c, d) := ratio n f
    let sum := signed s (a * d) + signed t (c * b)
    if sum = 0 then zero (s && t) else ofRatio (sum < 0) sum.natAbs (b * d)

/-- The product of two numbers. -/
def mul : Double → Double → Double
  | .nan, _ | _, .nan => .nan
  | .infinity s, .infinity t => .infinity (s != t)
  | .infinity s, .finite t m _ | .finite t m _, .infinity s =>
    if m = 0 then .nan else .infinity (s != t)
  | .finite s m e, .finite t n f =>
    let (a, b) := ratio m e
    let (c, d) := ratio n f
    ofRatio (s != t) (a * c) (b * d)

/-- The number with the other sign. -/
def neg : Double → Double
  | .nan => .nan
  | .infinity s => .infinity !s
  | .finite s m e => .finite (!s) m e

@[simp] theorem neg_neg (x : Double) : x.neg.neg = x := by cases x <;> simp [neg]

example : add (ofInt 30) (mul (ofInt 1) (ofInt 60)) = ofInt 90 := by decide +kernel

end ActorFacade.Double
