import ActorFacade.Value.Basic

/-! # The order of sets

The members of a set are scattered over a table.  A member has a code, and its place is the code
modulo the size of the table, or, if that is taken, one of the places that follow or lie further
away.  A table that becomes too full is replaced by a larger one.  The order of the members is that
of their places, so it hangs on their codes and on the order in which they were added.

Numbers, and tuples of them, have codes by their values.  Other members have none that is known.
-/

namespace ActorFacade

-- Powers are the built-in ones.
attribute [local instance (high)] instPowNat

/-! ## Codes -/

namespace Value

/-- The prime number that the codes of numbers are taken modulo. -/
def codePrime : Nat := 2 ^ (61 : Nat) - 1

/-- The code of a number with a remainder modulo the prime.  No code is minus one. -/
def signedCode (negative : Bool) (remainder : Nat) : UInt64 :=
  let n : Int := if negative then -remainder else remainder
  .ofInt (if n = -1 then -2 else n)

/-- The code of a binary number; one that is an integer has the code of the integer. -/
def doubleCode? : Double → Option UInt64
  | .nan => none
  | .infinity negative => some (signedCode negative 314159)
  | .finite negative m e => some (signedCode negative (m * 2 ^ (e % 61).toNat % codePrime))

/-- The code of an atom, if it is a number. -/
def atomCode? : Atom → Option UInt64
  | .bool b => some (if b then 1 else 0)
  | .int n | .intMember n => some (signedCode (n < 0) (n.natAbs % codePrime))
  | .double x | .doubleMember x => doubleCode? x
  | _ => none

/-- The code of a tuple whose members have some codes. -/
def tupleCode (codes : List UInt64) : UInt64 :=
  let start : UInt64 := 2870177450012600261
  let mixed := codes.foldl (fun (acc code : UInt64) ↦
    let acc := acc + code * 14029467366897019727
    (acc <<< 31 ||| acc >>> 33) * 11400714785074694791) start
  let sum := mixed + (UInt64.ofNat codes.length ^^^ (start ^^^ 3527539))
  if sum = -1 then 1546275796 else sum

mutual
/-- The code of a member of a set. -/
def code? : Value → Option UInt64
  | .atom a => atomCode? a
  | .tuple xs => (codes? xs).map tupleCode
  | _ => none

/-- The codes of some values. -/
def codes? : List Value → Option (List UInt64)
  | [] => some []
  | x :: xs => do return (← code? x) :: (← codes? xs)
end

end Value

/-! ## Tables -/

/-- A table of members with their codes. -/
abbrev Scattered (α : Type) := Array (Option (UInt64 × α))

namespace Scattered

variable {α : Type}

/-- A table without members. -/
def ofSize (n : Nat) : Scattered α := Array.replicate n none

/-- A table without members for more than so many; its size is a power of two, at least eight. -/
def forMoreThan (n : Nat) : Scattered α := ofSize (max 8 (2 ^ (n.log2 + 1)))

/-- The number of places behind a place that are tried with it, if the table has them. -/
def reach : Nat := 9

/-- The first place that is free: from a place on, or further away.  `far` says how far, and the
number bounds the steps. -/
def freePlace (t : Scattered α) : Nat → UInt64 → Nat → Nat
  | 0, _, i => i
  | steps + 1, far, i =>
    let near := List.range (if i + reach < t.size then reach + 1 else 1)
    match near.find? fun j ↦ (t.getD (i + j) none).isNone with
    | some j => i + j
    | none =>
      let far := far >>> 5
      freePlace t steps far ((5 * i + 1 + far.toNat) % t.size)

/-- Puts a member into a table that has room for it. -/
def put (t : Scattered α) (m : UInt64 × α) : Scattered α :=
  t.setIfInBounds (t.freePlace (t.size + 16) m.1 (m.1.toNat % t.size)) (some m)

/-- The members in the order of their places. -/
def members (t : Scattered α) : List (UInt64 × α) := t.toList.filterMap id

/-- The same members in a table for more than so many. -/
def resize (t : Scattered α) (n : Nat) : Scattered α := t.members.foldl put (forMoreThan n)

/-- Whether a table with so many members is too full. -/
def isFull (t : Scattered α) (used : Nat) : Bool := 3 * (t.size - 1) ≤ 5 * used

/-- Adds a member; `used` is the number of members with it. -/
def add (t : Scattered α) (used : Nat) (m : UInt64 × α) : Scattered α :=
  let t := t.put m
  if t.isFull used then t.resize (if 50000 < used then 2 * used else 4 * used) else t

/-- Adds some members, one after the other; `used` is the number of those before them. -/
def addAll (t : Scattered α) (used : Nat) : List (UInt64 × α) → Scattered α
  | [] => t
  | m :: ms => (t.add (used + 1) m).addAll (used + 1) ms

/-- Some different members in the order of their places.  If they come together, there is room for
them from the beginning. -/
def order (together : Bool) (ms : List (UInt64 × α)) : List α :=
  let empty : Scattered α := ofSize 8
  let t := if together && empty.isFull ms.length then forMoreThan (2 * ms.length) else empty
  (t.addAll 0 ms).members.map (·.2)

end Scattered

end ActorFacade
