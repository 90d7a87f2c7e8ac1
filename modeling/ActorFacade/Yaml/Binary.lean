import ActorFacade.Text.Basic

/-! # Bytes written in letters

Bytes are written in letters of an alphabet of 64, four for every three bytes.  A group that is not
full is followed by equals signs; they end the text.  Everything else between the letters counts for
nothing.
-/

namespace ActorFacade.Yaml.Binary

/-- The value of a letter of the alphabet. -/
def letterValue? (c : CodePoint) : Option Nat :=
  if 0x41 ≤ c && c ≤ 0x5A then some (c - 0x41)
  else if 0x61 ≤ c && c ≤ 0x7A then some (c - 0x61 + 26)
  else if 0x30 ≤ c && c ≤ 0x39 then some (c - 0x30 + 52)
  else if c = 0x2B then some 62
  else if c = 0x2F then some 63
  else none

/-- The values of the letters of a text, unless its last group is neither full nor followed by
enough equals signs; `placed` letters of the group and `signs` equals signs stand in front. -/
def letters? (placed signs : Nat) : Text → Option (List Nat)
  | [] => if placed = 0 then some [] else none
  | c :: t =>
    if c = 0x3D then
      if placed < 2 then letters? placed signs t
      else if 3 ≤ placed + signs then some []
      else letters? placed (signs + 1) t
    else match letterValue? c with
      | some n => (letters? ((placed + 1) % 4) 0 t).map (n :: ·)
      | none => letters? placed signs t

/-- The bytes of letters. -/
def bytesOf : List Nat → List UInt8
  | a :: b :: c :: d :: rest =>
    (a * 4 + b / 16).toUInt8 :: (b % 16 * 16 + c / 4).toUInt8 :: (c % 4 * 64 + d).toUInt8 ::
      bytesOf rest
  | [a, b, c] => [(a * 4 + b / 16).toUInt8, (b % 16 * 16 + c / 4).toUInt8]
  | [a, b] => [(a * 4 + b / 16).toUInt8]
  | _ => []

/-- The bytes of a text, which must be ASCII. -/
def read? (t : Text) : Option (List UInt8) :=
  if t.all (· < 0x80) then (letters? 0 0 t).map bytesOf else none

example : read? "aGk=" = some [0x68, 0x69] := by decide

end ActorFacade.Yaml.Binary
