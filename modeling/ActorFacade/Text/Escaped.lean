import ActorFacade.Text.Basic

/-! # String literals

`write` puts a text between double quotation marks in ASCII: control characters and everything
beyond `~` are escaped, code points beyond `0xFFFF` as two surrogates.  `readTail` reads the
literal back from behind its opening mark, joins escaped surrogate pairs and returns what follows.
-/

namespace ActorFacade.Escaped

/-! ## Writing -/

/-- The escape of one sixteen-bit unit. -/
def unit (n : Nat) : Text := 0x5C :: 0x75 :: Text.hexDigits 4 n

/-- How one code point is written. -/
def writeCodePoint (c : CodePoint) : Text :=
  if c = 0x22 then [0x5C, 0x22]
  else if c = 0x5C then [0x5C, 0x5C]
  else if c = 0x0A then [0x5C, 0x6E]
  else if c = 0x0D then [0x5C, 0x72]
  else if c = 0x09 then [0x5C, 0x74]
  else if c = 0x0C then [0x5C, 0x66]
  else if c = 0x08 then [0x5C, 0x62]
  else if 0x20 ≤ c && c ≤ 0x7E then [c]
  else if c < 0x10000 then unit c
  else unit (0xD800 + (c - 0x10000) / 0x400) ++ unit (0xDC00 + (c - 0x10000) % 0x400)

/-- The string literal of a text. -/
def write (t : Text) : Text := 0x22 :: t.flatMap writeCodePoint ++ [0x22]

/-! ## Reading -/

/-- Why a string literal cannot be read. -/
inductive Defect where
  | unterminated
  | controlCharacter
  | escape
  | unicodeEscape
deriving DecidableEq, Repr

/-- The wording of a defect. -/
def Defect.message : Defect → Text
  | .unterminated => "Unterminated string starting at"
  | .controlCharacter => "Invalid control character at"
  | .escape => "Invalid \\escape"
  | .unicodeEscape => "Invalid \\uXXXX escape"

/-- The number written by four hexadecimal digits. -/
def unitValue? (a b c d : CodePoint) : Option Nat := do
  let a ← Text.hexValue? a
  let b ← Text.hexValue? b
  let c ← Text.hexValue? c
  let d ← Text.hexValue? d
  return a * 0x1000 + b * 0x100 + c * 0x10 + d

/-- The character that a backslash and one more character stand for. -/
def simpleEscape? (c : CodePoint) : Option CodePoint :=
  if c = 0x22 || c = 0x5C || c = 0x2F then some c
  else if c = 0x62 then some 0x08
  else if c = 0x66 then some 0x0C
  else if c = 0x6E then some 0x0A
  else if c = 0x72 then some 0x0D
  else if c = 0x74 then some 0x09
  else none

/-- Whether a unit is the first half of a surrogate pair. -/
def isHigh (n : Nat) : Bool := 0xD800 ≤ n && n ≤ 0xDBFF

/-- Whether a unit is the second half of a surrogate pair. -/
def isLow (n : Nat) : Bool := 0xDC00 ≤ n && n ≤ 0xDFFF

/-- The code point of a surrogate pair. -/
def joinPair (high low : Nat) : CodePoint := 0x10000 + (high - 0xD800) * 0x400 + (low - 0xDC00)

/-- The second half of a surrogate pair, where an escape for one follows and is itself followed by
something; an escape that follows must be well formed. -/
def lowHalf? (t : Text) : Except Defect (Option Nat) :=
  match t with
  | 0x5C :: 0x75 :: a :: b :: c :: d :: _ :: _ =>
    match unitValue? a b c d with
    | none => .error .unicodeEscape
    | some n => .ok (if isLow n then some n else none)
  | _ => .ok none

/-- Reads from within a literal up to its closing mark, passing over `skip` code points that were
read already, and returns the text and what follows the mark. -/
def readFrom : Nat → Text → Except Defect (Text × Text)
  | _, [] => .error .unterminated
  | skip + 1, _ :: t => readFrom skip t
  | 0, c :: t =>
    if c = 0x22 then .ok ([], t)
    else if c = 0x5C then
      match t with
      | [] => .error .unterminated
      | e :: t =>
        if e = 0x75 then
          match t with
          | a :: b :: c :: d :: x :: t =>
            match unitValue? a b c d with
            | none => .error .unicodeEscape
            | some n =>
              match if isHigh n then lowHalf? (x :: t) else .ok none with
              | .error defect => .error defect
              | .ok (some low) => (readFrom 6 (x :: t)).map fun r ↦ (joinPair n low :: r.1, r.2)
              | .ok none => (readFrom 0 (x :: t)).map fun r ↦ (n :: r.1, r.2)
          | _ => .error .unicodeEscape
        else
          match simpleEscape? e with
          | none => .error .escape
          | some v => (readFrom 0 t).map fun r ↦ (v :: r.1, r.2)
    else if c ≤ 0x1F then .error .controlCharacter
    else (readFrom 0 t).map fun r ↦ (c :: r.1, r.2)

/-- Reads a literal from behind its opening mark. -/
def readTail (t : Text) : Except Defect (Text × Text) := readFrom 0 t

end ActorFacade.Escaped
