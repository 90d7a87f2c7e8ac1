import ActorFacade.Text.Lines

/-! # UTF-8

`encode` writes a text as bytes and refuses surrogates; `decode` reads bytes and refuses every
sequence that is not the shortest form of a scalar value.  An error names the offending positions.
Decoding can also proceed piece by piece: an unfinished sequence at the end of a piece is then left
for the next one, which is how a first line is read from a file.
-/

namespace ActorFacade.Utf8

/-! ## Writing -/

/-- Why a text has no bytes: code points `first` to `last` (inclusive) are surrogates. -/
structure EncodeError where
  /-- The first surrogate. -/
  codePoint : CodePoint
  /-- Its position. -/
  first : Nat
  /-- The position of the last surrogate of the run. -/
  last : Nat
deriving DecidableEq, Repr

/-- The wording of an encoding error. -/
def EncodeError.message (e : EncodeError) : Text :=
  if e.first = e.last then
    "'utf-8' codec can't encode character '\\u" ++ Text.hexDigits 4 e.codePoint ++
      "' in position " ++ Text.ofNat e.first ++ ": surrogates not allowed"
  else
    "'utf-8' codec can't encode characters in position " ++ Text.ofNat e.first ++ "-" ++
      Text.ofNat e.last ++ ": surrogates not allowed"

/-- The bytes of one code point. -/
def bytesOf (c : CodePoint) : List UInt8 :=
  if c < 0x80 then [c.toUInt8]
  else if c < 0x800 then [(0xC0 + c / 0x40).toUInt8, (0x80 + c % 0x40).toUInt8]
  else if c < 0x10000 then
    [(0xE0 + c / 0x1000).toUInt8, (0x80 + c / 0x40 % 0x40).toUInt8, (0x80 + c % 0x40).toUInt8]
  else
    [(0xF0 + c / 0x40000).toUInt8, (0x80 + c / 0x1000 % 0x40).toUInt8,
      (0x80 + c / 0x40 % 0x40).toUInt8, (0x80 + c % 0x40).toUInt8]

/-- The bytes of a text that starts at a given position of a larger one. -/
def encodeFrom : Nat → Text → Except EncodeError (List UInt8)
  | _, [] => .ok []
  | pos, c :: t =>
    if Text.isSurrogate c then
      .error ⟨c, pos, pos + (t.takeWhile Text.isSurrogate).length⟩
    else (encodeFrom (pos + 1) t).map (bytesOf c ++ ·)

/-- The bytes of a text. -/
def encode (t : Text) : Except EncodeError (List UInt8) := encodeFrom 0 t

/-- The code point that is shown where one cannot be read. -/
def replacement : CodePoint := 0xFFFD

/-- As much of a text as its first `limit` bytes show.  A code point that they cut in two is shown
as the replacement. -/
def clip : Nat → Text → Text
  | _, [] => []
  | limit, c :: t =>
    if limit = 0 then []
    else if (bytesOf c).length ≤ limit then c :: clip (limit - (bytesOf c).length) t
    else [replacement]

@[simp] theorem clip_zero (t : Text) : clip 0 t = [] := by cases t <;> simp [clip]

/-! ## Reading -/

/-- What is wrong with a sequence of bytes. -/
inductive Defect where
  | invalidStart
  | invalidContinuation
  | unexpectedEnd
deriving DecidableEq, Repr

/-- The wording of a defect. -/
def Defect.message : Defect → Text
  | .invalidStart => "invalid start byte"
  | .invalidContinuation => "invalid continuation byte"
  | .unexpectedEnd => "unexpected end of data"

/-- Why bytes are no text: `length` bytes from `position` on have a defect. -/
structure DecodeError where
  /-- The first byte of the sequence. -/
  byte : UInt8
  /-- Its position. -/
  position : Nat
  /-- The number of bytes that are refused. -/
  length : Nat
  /-- What is wrong with them. -/
  defect : Defect
deriving DecidableEq, Repr

/-- The wording of a decoding error. -/
def DecodeError.message (e : DecodeError) : Text :=
  if e.length = 1 then
    "'utf-8' codec can't decode byte 0x" ++ Text.hexDigits 2 e.byte.toNat ++ " in position " ++
      Text.ofNat e.position ++ ": " ++ e.defect.message
  else
    "'utf-8' codec can't decode bytes in position " ++ Text.ofNat e.position ++ "-" ++
      Text.ofNat (e.position + e.length - 1) ++ ": " ++ e.defect.message

/-- One step of decoding at a non-empty rest. -/
inductive Step where
  /-- A code point that takes `length` bytes. -/
  | codePoint (c : CodePoint) (length : Nat)
  /-- The bytes end within a sequence that is valid so far. -/
  | unfinished
  /-- The first `length` bytes are refused. -/
  | refused (length : Nat) (defect : Defect)
deriving DecidableEq, Repr

/-- Whether a byte continues a sequence. -/
def isContinuation (b : UInt8) : Bool := 0x80 ≤ b && b ≤ 0xBF

/-- Whether `second` may follow the leading byte `lead` of three or four: the bounds exclude
overlong forms, surrogates and numbers out of range. -/
def isSecond (lead second : UInt8) : Bool :=
  isContinuation second && (lead != 0xE0 || 0xA0 ≤ second) && (lead != 0xED || second < 0xA0) &&
    (lead != 0xF0 || 0x90 ≤ second) && (lead != 0xF4 || second < 0x90)

/-- The low six bits of a continuation byte. -/
def low (b : UInt8) : Nat := b.toNat - 0x80

/-- Decodes what begins with the byte `lead`. -/
def step (lead : UInt8) (rest : List UInt8) : Step :=
  if lead < 0x80 then .codePoint lead.toNat 1
  else if lead < 0xC2 then .refused 1 .invalidStart
  else if lead < 0xE0 then
    match rest with
    | [] => .unfinished
    | b :: _ =>
      if isContinuation b then .codePoint ((lead.toNat - 0xC0) * 0x40 + low b) 2
      else .refused 1 .invalidContinuation
  else if lead < 0xF0 then
    match rest with
    | [] => .unfinished
    | b :: rest =>
      if !isSecond lead b then .refused 1 .invalidContinuation
      else match rest with
        | [] => .unfinished
        | c :: _ =>
          if isContinuation c then
            .codePoint ((lead.toNat - 0xE0) * 0x1000 + low b * 0x40 + low c) 3
          else .refused 2 .invalidContinuation
  else if lead < 0xF5 then
    match rest with
    | [] => .unfinished
    | b :: rest =>
      if !isSecond lead b then .refused 1 .invalidContinuation
      else match rest with
        | [] => .unfinished
        | c :: rest =>
          if !isContinuation c then .refused 2 .invalidContinuation
          else match rest with
            | [] => .unfinished
            | d :: _ =>
              if isContinuation d then
                .codePoint
                  ((lead.toNat - 0xF0) * 0x40000 + low b * 0x1000 + low c * 0x40 + low d) 4
              else .refused 3 .invalidContinuation
  else .refused 1 .invalidStart

/-- Decodes from a position on, passing over `skip` bytes of a sequence already read.  The result
has the text and the bytes of an unfinished sequence at the end. -/
def decodeFrom : Nat → Nat → List UInt8 → Except DecodeError (Text × List UInt8)
  | _, _, [] => .ok ([], [])
  | pos, skip + 1, _ :: rest => decodeFrom (pos + 1) skip rest
  | pos, 0, lead :: rest =>
    match step lead rest with
    | .codePoint c length =>
      (decodeFrom (pos + 1) (length - 1) rest).map fun r ↦ (c :: r.1, r.2)
    | .unfinished => .ok ([], lead :: rest)
    | .refused length defect => .error ⟨lead, pos, length, defect⟩

/-- The error of an unfinished sequence, given what was decoded before it. -/
def unfinishedError (total : Nat) : List UInt8 → Option DecodeError
  | [] => none
  | lead :: rest => some ⟨lead, total - (rest.length + 1), rest.length + 1, .unexpectedEnd⟩

/-- The text written by bytes. -/
def decode (bytes : List UInt8) : Except DecodeError Text := do
  let (text, rest) ← decodeFrom 0 0 bytes
  match unfinishedError bytes.length rest with
  | none => .ok text
  | some e => .error e

/-! ## Reading a first line

A file is read in chunks, and reading stops with the chunk that completes the first line: what
follows is never decoded.  Positions in errors count from the start of a chunk and of what the chunk
before it left over.
-/

/-- The number of bytes read from a file at a time. -/
def chunkSize : Nat := 8192

/-- Whether a text has a complete line once newlines are unified; a carriage return at the very end
completes none, because a line feed may follow. -/
def hasLine : Text → Bool
  | [] => false
  | [c] => c == 0x0A
  | c :: t => c == 0x0A || c == 0x0D || hasLine t

/-- Reads chunks until a line is complete: `seen` is what was decoded, `pending` an unfinished
sequence before `rest`. -/
def firstLineFrom (seen : Text) (pending : List UInt8) :
    List UInt8 → Except DecodeError Text
  | [] =>
    match unfinishedError pending.length pending with
    | none => .ok seen
    | some e => .error e
  | b :: rest => do
    let (text, pending) ← decodeFrom 0 0 (pending ++ (b :: rest).take chunkSize)
    if hasLine (seen ++ text) then .ok (seen ++ text)
    else firstLineFrom (seen ++ text) pending ((b :: rest).drop chunkSize)
termination_by rest => rest.length
decreasing_by
  simp only [List.length_drop, List.length_cons, chunkSize]
  omega

/-- The first line of a file without its end, with newlines unified. -/
def firstLine (bytes : List UInt8) : Except DecodeError Text :=
  (firstLineFrom [] [] bytes).map fun t ↦ (Text.unifyNewlines t).takeWhile (· != 0x0A)

end ActorFacade.Utf8
