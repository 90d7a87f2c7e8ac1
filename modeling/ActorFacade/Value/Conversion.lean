import ActorFacade.Value.Display
import ActorFacade.Value.Items

/-! # Texts and bytes made of values

Every value has a text; bytes are read as text by an encoding.  Bytes are made of a text by an
encoding, of a number of zeros, or of numbers one by one.  Besides UTF-8 there are two encodings
with one byte for each code point, which differ in the largest one.
-/

namespace ActorFacade

-- Powers are the built-in ones.
attribute [local instance (high)] instPowNat

/-- The encodings. -/
inductive Encoding where
  | utf8
  | ascii
  | latin1
deriving DecidableEq, Repr

/-- Why a value cannot be converted. -/
inductive ConversionError where
  /-- An option is of a type that is no text. -/
  | optionNotText (called option typeName : Text)
  /-- An option holds a zero. -/
  | zeroInOption
  /-- An option cannot be encoded itself. -/
  | unencodableOption (cause : Utf8.EncodeError)
  /-- A text is to be decoded. -/
  | textDecoded
  /-- Something is to be decoded that is no bytes. -/
  | notBytes (typeName : Text)
  /-- There is an option for encoding, but no text. -/
  | optionWithoutText (option : Text)
  | textWithoutEncoding
  /-- There is only a base for digits, but no digits. -/
  | baseWithoutText
  | notConvertible (typeName : Text)
  | notInteger (typeName : Text)
  | negativeCount
  | countTooLarge
  | noMemory
  | notByte
  | unknownEncoding (name : Text)
  /-- There is no such way to deal with what cannot be encoded or decoded. -/
  | unknownHandler (name : Text)
  | digits (cause : Integer.LimitError)
  | decode (cause : Utf8.DecodeError)
  | encode (cause : Utf8.EncodeError)
  /-- A byte is too large for an encoding. -/
  | largeByte (byte : UInt8) (position : Nat)
  /-- Code points from `first` to `last` are too large for an encoding. -/
  | largeCodePoint (encoding : Encoding) (codePoint : CodePoint) (first last : Nat)
deriving DecidableEq, Repr

namespace Encoding

/-- The number of code points that an encoding has bytes for, if these are not all. -/
def bound? : Encoding → Option Nat
  | .utf8 => none
  | .ascii => some 0x80
  | .latin1 => some 0x100

/-- The name of an encoding. -/
def name : Encoding → Text
  | .utf8 => "utf-8"
  | .ascii => "ascii"
  | .latin1 => "latin-1"

/-- The names by which encodings are found: small letters and digits, and low lines between them. -/
def names : List (Text × Encoding) := [
  ("utf_8", .utf8), ("utf8", .utf8), ("u8", .utf8), ("utf", .utf8), ("cp65001", .utf8),
  ("ascii", .ascii), ("us_ascii", .ascii), ("646", .ascii), ("iso646_us", .ascii),
  ("latin_1", .latin1), ("latin1", .latin1), ("latin", .latin1), ("l1", .latin1),
  ("iso8859_1", .latin1), ("iso_8859_1", .latin1), ("iso8859", .latin1), ("8859", .latin1),
  ("cp819", .latin1)]

/-- A name in the form in which it is looked for. -/
def normalName (name : Text) : Text :=
  let isPart (c : CodePoint) : Bool := Text.isAsciiLetter c || Text.isAsciiDigit c
  let spaced := name.map fun c ↦ if isPart c then Text.asciiLower c else 0x5F
  Text.join "_" ((Text.pieces 0x5F spaced).filter fun p ↦ !p.isEmpty)

/-- The encoding of a name. -/
def find (name : Text) : Except ConversionError Encoding :=
  match names.lookup (normalName name) with
  | some e => .ok e
  | none => .error (.unknownEncoding name)

end Encoding

namespace ConversionError

/-- The wording for code points that an encoding has no bytes for. -/
def largeText (encoding : Encoding) (codePoint first last : Nat) : Text :=
  let range := Text.ofNat ((encoding.bound?).getD 0)
  let place := if first = last then
      "character '" ++ Text.escapeByCode codePoint ++ "' in position " ++ Text.ofNat first
    else "characters in position " ++ Text.ofNat first ++ "-" ++ Text.ofNat last
  "'" ++ encoding.name ++ "' codec can't encode " ++ place ++ ": ordinal not in range(" ++ range ++
    ")"

/-- The wording of an error. -/
def message : ConversionError → Text
  | .optionNotText called option name =>
    called ++ "() argument '" ++ option ++ "' must be str, not " ++ shorterTypeName name
  | .zeroInOption => "embedded null character"
  | .unencodableOption cause => cause.message
  | .textDecoded => "decoding str is not supported"
  | .notBytes name =>
    "decoding to str: need a bytes-like object, " ++ Utf8.clip 80 name ++ " found"
  | .optionWithoutText option => option ++ " without a string argument"
  | .textWithoutEncoding => "string argument without an encoding"
  | .baseWithoutText => "int() missing string argument"
  | .notConvertible name => "cannot convert '" ++ shortTypeName name ++ "' object to bytes"
  | .notInteger name =>
    "'" ++ shortTypeName name ++ "' object cannot be interpreted as an integer"
  | .negativeCount => "negative count"
  | .countTooLarge => "cannot fit 'int' into an index-sized integer"
  | .noMemory => []
  | .notByte => "bytes must be in range(0, 256)"
  | .unknownEncoding name => "unknown encoding: " ++ name
  | .unknownHandler name => "unknown error handler name '" ++ name ++ "'"
  | .digits cause => cause.message
  | .decode cause => cause.message
  | .encode cause => cause.message
  | .largeByte byte position =>
    "'ascii' codec can't decode byte 0x" ++ Text.hexDigits 2 byte.toNat ++ " in position " ++
      Text.ofNat position ++ ": ordinal not in range(128)"
  | .largeCodePoint encoding codePoint first last => largeText encoding codePoint first last

/-- Whether an error is about a type that does not suit. -/
def isAboutType : ConversionError → Bool
  | .optionNotText .. | .textDecoded | .notBytes _ | .optionWithoutText _ | .textWithoutEncoding
  | .baseWithoutText | .notConvertible _ | .notInteger _ => true
  | _ => false

end ConversionError

namespace Encoding

/-- The first place where an item fails a test, with the item. -/
def firstFailing {α : Type} (p : α → Bool) (items : List α) : Option (α × Nat) :=
  (items.zipIdx).find? fun e ↦ !p e.1

/-- Reads bytes. -/
def decode (encoding : Encoding) (bytes : List UInt8) : Except ConversionError Text :=
  match encoding with
  | .utf8 => (Utf8.decode bytes).mapError .decode
  | .ascii =>
    match firstFailing (fun b : UInt8 ↦ b < 0x80) bytes with
    | some (b, i) => .error (.largeByte b i)
    | none => .ok (bytes.map UInt8.toNat)
  | .latin1 => .ok (bytes.map UInt8.toNat)

/-- Writes a text. -/
def encode (encoding : Encoding) (t : Text) : Except ConversionError (List UInt8) :=
  match encoding.bound? with
  | none => (Utf8.encode t).mapError .encode
  | some bound =>
    match firstFailing (fun c : CodePoint ↦ decide (c < bound)) t with
    | some (c, i) =>
      let run := ((t.drop i).takeWhile fun d ↦ bound ≤ d).length
      .error (.largeCodePoint encoding c i (i + run - 1))
    | none => .ok (t.map Nat.toUInt8)

end Encoding

/-- How texts and bytes are converted into each other. -/
structure Coding where
  /-- The encoding by its name. -/
  encoding : Option Text := none
  /-- The name of the way to deal with what cannot be converted. -/
  handler : Option Text := none
deriving DecidableEq, Repr

namespace Coding

/-- The ways to deal with what cannot be converted. -/
def handlers : List Text :=
  ["strict", "ignore", "replace", "backslashreplace", "surrogateescape", "surrogatepass",
    "xmlcharrefreplace", "namereplace"]

/-- A result of a conversion after a failure was dealt with; what ways other than `strict` make of
it is not said. -/
def handle {α : Type} (coding : Coding) (otherwise : α) (r : Except ConversionError α) :
    Except ConversionError α :=
  match r, coding.handler with
  | .ok x, _ => .ok x
  | .error e, none => .error e
  | .error e, some handler =>
    if handler = Text.ofString "strict" then .error e
    else if handlers.contains handler then .ok otherwise
    else .error (.unknownHandler handler)

/-- The encoding, which is UTF-8 unless it is named. -/
def find (coding : Coding) : Except ConversionError Encoding :=
  coding.encoding.elim (.ok .utf8) Encoding.find

end Coding

namespace Value

/-- The text of a value; bytes are decoded if it is said how. -/
def toText (v : Option Value) (coding : Coding) : Except ConversionError Text :=
  match v with
  | none => .ok []
  | some v =>
    if coding = {} then v.display.mapError .digits
    else match v with
      | .atom (.bytes []) => .ok []
      | .atom (.bytes bs) => do coding.handle [] ((← coding.find).decode bs)
      | v => .error (if v.text?.isSome then .textDecoded else .notBytes v.typeName)

/-- The integer that a value counts as. -/
def integral? : Value → Option Int
  | .atom (.bool b) => some (if b then 1 else 0)
  | .atom (.int n) | .atom (.intMember n) => some n
  | _ => none

/-- The number above which there cannot be so many bytes. -/
def maxCount : Int := 2 ^ (63 : Nat)

/-- The number above which there is no memory for so many bytes. -/
def maxMemory : Int := 2 ^ (40 : Nat)

/-- Refuses a number of bytes. -/
def checkCount (n : Int) : Except ConversionError Unit :=
  if n < -maxCount || maxCount ≤ n then .error .countTooLarge
  else if n < 0 then .error .negativeCount
  else if maxMemory ≤ n then .error .noMemory
  else .ok ()

/-- Refuses a value that is no byte. -/
def checkByte (v : Value) : Except ConversionError Unit :=
  match v.integral? with
  | none => .error (.notInteger v.typeName)
  | some n => if 0 ≤ n && n < 256 then .ok () else .error .notByte

/-- Refuses a value of which no bytes can be made. -/
def checkBytes (v : Option Value) (coding : Coding) : Except ConversionError Unit :=
  let text? := v.bind Value.text?
  match v, coding.encoding, coding.handler with
  | _, some _, _ =>
    match text? with
    | some t => do
      let _ ← coding.handle [] ((← coding.find).encode t)
      return ()
    | none => .error (.optionWithoutText "encoding")
  | _, none, some _ =>
    .error (if text?.isSome then .textWithoutEncoding else .optionWithoutText "errors")
  | none, none, none => .ok ()
  | some v, none, none =>
    if v.text?.isSome then .error .textWithoutEncoding
    else match v.integral?, v.itemsOf with
      | some n, _ => checkCount n
      | none, .ok items => items.forM checkByte
      | none, .error _ => .error (.notConvertible v.typeName)

end Value

end ActorFacade
