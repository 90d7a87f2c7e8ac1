import ActorFacade.Files.Path
import ActorFacade.Text.Quoted
import ActorFacade.Text.Utf8

/-! # Errors of paths

A disk knows paths as bytes.  A surrogate from `U+DC80` on stands for a single byte that is no text;
all other surrogates have no bytes.  Names and whole paths are bounded in length, and no name holds
the character zero.  `Path.refusal?` is the error of a path that leads nowhere on any disk.
-/

namespace ActorFacade

/-- Why a path cannot be used. -/
inductive FileError where
  | notFound
  | exists
  | notDirectory
  | isDirectory
  | nameTooLong
  /-- A name holds the character zero. -/
  | holdsZero
  /-- A name has no bytes. -/
  | encode (cause : Utf8.EncodeError)
deriving DecidableEq, Repr

/-- An error with the path that it is about. -/
structure PathError where
  /-- What is wrong. -/
  error : FileError
  /-- The path. -/
  path : Path
deriving DecidableEq, Repr

/-- The wording of an error about a path. -/
def PathError.message (e : PathError) : Text :=
  let about (description : Text) : Text := description ++ ": " ++ e.path.text.quoted
  match e.error with
  | .notFound => about "[Errno 2] No such file or directory"
  | .exists => about "[Errno 17] File exists"
  | .notDirectory => about "[Errno 20] Not a directory"
  | .isDirectory => about "[Errno 21] Is a directory"
  | .nameTooLong => about "[Errno 36] File name too long"
  | .holdsZero => "embedded null byte"
  | .encode cause => cause.message

namespace Path

/-! ## Names as bytes -/

/-- The byte that a surrogate stands for, if it does. -/
def strayByte? (c : CodePoint) : Option UInt8 :=
  if 0xDC80 ≤ c && c ≤ 0xDCFF then some (c - 0xDC00).toUInt8 else none

/-- The bytes of a text that starts at a given position of a path. -/
def encodeFrom : Nat → Text → Except Utf8.EncodeError (List UInt8)
  | _, [] => .ok []
  | pos, c :: t =>
    match strayByte? c with
    | some b => (encodeFrom (pos + 1) t).map (b :: ·)
    | none =>
      if Text.isSurrogate c then
        .error ⟨c, pos, pos + (t.takeWhile Text.isSurrogate).length⟩
      else (encodeFrom (pos + 1) t).map (Utf8.bytesOf c ++ ·)

/-- The bytes of a text in a path; the error is that of a text that no path can hold. -/
def bytesOf (t : Text) : Except FileError (List UInt8) := do
  let bytes ← (encodeFrom 0 t).mapError .encode
  if t.contains 0 then throw .holdsZero
  return bytes

/-- Paths have fewer bytes than this. -/
def lengthBound : Nat := 4096

/-- Names have at most as many bytes. -/
def nameBound : Nat := 255

/-- Whether a name has too many bytes. -/
def isLongName (name : Text) : Bool :=
  match bytesOf name with
  | .ok bytes => nameBound < bytes.length
  | .error _ => false

/-- The error of a path that leads nowhere, whatever is on the disk. -/
def refusal? (p : Path) : Option FileError :=
  match bytesOf p.text with
  | .ok bytes => if lengthBound ≤ bytes.length then some .nameTooLong else none
  | .error e => some e

/-! ## Resolving double dots -/

/-- The names in front of another name, with double dots resolved by name as far as possible. -/
def climb (isAbsolute : Bool) (kept : List Text) : List Text :=
  if kept.isEmpty || kept.getLast? = some up then if isAbsolute then kept else kept ++ [up]
  else kept.dropLast

/-- The error of the first name of a path that no path can hold, behind the names that lead to it;
names before double dots count too. -/
def resolveError? (isAbsolute : Bool) (kept : List Text) : List Text → Option FileError
  | [] => none
  | part :: parts =>
    if part = up then resolveError? isAbsolute (climb isAbsolute kept) parts
    else
      let kept := kept ++ [part]
      match bytesOf (text ⟨if isAbsolute then 1 else 0, kept⟩) with
      | .error e => some e
      | .ok _ => resolveError? isAbsolute kept parts

end Path

end ActorFacade
