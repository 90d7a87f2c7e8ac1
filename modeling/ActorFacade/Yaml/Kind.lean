import ActorFacade.Text.Basic

/-! # Kinds of nodes

Every node has a kind, which a tag can name.  Without a tag, a plain scalar has the kind that its
text looks like: truth values, numbers, null values and dates have spellings of their own, and every
other text is text.
-/

namespace ActorFacade.Yaml

/-- The kinds of nodes. -/
inductive Kind where
  | null
  | bool
  | int
  | float
  | timestamp
  | text
  /-- Bytes written in letters. -/
  | binary
  /-- A key under which other mappings are merged. -/
  | merge
  /-- The sign for a default value. -/
  | equals
  | sequence
  | mapping
  | set
  /-- A list of keys with their values; equal keys all stay. -/
  | pairs
  | other (tag : Text)
deriving DecidableEq, Repr, Inhabited

namespace Kind

/-! ## Kinds by tag -/

/-- The beginning of the tags of all kinds. -/
def corePrefix : Text := "tag:yaml.org,2002:"

/-- The kinds that have a name. -/
def named : List (Text × Kind) :=
  [("null", null), ("bool", bool), ("int", int), ("float", float), ("timestamp", timestamp),
    ("str", text), ("binary", binary), ("merge", merge), ("value", equals), ("seq", sequence),
    ("map", mapping), ("set", set), ("omap", pairs), ("pairs", pairs)]

/-- The kind that a tag names. -/
def ofTag (tag : Text) : Kind :=
  match named.find? fun e ↦ corePrefix ++ e.1 == tag with
  | some e => e.2
  | none => other tag

/-- Whether a kind is one of collections. -/
def isCollection (k : Kind) : Bool := [sequence, mapping, set, pairs].contains k

/-! ## Rows of characters -/

/-- Whether a text is one of some strings. -/
def isAmong (words : List String) (t : Text) : Bool := words.any fun w ↦ Text.ofString w == t

/-- Whether a character is a decimal digit or an underscore. -/
def isDigitPart (c : CodePoint) : Bool := Text.isAsciiDigit c || c == 0x5F

/-- Whether a character is a digit of a base up to ten or an underscore. -/
def isDigitBelow (base : Nat) (c : CodePoint) : Bool := (0x30 ≤ c && c < 0x30 + base) || c == 0x5F

/-- Whether a character is a hexadecimal digit or an underscore. -/
def isHexPart (c : CodePoint) : Bool := (Text.hexValue? c).isSome || c == 0x5F

/-- Whether a text is a row of characters of a class, at least one. -/
def isRow (p : CodePoint → Bool) (t : Text) : Bool := !t.isEmpty && t.all p

/-- A text without its sign. -/
def unsigned : Text → Text
  | c :: t => if c = 0x2B || c = 0x2D then t else c :: t
  | [] => []

/-- Whether a text is a digit and a row of digits and underscores. -/
def isWhole (t : Text) : Bool := (t.headD 0 |> Text.isAsciiDigit) && t.all isDigitPart

/-- Whether a text is a row of digits and underscores that begins with a digit other than zero. -/
def isCount (t : Text) : Bool := isWhole t && t.headD 0 != 0x30

/-- Whether a text is a number below sixty of one or two digits. -/
def isSixtieth : Text → Bool
  | [c] => Text.isAsciiDigit c
  | [c, d] => (0x30 ≤ c && c ≤ 0x35) && Text.isAsciiDigit d
  | _ => false

/-- Whether a text is a number to the base sixty, with colons, that begins in a certain way. -/
def isSixties (leads : Text → Bool) (t : Text) : Bool :=
  match Text.pieces 0x3A t with
  | first :: rest => leads first && !rest.isEmpty && rest.all isSixtieth
  | [] => false

/-! ## Spellings -/

/-- Whether a text spells a truth value. -/
def isBool : Text → Bool :=
  isAmong ["yes", "Yes", "YES", "no", "No", "NO", "true", "True", "TRUE", "false", "False", "FALSE",
    "on", "On", "ON", "off", "Off", "OFF"]

/-- Whether a text spells a null value. -/
def isNull : Text → Bool := isAmong ["~", "null", "Null", "NULL", ""]

/-- Whether a text spells an integer. -/
def isInt (t : Text) : Bool :=
  match unsigned t with
  | [0x30] => true
  | 0x30 :: 0x62 :: t => isRow (isDigitBelow 2) t
  | 0x30 :: 0x78 :: t => isRow isHexPart t
  | 0x30 :: t => isRow (isDigitBelow 8) t
  | t => isCount t || isSixties isCount t

/-- Whether a text is empty or an exponent with its sign. -/
def isPower : Text → Bool
  | [] => true
  | mark :: sign :: t =>
    (mark == 0x65 || mark == 0x45) && (sign == 0x2B || sign == 0x2D) && isRow Text.isAsciiDigit t
  | _ => false

/-- Whether a text is the part of a binary number behind its point. -/
def isFraction (t : Text) : Bool := isPower (t.dropWhile isDigitPart)

/-- Whether a text spells a binary number. -/
def isFloat (t : Text) : Bool :=
  let u := unsigned t
  let whole := u.takeWhile (· != 0x2E)
  match t, u.dropWhile (· != 0x2E) with
  | 0x2E :: fraction, _ =>
    (Text.isAsciiDigit (fraction.headD 0) && isFraction fraction) ||
      isAmong ["inf", "Inf", "INF", "nan", "NaN", "NAN"] fraction
  | _, 0x2E :: fraction =>
    (isWhole whole && isFraction fraction) ||
      (isSixties isWhole whole && fraction.all isDigitPart) ||
      (whole.isEmpty && isAmong ["inf", "Inf", "INF"] fraction)
  | _, _ => false

/-! ## Dates -/

/-- What follows digits, if there are at least `least` of them; at most `most` are taken. -/
def behindDigits (least most : Nat) (t : Text) : Option Text :=
  let n := min most (t.takeWhile Text.isAsciiDigit).length
  if n < least then none else some (t.drop n)

/-- What follows a character of a class. -/
def behind (p : CodePoint → Bool) : Text → Option Text
  | c :: t => if p c then some t else none
  | [] => none

/-- What follows a date with four digits and two times at least `least` and at most two. -/
def behindDay (least : Nat) (t : Text) : Option Text := do
  let t ← behindDigits 4 4 t
  let t ← behind (· == 0x2D) t
  let t ← behindDigits least 2 t
  let t ← behind (· == 0x2D) t
  behindDigits least 2 t

/-- Whether a text is a date with four and two and two digits. -/
def isDate (t : Text) : Bool := behindDay 2 t == some []

/-- What follows a date with a time of day up to its seconds. -/
def behindSeconds (t : Text) : Option Text := do
  let t ← behindDay 1 t
  let isBlank (c : CodePoint) : Bool := c == 0x20 || c == 0x09
  let t ← (behind (fun c ↦ c == 0x54 || c == 0x74) t).or
    ((behind isBlank t).map (List.dropWhile isBlank))
  let t ← behindDigits 1 2 t
  let t ← behind (· == 0x3A) t
  let t ← behindDigits 2 2 t
  let t ← behind (· == 0x3A) t
  behindDigits 2 2 t

/-- What follows the parts of a second. -/
def behindFraction : Text → Text
  | 0x2E :: t => t.dropWhile Text.isAsciiDigit
  | t => t

/-- Whether a text is empty or names a zone of time. -/
def isZone (t : Text) : Bool :=
  t.isEmpty ||
    match t.dropWhile fun c ↦ c == 0x20 || c == 0x09 with
    | [0x5A] => true
    | t =>
      match (behind (fun c ↦ c == 0x2B || c == 0x2D) t).bind (behindDigits 1 2) with
      | some [] => true
      | some (0x3A :: t) => t.length == 2 && t.all Text.isAsciiDigit
      | _ => false

/-- Whether a text is a date with a time of day. -/
def isMoment (t : Text) : Bool := (behindSeconds t).any fun t ↦ isZone (behindFraction t)

/-! ## Kinds by text -/

/-- A text without the line feed at its end. -/
def withoutLineFeed (t : Text) : Text := if t.getLast? = some 0x0A then t.dropLast else t

/-- The kind of a text without a line feed at its end. -/
def ofLine (t : Text) : Kind :=
  if isBool t then bool
  else if isFloat t then float
  else if isInt t then int
  else if isAmong ["<<"] t then merge
  else if isNull t then null
  else if isDate t || isMoment t then timestamp
  else if isAmong ["="] t then equals
  else if isAmong ["!", "&", "*"] t then other (corePrefix ++ "yaml")
  else text

/-- The kind of a scalar that is written plainly.  A line feed at its end makes no difference,
unless it is all that is written. -/
def ofText (t : Text) : Kind := if t = Text.newline then text else ofLine (withoutLineFeed t)

end Kind

end ActorFacade.Yaml
