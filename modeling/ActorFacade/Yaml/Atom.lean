import ActorFacade.Number.Arithmetic
import ActorFacade.Text.Blank
import ActorFacade.Text.Lower
import ActorFacade.Text.Quoted
import ActorFacade.Value.Basic
import ActorFacade.Yaml.Binary
import ActorFacade.Yaml.Kind
import ActorFacade.Yaml.Scalar

/-! # Values of scalars

The kind of a scalar says what its text is read as.  Integers are written to the bases two, eight,
ten, sixteen and sixty, numbers can have underscores among their digits, and dates are checked.
-/

namespace ActorFacade.Yaml

/-- Why a document has no value. -/
inductive Fault where
  /-- The document does not follow the format, or has a part that is no value. -/
  | defect (d : Defect)
  /-- An integer has too many digits. -/
  | limit (e : Integer.LimitError)
  /-- A text is no integer to a base. -/
  | notInteger (base : Nat) (t : Text)
  /-- A text is no binary number. -/
  | notNumber (t : Text)
  /-- A number to the base sixty has so many parts that the first one counts more than any number.
  -/
  | tooManyParts
  /-- A number has no text behind its sign. -/
  | emptyNumber
  /-- A text in lower case is no truth value. -/
  | notBool (t : Text)
  /-- A text is no date. -/
  | notTimestamp
  /-- A mapping stands for a date. -/
  | timestampMapping
  /-- A mapping is its own default value. -/
  | endless
  | noSuchYear
  | noSuchMonth
  | noSuchDay
  | noSuchHour
  | noSuchMinute
  | noSuchSecond
  /-- The zone of a time of day is this many seconds, more than a day, away. -/
  | noSuchZone (seconds : Int)
deriving DecidableEq, Repr

/-- The wording of a fault. -/
def Fault.message : Fault → Text
  | .defect .malformed => "the document is malformed"
  | .defect .noSuchCharacter => "chr() arg not in range(0x110000)"
  | .defect .characterTooLarge => "number too large for a character"
  | .defect (.limit e) => e.message
  | .limit e => e.message
  | .notInteger base t => "invalid literal for int() with base " ++ Text.ofNat base ++ ": " ++
      (Text.quoted t).take 200
  | .notNumber t => "could not convert string to float: " ++ Text.quoted t
  | .tooManyParts => "int too large to convert to float"
  | .emptyNumber => "string index out of range"
  | .notBool t => Text.quoted t
  | .notTimestamp => "'NoneType' object has no attribute 'groupdict'"
  | .timestampMapping => "expected string or bytes-like object, got 'list'"
  | .endless => "maximum recursion depth exceeded"
  | .noSuchYear => "year 0 is out of range"
  | .noSuchMonth => "month must be in 1..12"
  | .noSuchDay => "day is out of range for month"
  | .noSuchHour => "hour must be in 0..23"
  | .noSuchMinute => "minute must be in 0..59"
  | .noSuchSecond => "second must be in 0..59"
  | .noSuchZone seconds =>
    "offset must be a timedelta strictly between -timedelta(hours=24) and " ++
      "timedelta(hours=24), not " ++ Calendar.shownDuration seconds ++ "."

/-- A part that is no value. -/
def refusal {α : Type} : Except Fault α := .error (.defect .malformed)

/-! ## Numbers -/

/-- A text without underscores. -/
def withoutUnderscores (t : Text) : Text := t.filter (· != 0x5F)

/-- Whether a text has a minus sign. -/
def isNegative (t : Text) : Bool := t.head? == some 0x2D

/-- The value of a digit of any script, or of a letter for one, to a base up to sixteen. -/
def digitIn? (base : Nat) (c : CodePoint) : Option Nat :=
  ((Text.hexValue? c).or (Text.digitValue? c)).filter (· < base)

/-- The letter that can stand for a base behind a zero. -/
def baseLetter? (base : Nat) : Option CodePoint :=
  if base = 2 then some 0x62
  else if base = 8 then some 0x6F
  else if base = 16 then some 0x78
  else none

/-- A row of digits without the sign of its base. -/
def withoutBase (base : Nat) : Text → Text
  | 0x30 :: c :: t => if baseLetter? base = some (Text.asciiLower c) then t else 0x30 :: c :: t
  | t => t

/-- The value of a row of digits to a base up to sixteen. -/
def digitsIn (base : Nat) (negative : Bool) (t : Text) : Except Fault (Option Int) :=
  match t.mapM (digitIn? base) with
  | some (d :: digits) =>
    if base = 10 then ((Integer.read negative t).map some).mapError .limit
    else
      let n := (d :: digits).foldl (fun n d ↦ n * base + d) 0
      .ok (some (if negative then -(n : Int) else n))
  | _ => .ok none

/-- The value of digits to a base with a sign in front and blanks around them. -/
def wholeIn (base : Nat) (t : Text) : Except Fault Int := do
  let u := t.trimNumber
  match ← digitsIn base (isNegative u) (withoutBase base (Kind.unsigned u)) with
  | some n => return n
  | none => throw (.notInteger base t)

/-- The value of parts to the base sixty, the most significant one first. -/
def sixties (t : Text) : Except Fault Int :=
  (Text.pieces 0x3A t).foldlM (fun n p ↦ do return n * 60 + (← wholeIn 10 p)) 0

/-- The value of an integer without its sign. -/
def magnitudeOfInteger (t : Text) : Except Fault Int :=
  match t with
  | [0x30] => .ok 0
  | 0x30 :: 0x62 :: t => wholeIn 2 t
  | 0x30 :: 0x78 :: t => wholeIn 16 t
  | 0x30 :: t => wholeIn 8 (0x30 :: t)
  | t => sixties t

/-- The value of an integer. -/
def integer (t : Text) : Except Fault Int := do
  let t := withoutUnderscores t
  if (Kind.unsigned t).isEmpty then throw .emptyNumber
  let n ← magnitudeOfInteger (Kind.unsigned t)
  return if isNegative t then -n else n

/-- The value of an unsigned decimal. -/
def fractional (t : Text) : Except Fault Double :=
  match Double.ofText? t with
  | some x => .ok x
  | none => .error (.notNumber t)

/-- The sum of parts to the base sixty, the least significant one first; `weight` is what that
counts. -/
def weighted (weight : Int) (sum : Double) : List Double → Except Fault Double
  | [] => .ok sum
  | part :: parts =>
    match Double.ofInt weight with
    | .infinity _ => .error .tooManyParts
    | w => weighted (weight * 60) (sum.add (part.mul w)) parts

/-- The usual spelling, in lower case, of the value that is no number. -/
def usualNaN : Text := ".nan"

/-- A text in lower case without underscores. -/
def plainNumber (t : Text) : Text := (withoutUnderscores t).lower

/-- Whether a text spells the value that is no number in the usual way. -/
def isUsualNaN (t : Text) : Bool := Kind.unsigned (plainNumber t) == usualNaN

/-- The value of an unsigned binary number. -/
def magnitude (t : Text) : Except Fault Double :=
  if t = Text.ofString ".inf" then .ok (.infinity false)
  else if t = usualNaN then .ok .nan
  else if t.contains 0x3A then do
    let parts ← (Text.pieces 0x3A t).mapM fractional
    weighted 1 (.zero false) parts.reverse
  else fractional t

/-- The value of a binary number. -/
def float (t : Text) : Except Fault Double := do
  let t := plainNumber t
  if t.isEmpty then throw .emptyNumber
  let x ← magnitude (Kind.unsigned t)
  return if isNegative t then x.neg else x

/-! ## Dates -/

/-- Checks a date. -/
def checkDay (year month day : Nat) : Except Fault Unit :=
  if year = 0 then .error .noSuchYear
  else if month = 0 || 12 < month then .error .noSuchMonth
  else if day = 0 || Calendar.daysIn year month < day then .error .noSuchDay
  else .ok ()

/-- Checks a time of day. -/
def checkTime (hour minute second : Nat) : Except Fault Unit :=
  if 24 ≤ hour then .error .noSuchHour
  else if 60 ≤ minute then .error .noSuchMinute
  else if 60 ≤ second then .error .noSuchSecond
  else .ok ()

/-- The numbers in a text: the rows of digits. -/
def numbersIn (t : Text) : List Nat :=
  ((t.splitBy fun c d ↦ Text.isAsciiDigit c == Text.isAsciiDigit d).filter fun row ↦
    Text.isAsciiDigit (row.headD 0)).map Text.digitsValue

/-- How far a zone is away, in seconds. -/
def zoneSeconds (t : Text) : Int :=
  let seconds : Int := match numbersIn t with
    | hours :: minutes => hours * 3600 + minutes.headD 0 * 60
    | [] => 0
  if t.contains 0x2D then -seconds else seconds

/-- The zone behind a time of day. -/
def zone (t : Text) : Except Fault (Option Int) :=
  let seconds := zoneSeconds t
  if 86400 ≤ seconds.natAbs then .error (.noSuchZone seconds)
  else .ok (if t.isEmpty then none else some seconds)

/-- The millionth parts behind the seconds of a time of day. -/
def microseconds (t : Text) : Nat :=
  let digits := ((t.drop 1).takeWhile Text.isAsciiDigit).take 6
  if t.head? = some 0x2E then
    Text.digitsValue (digits ++ List.replicate (6 - digits.length) 0x30)
  else 0

/-- The value of a date, perhaps with a time of day. -/
def moment (t : Text) : Except Fault Atom :=
  match numbersIn t with
  | [year, month, day] => do
    if Kind.behindDay 1 t ≠ some [] then throw .notTimestamp
    checkDay year month day
    return .date year month day
  | year :: month :: day :: hour :: minute :: second :: _ => do
    if !Kind.isMoment t then throw .notTimestamp
    let fraction := (Kind.behindSeconds t).getD []
    let zone ← zone (Kind.behindFraction fraction)
    checkDay year month day
    checkTime hour minute second
    return .moment {
      year, month, day, hour, minute, second, microsecond := microseconds fraction, zone }
  | _ => .error .notTimestamp

/-- The value of a date in front of a line feed. -/
def timestamp (t : Text) : Except Fault Atom := moment (Kind.withoutLineFeed t)

/-! ## Scalars -/

/-- The truth value that a text in lower case names. -/
def truth (t : Text) : Except Fault Bool :=
  if Kind.isAmong ["yes", "true", "on"] t then .ok true
  else if Kind.isAmong ["no", "false", "off"] t then .ok false
  else .error (.notBool t)

/-- The value of a scalar. -/
def scalarValue (k : Kind) (t : Text) : Except Fault Atom :=
  match k with
  | .null => .ok .null
  | .bool => (truth t.lower).map .bool
  | .int => (integer t).map .int
  | .float => (float t).map .double
  | .timestamp => timestamp t
  | .text => .ok (.text t)
  | .binary =>
    match Binary.read? t with
    | some bytes => .ok (.bytes bytes)
    | none => refusal
  | _ => refusal

end ActorFacade.Yaml
