import ActorFacade.Text.Basic

/-! # Dates and times of day

Days of the calendar are given by year, month and day.  A `Moment` is a day with a time of day,
perhaps in a zone that is ahead of universal time by some seconds.  Moments in zones are the same
when they are the same instant; a moment without a zone is the same as no moment in one.
-/

namespace ActorFacade

namespace Calendar

-- The empty sum is the built-in zero.
attribute [local instance (high)] Zero.ofOfNat0

/-- Whether a year has a day more. -/
def isLeapYear (year : Nat) : Bool := year % 4 == 0 && (year % 100 != 0 || year % 400 == 0)

/-- The number of days of a month. -/
def daysIn (year month : Nat) : Nat :=
  if month = 2 then if isLeapYear year then 29 else 28
  else if month = 4 || month = 6 || month = 9 || month = 11 then 30
  else 31

/-- The number of days before a year, from the year one on. -/
def daysBeforeYear (year : Nat) : Nat :=
  let y := year - 1
  y * 365 + y / 4 - y / 100 + y / 400

/-- The number of days before a month of a year. -/
def daysBeforeMonth (year month : Nat) : Nat :=
  ((List.range (month - 1)).map fun m ↦ daysIn year (m + 1)).sum

/-- The number of days before a day, from the first day of the year one on. -/
def daysBefore (year month day : Nat) : Nat :=
  daysBeforeYear year + daysBeforeMonth year month + (day - 1)

/-- A natural number with at least `width` digits. -/
def padded (width n : Nat) : Text :=
  let digits := Text.ofNat n
  List.replicate (width - digits.length) 0x30 ++ digits

/-- A day in the usual form. -/
def dayText (year month day : Nat) : Text :=
  padded 4 year ++ "-" ++ padded 2 month ++ "-" ++ padded 2 day

/-- Numbers as arguments. -/
def arguments (ns : List Nat) : Text := Text.join ", " (ns.map Text.ofNat)

/-- A day as it is made. -/
def shownDay (year month day : Nat) : Text :=
  "datetime.date(" ++ arguments [year, month, day] ++ ")"

/-- A time in seconds as it is made, from days and what is left. -/
def shownDuration (seconds : Int) : Text :=
  let part (name : Text) (n : Int) : List Text :=
    if n = 0 then [] else [name ++ "=" ++ Text.ofInt n]
  let parts := part "days" (seconds / 86400) ++ part "seconds" (seconds % 86400)
  "datetime.timedelta(" ++ Text.join ", " (if parts.isEmpty then ["0"] else parts) ++ ")"

end Calendar

/-- A day with a time of day. -/
structure Moment where
  year : Nat
  month : Nat
  day : Nat
  hour : Nat
  minute : Nat
  second : Nat
  /-- The millionth parts of a second. -/
  microsecond : Nat
  /-- How far its zone is ahead of universal time, in seconds. -/
  zone : Option Int := none
deriving DecidableEq, Repr, Inhabited

namespace Moment

open Calendar

/-- The millionth parts of seconds before a moment; without a zone universal time is meant. -/
def instant (m : Moment) : Int :=
  let days := daysBefore m.year m.month m.day
  let seconds : Int := ((days * 24 + m.hour) * 60 + m.minute) * 60 + m.second
  (seconds - m.zone.getD 0) * 1000000 + m.microsecond

/-- Whether two moments are the same. -/
def same (m n : Moment) : Bool := m.zone.isSome == n.zone.isSome && m.instant == n.instant

/-- A distance from universal time in the usual form. -/
def zoneText (zone : Int) : Text :=
  let minutes := zone.natAbs / 60
  (if zone < 0 then "-" else "+") ++ padded 2 (minutes / 60) ++ ":" ++ padded 2 (minutes % 60)

/-- A moment in the usual form. -/
def text (m : Moment) : Text :=
  let fraction : Text := if m.microsecond = 0 then [] else "." ++ padded 6 m.microsecond
  dayText m.year m.month m.day ++ " " ++ padded 2 m.hour ++ ":" ++ padded 2 m.minute ++ ":" ++
    padded 2 m.second ++ fraction ++ (m.zone.map zoneText).getD []

/-- A zone as it is made. -/
def shownZone (zone : Int) : Text :=
  if zone = 0 then "datetime.timezone.utc" else "datetime.timezone(" ++ shownDuration zone ++ ")"

/-- A moment as it is made; zeros at the end are left out. -/
def shown (m : Moment) : Text :=
  let fine :=
    if m.microsecond ≠ 0 then [m.second, m.microsecond]
    else if m.second ≠ 0 then [m.second]
    else []
  "datetime.datetime(" ++ arguments ([m.year, m.month, m.day, m.hour, m.minute] ++ fine) ++
    (m.zone.map fun z ↦ ", tzinfo=" ++ shownZone z).getD [] ++ ")"

end Moment

end ActorFacade
