/-
  WorkflowLint/Yaml/Calendar.lean
  ===============================
  **Dates and moments.**

  A moment is a date with a time of day, in a time zone or in none.  Zones are an
  offset in minutes, less than a day either way, with the text that they were
  written as.  Moments in zones are the same if they fall on the same instant.
-/
import WorkflowLint.Yaml.Fault

namespace WorkflowLint.Yaml

/-! ### Dates -/

/-- A date. -/
structure Date where
  year : Nat
  month : Nat
  day : Nat
deriving DecidableEq, Repr

namespace Date

/-- Whether a year has a leap day. -/
def isLeap (year : Nat) : Bool := (year % 4 == 0 && year % 100 != 0) || year % 400 == 0

/-- The days of a month. -/
def daysOf (year month : Nat) : Nat :=
  if month = 2 then if isLeap year then 29 else 28
  else if month = 4 ∨ month = 6 ∨ month = 9 ∨ month = 11 then 30
  else 31

/-- The date with given parts, if there is one. -/
def of (year month day : Nat) : Except ValueError Date :=
  if year = 0 then .error .yearZero
  else if month = 0 ∨ 12 < month then .error (.outOfRange .month)
  else if day = 0 ∨ daysOf year month < day then .error (.outOfRange .day)
  else .ok ⟨year, month, day⟩

/-- The days of a year before a month. -/
def daysBefore (year : Nat) : Nat → Nat
  | 0 => 0
  | month + 1 => if month = 0 then 0 else daysBefore year month + daysOf year month

/-- The number of a date, counting days. -/
def number (date : Date) : Nat :=
  let years := date.year - 1
  365 * years + years / 4 - years / 100 + years / 400 + daysBefore date.year date.month + date.day

/-- The date after a date.  The calendar ends with the year 9999. -/
def next (date : Date) : Except ValueError Date :=
  if date.day < daysOf date.year date.month then .ok { date with day := date.day + 1 }
  else if date.month < 12 then .ok ⟨date.year, date.month + 1, 1⟩
  else if date.year < 9999 then .ok ⟨date.year + 1, 1, 1⟩
  else .error .endOfCalendar

end Date

/-! ### Zones -/

/-- A time zone: its offset in minutes and the text that names it. -/
structure Zone where
  minutes : Int
  name : Text
deriving DecidableEq, Repr

/-- A number in at least `width` digits. -/
def padded (width n : Nat) : Text :=
  let digits := Text.ofNat n
  List.replicate (width - digits.length) '0' ++ digits

/-- Parts with their names, leaving out those that are zero. -/
def namedParts (parts : List (Text × Int)) : List Text :=
  (parts.filter fun part => part.2 != 0).map fun (name, value) =>
    name ++ "=" ++ Text.ofInt value

/-- A span of minutes as a value inside brackets: whole days, rounded down, and the
    seconds that are left. -/
def spanText (minutes : Int) : Text :=
  let parts := namedParts [("days", minutes / 1440), ("seconds", 60 * (minutes % 1440))]
  "datetime.timedelta(" ++ (if parts.isEmpty then ['0'] else Text.join ", " parts) ++ ")"

namespace Zone

/-- The zone with an offset, which is less than a day. -/
def of (minutes : Int) (name : Text) : Except ValueError Zone :=
  if minutes.natAbs < 1440 then .ok ⟨minutes, name⟩ else .error (.offset (spanText minutes))

/-- A zone at the end of a moment. -/
def display (zone : Zone) : Text :=
  (if zone.minutes < 0 then '-' else '+') :: padded 2 (zone.minutes.natAbs / 60) ++ ":"
    ++ padded 2 (zone.minutes.natAbs % 60)

/-- A zone inside brackets. -/
def inner (zone : Zone) : Text :=
  "datetime.timezone(" ++ spanText zone.minutes ++ ", " ++ Text.quoted zone.name ++ ")"

end Zone

/-! ### Moments -/

/-- A moment: a date, a time of day up to microseconds, and a zone or none. -/
structure Moment where
  date : Date
  hour : Nat
  minute : Nat
  second : Nat
  micro : Nat
  zone : Option Zone
deriving DecidableEq, Repr

namespace Moment

/-- The moment with given parts, if there is one. -/
def of (date : Except ValueError Date) (hour minute second micro : Nat) (zone : Option Zone) :
    Except ValueError Moment :=
  match date with
  | .error error => .error error
  | .ok date =>
    if 24 ≤ hour then .error (.outOfRange .hour)
    else if 60 ≤ minute then .error (.outOfRange .minute)
    else if 60 ≤ second then .error (.outOfRange .second)
    else .ok ⟨date, hour, minute, second, micro, zone⟩

/-- The moment one second later. -/
def nextSecond (moment : Moment) : Except ValueError Moment :=
  if moment.second < 59 then .ok { moment with second := moment.second + 1 }
  else if moment.minute < 59 then .ok { moment with minute := moment.minute + 1, second := 0 }
  else if moment.hour < 23 then
    .ok { moment with hour := moment.hour + 1, minute := 0, second := 0 }
  else
    match moment.date.next with
    | .error error => .error error
    | .ok date => .ok { moment with date := date, hour := 0, minute := 0, second := 0 }

/-- The seconds up to a moment, in its zone or in another one. -/
def seconds (moment : Moment) (offset : Int) : Int :=
  60 * (60 * (24 * (moment.date.number : Int) + moment.hour) + moment.minute - offset)
    + moment.second

/-- Whether two moments are the same.  One in a zone is never one in none. -/
def isSame (a b : Moment) : Bool :=
  a.micro == b.micro &&
  match a.zone, b.zone with
  | none, none => a.seconds 0 == b.seconds 0
  | some x, some y => a.seconds x.minutes == b.seconds y.minutes
  | _, _ => false

end Moment

/-! ### Writing -/

/-- A date as a text. -/
def Date.display (date : Date) : Text :=
  padded 4 date.year ++ "-" ++ padded 2 date.month ++ "-" ++ padded 2 date.day

/-- A moment as a text. -/
def Moment.display (moment : Moment) : Text :=
  moment.date.display ++ " " ++ padded 2 moment.hour ++ ":" ++ padded 2 moment.minute ++ ":"
    ++ padded 2 moment.second
    ++ (if moment.micro = 0 then [] else '.' :: padded 6 moment.micro)
    ++ moment.zone.elim [] Zone.display

/-- The parts of a date inside brackets. -/
def Date.parts (date : Date) : List Text :=
  [date.year, date.month, date.day].map Text.ofNat

/-- The parts of a time of day inside brackets.  Microseconds that are zero are left
    out, and seconds before them too. -/
def Moment.clockParts (moment : Moment) : List Text :=
  let fine :=
    if moment.micro ≠ 0 then [moment.second, moment.micro]
    else if moment.second ≠ 0 then [moment.second]
    else []
  (moment.hour :: moment.minute :: fine).map Text.ofNat

/-- A date inside brackets. -/
def Date.inner (date : Date) : Text := "datetime.date(" ++ Text.join ", " date.parts ++ ")"

/-- A moment inside brackets. -/
def Moment.inner (moment : Moment) : Text :=
  let zone := moment.zone.elim [] fun zone => ["tzinfo=" ++ zone.inner]
  "datetime.datetime(" ++ Text.join ", " (moment.date.parts ++ moment.clockParts ++ zone) ++ ")"

end WorkflowLint.Yaml
