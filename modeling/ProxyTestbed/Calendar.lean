/-!
# Days and moments

Dates of the Gregorian calendar from year 1 to year 9999, moments of a day with an optional distance
from universal time, and the one piece of arithmetic that certificates need: a moment some days later.
-/

namespace ProxyTestbed

structure Date where
  year : Nat
  month : Nat
  day : Nat
  deriving DecidableEq, Repr

structure Moment where
  date : Date
  hour : Nat
  minute : Nat
  second : Nat
  microsecond : Nat
  /-- Minutes ahead of universal time; none for a moment of local time. -/
  offset : Option Int
  deriving DecidableEq, Repr

/-- Why numbers make no date or moment. -/
inductive CalendarProblem
  | year (y : Nat)
  | month
  | day
  | hour
  | minute
  | second
  | offset (days seconds : Int)
  /-- A number of days that no span of time has. -/
  | span (days : Int)
  /-- Before the first or after the last year. -/
  | range
  deriving DecidableEq, Repr

def CalendarProblem.message : CalendarProblem → String
  | .year y => s!"year {y} is out of range"
  | .month => "month must be in 1..12"
  | .day => "day is out of range for month"
  | .hour => "hour must be in 0..23"
  | .minute => "minute must be in 0..59"
  | .second => "second must be in 0..59"
  | .offset days seconds =>
    let part := if seconds = 0 then "" else s!", seconds={seconds}"
    s!"offset must be a timedelta strictly between -timedelta(hours=24) and timedelta(hours=24), not datetime.timedelta(days={days}{part})"
  | .span days =>
    if -2147483648 ≤ days && days ≤ 2147483647 then s!"days={days}; must have magnitude <= 999999999"
    else "Python int too large to convert to C int"
  | .range => "date value out of range"

namespace Date

def isLeap (year : Nat) : Bool :=
  year % 4 = 0 && (year % 100 ≠ 0 || year % 400 = 0)

def daysIn (year month : Nat) : Nat :=
  if month = 2 then if isLeap year then 29 else 28
  else if month = 4 || month = 6 || month = 9 || month = 11 then 30 else 31

/-- A date from its numbers, which are checked from the year to the day. -/
def make (year month day : Nat) : Except CalendarProblem Date :=
  if year = 0 || 9999 < year then .error (.year year)
  else if month = 0 || 12 < month then .error .month
  else if day = 0 || daysIn year month < day then .error .day
  else .ok ⟨year, month, day⟩

/-- The days before the first of January of a year, counted from year 1. -/
def daysBefore (year : Nat) : Nat :=
  let y := year - 1
  y * 365 + y / 4 - y / 100 + y / 400

/-- The days of a year before the first of a month. -/
def daysBeforeMonth (year month : Nat) : Nat :=
  (List.range (month - 1)).foldl (fun days m => days + daysIn year (m + 1)) 0

/-- The number of a date, the first of January of year 1 being 1. -/
def ordinal (d : Date) : Nat :=
  daysBefore d.year + daysBeforeMonth d.year d.month + d.day

/-- The month and day of the `n`-th day of a year, the first of January being 1, from `month` on. -/
private def inYear (year : Nat) (n : Nat) : Nat → Nat → Date
  | 0, month => ⟨year, month, n⟩
  | fuel + 1, month =>
    let days := daysIn year month
    if n ≤ days then ⟨year, month, n⟩ else inYear year (n - days) fuel (month + 1)

def ofOrdinal (n : Nat) : Date :=
  -- a year has at most 366 days, so the guess is at most a few years early
  let guess := (n - 1) / 366 + 1
  let rec yearOf : Nat → Nat → Nat
    | 0, y => y
    | fuel + 1, y => if n ≤ daysBefore (y + 1) then y else yearOf fuel (y + 1)
  let year := yearOf 32 guess
  inYear year (n - daysBefore year) 12 1

/-- The number of the last day of year 9999. -/
def lastOrdinal : Nat := 3652059

/-- The date some days later, or earlier for a negative number. -/
def addDays (d : Date) (days : Int) : Except CalendarProblem Date :=
  if days < -999999999 || 999999999 < days then .error (.span days)
  else
    let n := (d.ordinal : Int) + days
    if n < 1 || (lastOrdinal : Int) < n then .error .range else .ok (ofOrdinal n.toNat)

/-- A number with leading zeros. -/
def padded (width n : Nat) : String :=
  let cs := Nat.toDigits 10 n
  String.ofList (List.replicate (width - cs.length) '0' ++ cs)

/-- Year, month and day with hyphens between them. -/
def iso (d : Date) : String :=
  s!"{padded 4 d.year}-{padded 2 d.month}-{padded 2 d.day}"

end Date

namespace Moment

/-- A moment from its numbers, which are checked from the year to the distance. -/
def make (year month day hour minute second microsecond : Nat) (offset : Option Int) :
    Except CalendarProblem Moment := do
  match offset with
  | some o =>
    if o ≤ -1440 || 1440 ≤ o then throw (.offset (Int.fdiv o 1440) (Int.fmod o 1440 * 60))
  | none => pure ()
  let date ← Date.make year month day
  if 23 < hour then throw .hour
  if 59 < minute then throw .minute
  if 59 < second then throw .second
  return ⟨date, hour, minute, second, microsecond, offset⟩

def addDays (m : Moment) (days : Int) : Except CalendarProblem Moment :=
  (m.date.addDays days).map fun date => { m with date }

/-- Date and time of day with `mark` between them, a fraction only if there is one, then the distance
from universal time. -/
def iso (mark : String) (m : Moment) : String :=
  let fraction := if m.microsecond = 0 then "" else "." ++ Date.padded 6 m.microsecond
  let zone := match m.offset with
    | none => ""
    | some o =>
      let sign := if o < 0 then "-" else "+"
      s!"{sign}{Date.padded 2 (o.natAbs / 60)}:{Date.padded 2 (o.natAbs % 60)}"
  s!"{m.date.iso}{mark}{Date.padded 2 m.hour}:{Date.padded 2 m.minute}:{Date.padded 2 m.second}{fraction}{zone}"

end Moment

end ProxyTestbed
