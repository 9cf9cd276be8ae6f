/-
# Dates and times

Dates of the Gregorian calendar from year 1 to year 9999, and times of day with microseconds and an
optional offset from universal time.  A date or time outside its range is refused with the first
range that is violated, in the order year, month, day, hour, minute, second.
-/

namespace FormatLauncher

/-- The range that a date or a time violates. -/
inductive CalendarFault
  | year (year : Nat)
  | month
  | day
  | hour
  | minute
  | second
  /-- An offset of a day or more; the sign and the whole hours and minutes that were asked for. -/
  | offset (seconds : Int)
  deriving DecidableEq, Repr

/-- A day of the calendar. -/
structure Date where
  year : Nat
  month : Nat
  day : Nat
  deriving DecidableEq, Repr

namespace Date

/-- The year has a leap day. -/
def isLeapYear (year : Nat) : Bool := year % 4 = 0 && (year % 100 ≠ 0 || year % 400 = 0)

/-- The number of days of a month. -/
def daysInMonth (year month : Nat) : Nat :=
  if month = 2 then if isLeapYear year then 29 else 28
  else if month = 4 ∨ month = 6 ∨ month = 9 ∨ month = 11 then 30
  else 31

/-- The date, if it exists. -/
def make (year month day : Nat) : Except CalendarFault Date :=
  if year < 1 ∨ 9999 < year then .error (.year year)
  else if month < 1 ∨ 12 < month then .error .month
  else if day < 1 ∨ daysInMonth year month < day then .error .day
  else .ok ⟨year, month, day⟩

/-- Days since the day before the first of January of year 1. -/
def ordinal (d : Date) : Nat :=
  let before := d.year - 1
  let leapDays := before / 4 - before / 100 + before / 400
  let months := (List.range (d.month - 1)).foldl (fun days m => days + daysInMonth d.year (m + 1)) 0
  before * 365 + leapDays + months + d.day

/-- Dates in order. -/
def lt (a b : Date) : Bool := decide (a.ordinal < b.ordinal)

end Date

/-- A time of a day, with an offset in microseconds if one is known. -/
structure DateTime where
  date : Date
  hour : Nat
  minute : Nat
  second : Nat
  microsecond : Nat
  offset : Option Int
  deriving DecidableEq, Repr

namespace DateTime

/-- The time, if it exists. -/
def make (year month day hour minute second microsecond : Nat) (offset : Option Int) :
    Except CalendarFault DateTime :=
  match Date.make year month day with
  | .error fault => .error fault
  | .ok date =>
    if 23 < hour then .error .hour
    else if 59 < minute then .error .minute
    else if 59 < second then .error .second
    else .ok ⟨date, hour, minute, second, microsecond, offset⟩

/-- Microseconds since the start of the calendar, the offset not taken into account. -/
def localMicroseconds (t : DateTime) : Int :=
  (((t.date.ordinal * 24 + t.hour) * 60 + t.minute) * 60 + t.second) * 1000000 + t.microsecond

/-- Microseconds since the start of the calendar, in universal time when the offset is known. -/
def microseconds (t : DateTime) : Int := t.localMicroseconds - t.offset.getD 0

/-- Times in order; times with and without an offset do not compare. -/
def lt? (a b : DateTime) : Option Bool :=
  if a.offset.isSome = b.offset.isSome then some (decide (a.microseconds < b.microseconds))
  else none

/-- The same moment; times with and without an offset are never the same. -/
def same (a b : DateTime) : Bool :=
  a.offset.isSome == b.offset.isSome && a.microseconds == b.microseconds

end DateTime

namespace Calendar

/-- A number in decimal, padded with zeros to a width. -/
def padded (width n : Nat) : String :=
  let digits := Nat.toDigits 10 n
  String.ofList (List.replicate (width - digits.length) '0' ++ digits)

/-- Year, month and day. -/
def dateText (d : Date) : String :=
  padded 4 d.year ++ "-" ++ padded 2 d.month ++ "-" ++ padded 2 d.day

/-- A fraction of a second, when it is not zero. -/
def fractionText (microsecond : Nat) : String :=
  if microsecond = 0 then "" else "." ++ padded 6 microsecond

/-- An offset: sign, hours and minutes, and the seconds when they are not zero. -/
def offsetText (offset : Int) : String :=
  let total := offset.natAbs
  let seconds := total / 1000000
  let micros := total % 1000000
  let tail :=
    if seconds % 60 = 0 ∧ micros = 0 then ""
    else ":" ++ padded 2 (seconds % 60) ++ fractionText micros
  (if offset < 0 then "-" else "+") ++ padded 2 (seconds / 3600) ++ ":"
    ++ padded 2 (seconds / 60 % 60) ++ tail

/-- A time with a separator between its date and its time of day. -/
def timeText (separator : String) (t : DateTime) : String :=
  dateText t.date ++ separator ++ padded 2 t.hour ++ ":" ++ padded 2 t.minute ++ ":"
    ++ padded 2 t.second ++ fractionText t.microsecond
    ++ (match t.offset with
      | none => ""
      | some offset => offsetText offset)

end Calendar

end FormatLauncher
