/-
# Days and times in a document

A day is written as year, month and day with hyphens between them.  A time follows it after a letter
or blanks, with an optional fraction of a second and an optional offset from universal time.
-/

import FormatLauncher.Failure
import FormatLauncher.Yaml.Character

namespace FormatLauncher.Yaml.Timestamp

/-- A number in decimal. -/
def number (digits : List Char) : Nat := digits.foldl (fun n c => n * 10 + (c.toNat - 0x30)) 0

/-- A number of a least and a greatest count of digits, as many as there are, and what follows. -/
def readDigits? (least greatest : Nat) (text : List Char) : Option (List Char × List Char) :=
  let digits := (text.take greatest).takeWhile isDigit
  if digits.length < least then none else some (digits, text.drop digits.length)

/-- What follows a character that has to come next. -/
def expect? (mark : Char) (text : List Char) : Option (List Char) :=
  if text.head? = some mark then some text.tail else none

/-- The offset of a time. -/
inductive Zone
  | absent
  | universal
  /-- A sign, hours and minutes. -/
  | shifted (negative : Bool) (hours minutes : Nat)
  deriving DecidableEq, Repr

/-- A time of day as it is written. -/
structure Clock where
  hour : Nat
  minute : Nat
  second : Nat
  fraction : List Char
  zone : Zone
  deriving DecidableEq, Repr

/-- A day, perhaps with a time, as it is written. -/
structure Written where
  year : Nat
  month : Nat
  day : Nat
  clock : Option Clock
  deriving DecidableEq, Repr

/-- An offset up to the end of the text. -/
def readZone? (text : List Char) : Option Zone :=
  match text.dropWhile isGap with
  | [] => if text = [] then some .absent else none
  | ['Z'] => some .universal
  | sign :: rest =>
    if sign = '-' ∨ sign = '+' then do
      let (hours, rest) ← readDigits? 1 2 rest
      let minutes ←
        if rest = [] then some 0
        else do
          let (minutes, rest) ← readDigits? 2 2 (← expect? ':' rest)
          if rest = [] then some (number minutes) else none
      some (.shifted (sign = '-') (number hours) minutes)
    else none

/-- A time of day up to the end of the text. -/
def readClock? (text : List Char) : Option Clock := do
  let (hour, rest) ← readDigits? 1 2 text
  let (minute, rest) ← readDigits? 2 2 (← expect? ':' rest)
  let (second, rest) ← readDigits? 2 2 (← expect? ':' rest)
  let (fraction, rest) :=
    if rest.head? = some '.' then (rest.tail.takeWhile isDigit, rest.tail.dropWhile isDigit)
    else ([], rest)
  let zone ← readZone? rest
  some ⟨number hour, number minute, number second, fraction, zone⟩

/-- The text of a time of day, after what separates it from the day. -/
def clockText? (text : List Char) : Option (List Char) :=
  match text with
  | 'T' :: rest | 't' :: rest => some rest
  | c :: _ => if isGap c then some (text.dropWhile isGap) else none
  | [] => none

/-- A day, perhaps with a time. -/
def read? (text : List Char) : Option Written := do
  let (year, rest) ← readDigits? 4 4 text
  let (month, rest) ← readDigits? 1 2 (← expect? '-' rest)
  let (day, rest) ← readDigits? 1 2 (← expect? '-' rest)
  let clock ←
    if rest = [] then some none else (clockText? rest).bind fun t => (readClock? t).map some
  some ⟨number year, number month, number day, clock⟩

/-- The text is spelled as a day or a time; a day alone has all its ten characters. -/
def isSpelled (text : List Char) : Bool :=
  match read? text with
  | none => false
  | some written => written.clock.isSome || text.length = 10

/-- The microseconds of a fraction, further digits dropped. -/
def microseconds (fraction : List Char) : Nat :=
  number (fraction.take 6 ++ List.replicate (6 - fraction.length) '0')

/-- The seconds of an offset; an offset of a day or more is refused. -/
def offsetSeconds : Zone → Except CalendarFault (Option Int)
  | .absent => .ok none
  | .universal => .ok (some 0)
  | .shifted negative hours minutes =>
    let seconds : Int := (hours * 60 + minutes) * 60
    let seconds := if negative then -seconds else seconds
    if seconds.natAbs < 86400 then .ok (some seconds) else .error (.offset seconds)

/-- The day or the time a text stands for. -/
inductive Moment
  | day (d : Date)
  | time (t : DateTime)

/-- The moment as it exists in the calendar. -/
def Written.moment (written : Written) : Except CalendarFault Moment :=
  match written.clock with
  | none => (Date.make written.year written.month written.day).map .day
  | some clock =>
    match offsetSeconds clock.zone with
    | .error fault => .error fault
    | .ok offset =>
      (DateTime.make written.year written.month written.day clock.hour clock.minute clock.second
        (microseconds clock.fraction) (offset.map (· * 1000000))).map .time

/-- The moment a text stands for; a line feed at its end does not count. -/
def moment (text : List Char) : Except DocumentFault Moment :=
  match read? (dropLastBreak text) with
  | none => .error .notTime
  | some written =>
    match written.moment with
    | .ok m => .ok m
    | .error fault => .error (.calendar fault)

end FormatLauncher.Yaml.Timestamp
