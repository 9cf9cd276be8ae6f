/-
# Values as text

A value has two texts.  Its literal shows the kind: texts and bytes are quoted, containers show the
literals of their contents.  Its plain text is the literal, except that a text is itself and a day
or a time is written the usual way.  A container inside itself is shown as an ellipsis.  Neither
text exists for a value with an integer that has too many digits.
-/

import FormatLauncher.Decimal.Form
import FormatLauncher.Text.Quoted
import FormatLauncher.Value.Basic

namespace FormatLauncher.Value

/-- A literal of a span of time, its days negative when the span is. -/
def spanLiteral (microseconds : Int) : String :=
  let days := microseconds.fdiv 86400000000
  let rest := (microseconds.fmod 86400000000).toNat
  let part (name : String) (n : Int) : List String :=
    if n = 0 then [] else [name ++ "=" ++ toString n]
  let parts := part "days" days ++ part "seconds" (rest / 1000000)
    ++ part "microseconds" (rest % 1000000)
  let inside := if parts.isEmpty then "0" else ", ".intercalate parts
  "datetime.timedelta(" ++ inside ++ ")"

/-- A literal of an offset. -/
def offsetLiteral (offset : Int) : String :=
  if offset = 0 then "datetime.timezone.utc"
  else "datetime.timezone(" ++ spanLiteral offset ++ ")"

/-- A literal of a day. -/
def dateLiteral (d : Date) : String :=
  "datetime.date(" ++ ", ".intercalate ([d.year, d.month, d.day].map toString) ++ ")"

/-- A literal of a time; seconds and microseconds are left out while they are zero at the end. -/
def timeLiteral (t : DateTime) : String :=
  let tail :=
    if t.microsecond ≠ 0 then [t.second, t.microsecond]
    else if t.second ≠ 0 then [t.second] else []
  let numbers := [t.date.year, t.date.month, t.date.day, t.hour, t.minute] ++ tail
  let zone := match t.offset with
    | none => []
    | some offset => ["tzinfo=" ++ offsetLiteral offset]
  "datetime.datetime(" ++ ", ".intercalate (numbers.map toString ++ zone) ++ ")"

/-- The most digits of an integer that can be written in decimal, or read. -/
def digitLimit : Nat := 4300

/-- The least number with too many digits. -/
def leastUnwritable : Nat := Nat.pow 10 digitLimit

/-- The decimal text of an integer; none when it has too many digits. -/
def integerText? (n : Int) : Option String :=
  if n.natAbs < leastUnwritable then some (toString n) else none

/-- What stands for a container where it is met inside itself. -/
def ellipsis : Value → String
  | .map _ => "\x7b...\x7d"
  | .tuple _ => "(...)"
  | _ => "[...]"

mutual

/-- The literal of a value inside the containers of some marks. -/
def literalWithin? (above : List Nat) : Value → Option String
  | .null => some "None"
  | .bool b => some (if b then "True" else "False")
  | .int n => integerText? n
  | .float x => some x.toText
  | .text s => some (Text.quoted s)
  | .bytes b => some (Text.quotedBytes b)
  | .date d => some (dateLiteral d)
  | .time t => some (timeLiteral t)
  | .list items =>
    (literalsWithin? above items).map fun texts => "[" ++ ", ".intercalate texts ++ "]"
  | .tuple [item] => (literalWithin? above item).map fun shown => "(" ++ shown ++ ",)"
  | .tuple items =>
    (literalsWithin? above items).map fun texts => "(" ++ ", ".intercalate texts ++ ")"
  | .map entries =>
    (entryLiteralsWithin? above entries).map fun texts =>
      "\x7b" ++ ", ".intercalate texts ++ "\x7d"
  | .set [] => some "set()"
  | .set items =>
    (literalsWithin? above items).map fun texts => "\x7b" ++ ", ".intercalate texts ++ "\x7d"
  | .circular mark container =>
    if above.contains mark then some container.ellipsis
    else literalWithin? (mark :: above) container

/-- The literals of items. -/
def literalsWithin? (above : List Nat) : List Value → Option (List String)
  | [] => some []
  | item :: rest =>
    match literalWithin? above item, literalsWithin? above rest with
    | some shown, some more => some (shown :: more)
    | _, _ => none

/-- The literals of entries. -/
def entryLiteralsWithin? (above : List Nat) : List (Value × Value) → Option (List String)
  | [] => some []
  | (k, v) :: rest =>
    match literalWithin? above k, literalWithin? above v, entryLiteralsWithin? above rest with
    | some key, some value, some texts => some ((key ++ ": " ++ value) :: texts)
    | _, _, _ => none

end

/-- The literal of a value. -/
def literal? (v : Value) : Option String := v.literalWithin? []

/-- The plain text of a value. -/
def plainText? : Value → Option String
  | .text s => some s
  | .date d => some (Calendar.dateText d)
  | .time t => some (Calendar.timeText " " t)
  | v => v.literal?

/-- The literal of a list of texts. -/
def textsLiteral (texts : List String) : String :=
  "[" ++ ", ".intercalate (texts.map Text.quoted) ++ "]"

end FormatLauncher.Value
