import OlapQuery.Decimal.Reader
import OlapQuery.Time.Calendar
import OlapQuery.Word

-- Instants and wall-clock times, with nanoseconds. A leap second is the 59th second of its
-- minute with a billion nanoseconds or more, so that it stands between its neighbours.

namespace OlapQuery.Time

structure Instant where
  seconds : Int
  nanos : Nat
  deriving DecidableEq, Repr, Inhabited

-- What a wall clock shows: seconds since its 1970-01-01T00:00:00.
structure LocalTime where
  seconds : Int
  nanos : Nat
  deriving DecidableEq, Repr

namespace Instant

def le (a b : Instant) : Bool :=
  a.seconds < b.seconds || (a.seconds == b.seconds && a.nanos ≤ b.nanos)

def max (a b : Instant) : Instant :=
  if le a b then b else a

def min (a b : Instant) : Instant :=
  if le a b then a else b

-- Adds milliseconds, fewer than a thousand. Inside a leap second time goes on until its end.
def addMillis (t : Instant) (millis : Nat) : Instant :=
  let step := millis * 1000000
  let second := 1000000000
  if t.nanos ≥ second then
    if t.nanos + step ≥ 2 * second then
      { seconds := t.seconds + 1,nanos := t.nanos + step - 2 * second }
    else { t with nanos := t.nanos + step }
  else if t.nanos + step ≥ second then
    { seconds := t.seconds + 1,nanos := t.nanos + step - second }
  else { t with nanos := t.nanos + step }

end Instant

namespace LocalTime

def dayNumber (t : LocalTime) : Int :=
  t.seconds / 86400

def date (t : LocalTime) : Date :=
  Date.ofDayNumber t.dayNumber

def secondOfDay (t : LocalTime) : Nat :=
  (t.seconds % 86400).toNat

def hour (t : LocalTime) : Nat :=
  t.secondOfDay / 3600

def minute (t : LocalTime) : Nat :=
  t.secondOfDay / 60 % 60

def second (t : LocalTime) : Nat :=
  t.secondOfDay % 60

def ofParts (dayNumber : Int) (hour minute second : Nat) : LocalTime :=
  { seconds := dayNumber * 86400 + (hour * 3600 + minute * 60 + second : Nat),nanos := 0 }

def midnight (dayNumber : Int) : LocalTime :=
  ofParts dayNumber 0 0 0

-- Moves by whole seconds. A move out of a leap second counts from the second it extends when
-- it goes forward, and from the next one when it goes back.
def addSeconds (t : LocalTime) (delta : Int) : LocalTime :=
  if t.nanos ≥ 1000000000 && delta != 0 then
    if delta > 0 then { seconds := t.seconds + delta,nanos := t.nanos - 1000000000 }
    else { seconds := t.seconds + 1 + delta,nanos := t.nanos - 1000000000 }
  else { t with seconds := t.seconds + delta }

end LocalTime

-- The clock of Greenwich shows the instant itself.
def Instant.utcClock (t : Instant) : LocalTime :=
  { seconds := t.seconds,nanos := t.nanos }

def Instant.inCalendar (t : Instant) : Bool :=
  t.utcClock.date.inCalendar

-- The next millisecond; there is none after the end of the calendar.
def Instant.next (t : Instant) : Checked Instant :=
  if (t.addMillis 1).inCalendar then .ok (t.addMillis 1) else .error .panic

def padLeft (width : Nat) (n : Nat) : String :=
  let digits := toString n
  String.ofList (List.replicate (width - digits.length) '0') ++ digits

def yearText (year : Int) : String :=
  if 0 ≤ year ∧ year ≤ 9999 then padLeft 4 year.toNat
  else (if year < 0 then "-" else "+") ++ padLeft 4 year.natAbs

def dateText (d : Date) : String :=
  yearText d.year ++ "-" ++ padLeft 2 d.month ++ "-" ++ padLeft 2 d.day

def LocalTime.shownSecond (t : LocalTime) : Nat × Nat :=
  if t.nanos ≥ 1000000000 then (t.second + 1,t.nanos - 1000000000) else (t.second,t.nanos)

def LocalTime.textWithFraction (t : LocalTime) (fraction : Nat → String) : String :=
  let (second,nanos) := t.shownSecond
  dateText t.date ++ "T" ++ padLeft 2 t.hour ++ ":" ++ padLeft 2 t.minute ++ ":"
    ++ padLeft 2 second ++ fraction nanos

def Instant.millisText (t : Instant) : String :=
  t.utcClock.textWithFraction (fun nanos => "." ++ padLeft 3 (nanos / 1000000)) ++ "Z"

-- As many fraction digits, in groups of three, as the instant needs.
def Instant.exactText (t : Instant) : String :=
  t.utcClock.textWithFraction (fun nanos =>
    if nanos == 0 then ""
    else if nanos % 1000000 == 0 then "." ++ padLeft 3 (nanos / 1000000)
    else if nanos % 1000 == 0 then "." ++ padLeft 6 (nanos / 1000)
    else "." ++ padLeft 9 nanos) ++ "Z"

def takeDigits (count : Nat) (cs : List Char) : Option (Nat × List Char) :=
  let digits := cs.take count
  if digits.length == count && digits.all Char.isDigit then
    some (Decimal.natOfDigits digits,cs.drop count)
  else none

def takeChar (accept : Char → Bool) : List Char → Option (List Char)
  | c :: rest => if accept c then some rest else none
  | [] => none

-- The fraction of a second in nanoseconds; digits past the ninth are cut off.
def takeFraction (cs : List Char) : Option (Nat × List Char) :=
  match cs with
  | '.' :: rest =>
      let digits := rest.takeWhile Char.isDigit
      let kept := digits.take 9
      if digits.isEmpty then none
      else some (Decimal.natOfDigits kept * Nat.pow 10 (9 - kept.length),rest.dropWhile Char.isDigit)
  | rest => some (0,rest)

-- `Z`, or a signed `hh:mm` below a day, in seconds.
def takeOffset (cs : List Char) : Option (Int × List Char) :=
  match cs with
  | 'Z' :: rest => some (0,rest)
  | 'z' :: rest => some (0,rest)
  | sign :: rest =>
      let minus := sign == '-' || sign.toNat == 0x2212
      if !minus && sign != '+' then none
      else do
        let (hours,rest) ← takeDigits 2 rest
        let rest ← takeChar (· == ':') rest
        let (minutes,rest) ← takeDigits 2 rest
        if hours > 23 || minutes > 59 then none
        let offset : Int := (hours * 3600 + minutes * 60 : Nat)
        some (if minus then -offset else offset,rest)
  | [] => none

-- The instant at which a clock with an offset, in seconds, shows a date and a time. The second 60
-- is a leap second.
def Instant.ofShown? (date : Date) (hour minute second nanos : Nat) (offset : Int) :
    Option Instant :=
  if !date.inCalendar || !date.isValid || hour > 23 || minute > 59 || second > 60 then none
  else
    let (second,nanos) := if second == 60 then (59,nanos + 1000000000) else (second,nanos)
    let clock := LocalTime.ofParts date.dayNumber hour minute second
    let t : Instant := { seconds := clock.seconds - offset,nanos }
    if t.utcClock.date.inCalendar then some t else none

def isDateTimeMark (c : Char) : Bool :=
  c == 'T' || c == 't' || c == ' '

def Instant.parse? (text : String) : Option Instant := do
  let cs := text.toList
  let (year,cs) ← takeDigits 4 cs
  let cs ← takeChar (· == '-') cs
  let (month,cs) ← takeDigits 2 cs
  let cs ← takeChar (· == '-') cs
  let (day,cs) ← takeDigits 2 cs
  let cs ← takeChar isDateTimeMark cs
  let (hour,cs) ← takeDigits 2 cs
  let cs ← takeChar (· == ':') cs
  let (minute,cs) ← takeDigits 2 cs
  let cs ← takeChar (· == ':') cs
  let (second,cs) ← takeDigits 2 cs
  let (nanos,cs) ← takeFraction cs
  let (offset,cs) ← takeOffset cs
  if cs.isEmpty then
    Instant.ofShown? { year := year,month := month,day := day } hour minute second nanos offset
  else none

end OlapQuery.Time
