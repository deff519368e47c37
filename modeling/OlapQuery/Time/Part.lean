import OlapQuery.Time.Zone

-- Calendar fields that can be taken from an instant.

namespace OlapQuery.Time

inductive Part where
  | secondOfMinute
  | secondOfHour
  | secondOfDay
  | secondOfWeek
  | secondOfMonth
  | secondOfYear
  | minuteOfHour
  | minuteOfDay
  | minuteOfWeek
  | minuteOfMonth
  | minuteOfYear
  | hourOfDay
  | hourOfWeek
  | hourOfMonth
  | hourOfYear
  | dayOfWeek
  | dayOfMonth
  | dayOfYear
  | weekOfMonth
  | weekOfYear
  | monthOfYear
  | quarter
  | year
  deriving DecidableEq, Repr

namespace Part

def all : List Part :=
  [.secondOfMinute,.secondOfHour,.secondOfDay,.secondOfWeek,.secondOfMonth,.secondOfYear,
    .minuteOfHour,.minuteOfDay,.minuteOfWeek,.minuteOfMonth,.minuteOfYear,.hourOfDay,
    .hourOfWeek,.hourOfMonth,.hourOfYear,.dayOfWeek,.dayOfMonth,.dayOfYear,.weekOfMonth,
    .weekOfYear,.monthOfYear,.quarter,.year]

def name : Part → String
  | .secondOfMinute => "SECOND_OF_MINUTE"
  | .secondOfHour => "SECOND_OF_HOUR"
  | .secondOfDay => "SECOND_OF_DAY"
  | .secondOfWeek => "SECOND_OF_WEEK"
  | .secondOfMonth => "SECOND_OF_MONTH"
  | .secondOfYear => "SECOND_OF_YEAR"
  | .minuteOfHour => "MINUTE_OF_HOUR"
  | .minuteOfDay => "MINUTE_OF_DAY"
  | .minuteOfWeek => "MINUTE_OF_WEEK"
  | .minuteOfMonth => "MINUTE_OF_MONTH"
  | .minuteOfYear => "MINUTE_OF_YEAR"
  | .hourOfDay => "HOUR_OF_DAY"
  | .hourOfWeek => "HOUR_OF_WEEK"
  | .hourOfMonth => "HOUR_OF_MONTH"
  | .hourOfYear => "HOUR_OF_YEAR"
  | .dayOfWeek => "DAY_OF_WEEK"
  | .dayOfMonth => "DAY_OF_MONTH"
  | .dayOfYear => "DAY_OF_YEAR"
  | .weekOfMonth => "WEEK_OF_MONTH"
  | .weekOfYear => "WEEK_OF_YEAR"
  | .monthOfYear => "MONTH_OF_YEAR"
  | .quarter => "QUARTER"
  | .year => "YEAR"

def parse? (text : String) : Option Part :=
  all.find? (fun part => part.name == text)

def parse (text : String) : Except TimeError Part :=
  match parse? text with
  | some part => .ok part
  | none => .error (.unknownPart text)

def cardinality : Part → Option Nat
  | .secondOfMinute => some 60
  | .minuteOfHour => some 60
  | .secondOfHour => some 3600
  | .minuteOfDay => some 1440
  | .hourOfDay => some 24
  | .hourOfWeek => some 168
  | .hourOfMonth => some 744
  | .dayOfWeek => some 7
  | .dayOfMonth => some 31
  | .dayOfYear => some 366
  | .weekOfMonth => some 5
  | .weekOfYear => some 53
  | .monthOfYear => some 12
  | .quarter => some 4
  | _ => none

end Part

end OlapQuery.Time
