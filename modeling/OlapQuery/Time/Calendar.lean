-- The proleptic Gregorian calendar. Day numbers count from 1970-01-01. Months run from March
-- inside the arithmetic, so that the leap day is the last day of its year.

namespace OlapQuery.Time

structure Date where
  year : Int
  month : Nat
  day : Nat
  deriving DecidableEq, Repr

def isLeapYear (year : Int) : Bool :=
  year % 4 == 0 && (year % 100 != 0 || year % 400 == 0)

def daysInMonth (year : Int) (month : Nat) : Nat :=
  if month == 2 then (if isLeapYear year then 29 else 28)
  else if month == 4 || month == 6 || month == 9 || month == 11 then 30
  else 31

def firstYear : Int := -262143
def lastYear : Int := 262142

def Date.inCalendar (d : Date) : Bool :=
  firstYear ≤ d.year && d.year ≤ lastYear

def Date.isValid (d : Date) : Bool :=
  1 ≤ d.month && d.month ≤ 12 && 1 ≤ d.day && d.day ≤ daysInMonth d.year d.month

-- Days before the first of a month, counted from the first of March.
def daysBeforeMonth (fromMarch : Int) : Int :=
  (153 * fromMarch + 2) / 5

def Date.dayNumber (d : Date) : Int :=
  let year := if d.month ≤ 2 then d.year - 1 else d.year
  let fromMarch : Int := if d.month ≤ 2 then d.month + 9 else d.month - 3
  let era := year / 400
  let yearOfEra := year % 400
  let dayOfYear := daysBeforeMonth fromMarch + (d.day : Int) - 1
  let dayOfEra := yearOfEra * 365 + yearOfEra / 4 - yearOfEra / 100 + dayOfYear
  era * 146097 + dayOfEra - 719468

def Date.ofDayNumber (n : Int) : Date :=
  let shifted := n + 719468
  let era := shifted / 146097
  let dayOfEra := shifted % 146097
  let yearOfEra := (dayOfEra - dayOfEra / 1460 + dayOfEra / 36524 - dayOfEra / 146096) / 365
  let dayOfYear := dayOfEra - (365 * yearOfEra + yearOfEra / 4 - yearOfEra / 100)
  let fromMarch := (5 * dayOfYear + 2) / 153
  let day := dayOfYear - daysBeforeMonth fromMarch + 1
  let month := if fromMarch < 10 then fromMarch + 3 else fromMarch - 9
  let year := yearOfEra + era * 400
  { year := if month ≤ 2 then year + 1 else year,month := month.toNat,day := day.toNat }

-- Days since Monday: 1970-01-01 was a Thursday.
def daysFromMonday (dayNumber : Int) : Int :=
  (dayNumber + 3) % 7

-- Moves by whole months; a day past the end of the new month becomes its last day.
def Date.addMonths (d : Date) (months : Int) : Date :=
  let count := d.year * 12 + (d.month : Int) - 1 + months
  let year := count / 12
  let month := (count % 12).toNat + 1
  { year,month,day := min d.day (daysInMonth year month) }

end OlapQuery.Time
