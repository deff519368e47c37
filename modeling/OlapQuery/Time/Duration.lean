import OlapQuery.Time.Zone

-- Calendar durations such as `PT1H` or `P1Y1M1DT1H1M1S`, and the week-only `P2W`. Counts are
-- 32-bit words. Flooring and shifting go by the wall clock of a zone.

namespace OlapQuery.Time

inductive CalendarUnit where
  | year
  | month
  | week
  | day
  | hour
  | minute
  | second
  deriving DecidableEq, Repr

def CalendarUnit.name : CalendarUnit → String
  | .year => "year"
  | .month => "month"
  | .week => "week"
  | .day => "day"
  | .hour => "hour"
  | .minute => "minute"
  | .second => "second"

structure Duration where
  years : UInt32 := 0
  months : UInt32 := 0
  weeks : UInt32 := 0
  days : UInt32 := 0
  hours : UInt32 := 0
  minutes : UInt32 := 0
  seconds : UInt32 := 0
  deriving DecidableEq, Repr

namespace Duration

def count (d : Duration) : CalendarUnit → UInt32
  | .year => d.years
  | .month => d.months
  | .week => d.weeks
  | .day => d.days
  | .hour => d.hours
  | .minute => d.minutes
  | .second => d.seconds

def setCount (d : Duration) (n : UInt32) : CalendarUnit → Duration
  | .year => { d with years := n }
  | .month => { d with months := n }
  | .week => { d with weeks := n }
  | .day => { d with days := n }
  | .hour => { d with hours := n }
  | .minute => { d with minutes := n }
  | .second => { d with seconds := n }

def components (d : Duration) : List (CalendarUnit × UInt32) :=
  ([.year,.month,.week,.day,.hour,.minute,.second].map fun u => (u,d.count u)).filter
    (fun part => part.2 != 0)

def singleUnit (d : Duration) : Option (CalendarUnit × UInt32) :=
  match d.components with
  | [part] => some part
  | _ => none

def isFloorable (d : Duration) : Bool :=
  match d.singleUnit with
  | some (.second,n) => 60 % n == 0
  | some (.minute,n) => 60 % n == 0
  | some (.hour,n) => 24 % n == 0
  | some (.month,n) => 12 % n == 0
  | some (.day,n) => n == 1
  | some (.week,n) => n == 1
  | some (.year,_) => true
  | none => false

def unitOfLetter (inTime : Bool) (c : Char) : Option CalendarUnit :=
  match inTime,c with
  | false,'Y' => some .year
  | false,'M' => some .month
  | false,'W' => some .week
  | false,'D' => some .day
  | true,'H' => some .hour
  | true,'M' => some .minute
  | true,'S' => some .second
  | _,_ => none

def readCount (digits : List Char) : Option UInt32 :=
  let n := Decimal.natOfDigits digits
  if digits.isEmpty || n ≥ 4294967296 then none else some n.toUInt32

-- Reads groups of digits and a letter. The digits of the current group are in reverse.
def readGroups (d : Duration) (inTime : Bool) (digits : List Char) :
    List Char → Option Duration
  | [] => if digits.isEmpty then some d else none
  | c :: rest =>
      if c == 'T' && !inTime && digits.isEmpty then readGroups d true [] rest
      else if c.isDigit then readGroups d inTime (c :: digits) rest
      else
        match readCount digits.reverse,unitOfLetter inTime c with
        | some n,some u => readGroups (d.setCount n u) inTime [] rest
        | _,_ => none

def parse? (text : String) : Option Duration := do
  let body ← match text.toList with
    | 'P' :: rest => some rest
    | _ => none
  let d ← readGroups {} false [] body
  if d == {} then none
  else if d.weeks != 0 && d.components.length > 1 then none
  else some d

def parse (text : String) : Except TimeError Duration :=
  match parse? text with
  | some d => .ok d
  | none => .error (.invalidDuration text)

def partText (n : UInt32) (letter : String) : String :=
  if n == 0 then "" else toString n.toNat ++ letter

def text (d : Duration) : String :=
  if d.weeks != 0 then "P" ++ toString d.weeks.toNat ++ "W"
  else
    "P" ++ partText d.years "Y" ++ partText d.months "M" ++ partText d.days "D"
      ++ (if d.hours != 0 || d.minutes != 0 || d.seconds != 0 then
            "T" ++ partText d.hours "H" ++ partText d.minutes "M" ++ partText d.seconds "S"
          else "")

-- The text as it is printed. Whether there is a clock to print is read off its sum, a word.
def display (d : Duration) : Checked String :=
  if d.weeks != 0 then .ok d.text
  else do
    let _ ← Checked.word32 (d.hours.toNat + d.minutes.toNat + d.seconds.toNat)
    return d.text

def signed (n : UInt32) : Int :=
  n.toInt32.toInt

-- The start of the bucket that a wall-clock time falls in; none for mixed durations and for
-- years outside the calendar.
def floorLocal (d : Duration) (t : LocalTime) : Option LocalTime := do
  let (unit,word) ← d.singleUnit
  let n := word.toNat
  match unit with
  | .second => some (.ofParts t.dayNumber t.hour t.minute (t.second / n * n))
  | .minute => some (.ofParts t.dayNumber t.hour (t.minute / n * n) 0)
  | .hour => some (.ofParts t.dayNumber (t.hour / n * n) 0 0)
  | .day => some (.midnight t.dayNumber)
  | .week => some (.midnight (t.dayNumber - daysFromMonday t.dayNumber))
  | .month =>
      let date : Date := { t.date with month := (t.date.month - 1) / n * n + 1,day := 1 }
      some (.midnight date.dayNumber)
  | .year =>
      let step := signed word
      let date : Date := { year := t.date.year / step * step,month := 1,day := 1 }
      if date.inCalendar then some (.midnight date.dayNumber) else none

-- The start of the bucket of `t` by the zone's clock; none also when the clock skips it. A week may
-- start before the calendar does.
def floor (d : Duration) (t : Instant) (zone : Zone) : Checked (Option Instant) :=
  if d.singleUnit.isNone then .ok none
  else do
    match d.floorLocal (← zone.clock t) with
    | none => return none
    | some start => if start.date.inCalendar then return zone.instant? start else throw .panic

-- Months to move, as the calendar takes them: a word's worth in either direction, and none of
-- 2^31 or more.
def monthStep? (months : Int) : Option Int :=
  let n : Nat := months.natAbs % 4294967296
  if n ≥ 2147483648 then none else some (if months < 0 then -(n : Int) else n)

def shiftMonths (t : LocalTime) (months : Int) : Option LocalTime := do
  let n ← monthStep? months
  if n == 0 then some t
  else
    let date := t.date.addMonths n
    if date.inCalendar then
      some { t with seconds := date.dayNumber * 86400 + t.secondOfDay }
    else none

def fixedSeconds (d : Duration) : Int :=
  d.weeks.toNat * 604800 + d.days.toNat * 86400 + d.hours.toNat * 3600 + d.minutes.toNat * 60
    + d.seconds.toNat

-- Moves `t` by `step` times the duration on the zone's clock: first the months, then the rest.
-- There is no answer when the months leave the calendar or the clock skips the result, but the
-- program breaks off when the rest leaves the calendar.
def shift (d : Duration) (t : Instant) (zone : Zone) (step : Int) : Checked (Option Instant) := do
  let shown ← zone.clock t
  let months ← Checked.word32 (d.years.toNat * 12 + d.months.toNat)
  match shiftMonths shown (months * step) with
  | none => return none
  | some moved =>
      let shifted := moved.addSeconds (d.fixedSeconds * step)
      if shifted.date.inCalendar then return zone.instant? shifted else throw .panic

end Duration

end OlapQuery.Time
