import OlapQuery.TimeFilter

-- Intervals in Druid's text: `start/end`, the fields of a time that are zero left out at its
-- end, and open bounds a long time away.

namespace OlapQuery.Druid

open Time (Instant)

def openStart : String := "1000-01-01"
def openEnd : String := "3000-01-01"

-- `2015-03-12`, `2015-03-14T01`, `2015-03-14T01:30` or `2015-03-12T01:00:00.123`. A leap second
-- is always written with its fraction.
def trimTime (t : Instant) : String :=
  let clock := t.utcClock
  let (second,nanos) := clock.shownSecond
  let date := Time.dateText clock.date
  let hour := date ++ "T" ++ Time.padLeft 2 clock.hour
  let minute := hour ++ ":" ++ Time.padLeft 2 clock.minute
  let whole := minute ++ ":" ++ Time.padLeft 2 second
  if t.nanos / 1000000 ≠ 0 then whole ++ "." ++ Time.padLeft 3 (nanos / 1000000)
  else if clock.second ≠ 0 then whole
  else if clock.minute ≠ 0 then minute
  else if clock.hour ≠ 0 then hour
  else date

def intervalText (range : TimeRange) : String :=
  (range.start.map trimTime).getD openStart ++ "/" ++ (range.finish.map trimTime).getD openEnd

-- Without a restriction everything is scanned; ranges that left nothing are one empty interval.
def intervalTexts : Option (List TimeRange) → List String
  | none => [intervalText .unbounded]
  | some [] => [openStart ++ "/" ++ openStart]
  | some ranges => ranges.map intervalText

end OlapQuery.Druid
