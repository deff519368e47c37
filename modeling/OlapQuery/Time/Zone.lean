import OlapQuery.Time.Instant

-- Time zones as the history of a clock's distance from Greenwich time.

namespace OlapQuery.Time

inductive TimeError where
  | invalidDuration (text : String)
  | unknownZone (name : String)
  | unknownPart (name : String)
  deriving DecidableEq, Repr

def TimeError.message : TimeError → String
  | .invalidDuration text => "Invalid ISO-8601 duration: " ++ text
  | .unknownZone name => "Unknown timezone: " ++ name
  | .unknownPart name => "Unknown time part: " ++ name

-- From the second `since` of Greenwich time on, the clock is `offset` seconds ahead.
structure Change where
  since : Int
  offset : Int
  deriving DecidableEq, Repr

structure Zone where
  name : String
  standing : Int
  changes : List Change
  deriving DecidableEq, Repr

namespace Zone

def greenwich (name : String) : Zone :=
  { name,standing := 0,changes := [] }

def utc : Zone := greenwich "Etc/UTC"

def isUtc (zone : Zone) : Bool :=
  ["Etc/UTC","UTC","Etc/GMT","GMT","Etc/Universal"].contains zone.name

def offsetAt (zone : Zone) (seconds : Int) : Int :=
  zone.changes.foldl
    (fun offset change => if change.since ≤ seconds then change.offset else offset) zone.standing

def localTime (zone : Zone) (t : Instant) : LocalTime :=
  { seconds := t.seconds + zone.offsetAt t.seconds,nanos := t.nanos }

def clock (zone : Zone) (t : Instant) : Checked LocalTime :=
  if (zone.localTime t).date.inCalendar then .ok (zone.localTime t) else .error .panic

def momentsOf (zone : Zone) (shown : Int) : List Int :=
  ((zone.standing :: zone.changes.map (·.offset)).map (fun offset => shown - offset)).filter
    (fun moment => moment + zone.offsetAt moment == shown)

-- The earliest instant at which the clock shows a time; none when the clock skips it, and none
-- outside the calendar.
def instant? (zone : Zone) (t : LocalTime) : Option Instant :=
  ((zone.momentsOf t.seconds).min?.map fun seconds => { seconds,nanos := t.nanos }).filter
    Instant.inCalendar

-- The zones that are known by name. A zone goes by the name under which it is found, and names
-- are made of letters, digits and a few marks.
structure Database where
  find? : String → Option Zone
  named : ∀ {name zone}, find? name = some zone → zone.name = name
  plain : ∀ {name zone}, find? name = some zone →
    name.toList.all (fun c => c.isAlphanum || ['/','_','+','-'].contains c) = true

def parse (zones : Database) (name : String) : Except TimeError Zone :=
  match zones.find? name with
  | some zone => .ok zone
  | none => .error (.unknownZone name)

end Zone

end OlapQuery.Time
