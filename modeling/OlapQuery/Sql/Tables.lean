import OlapQuery.DataType
import OlapQuery.Sql.Template
import OlapQuery.Table
import OlapQuery.Time.Duration
import OlapQuery.Time.Part

-- The tables of a dialect: how it casts between types, which buckets it knows for a duration,
-- and how it takes a part of a time.

namespace OlapQuery.Sql

open Time (Duration Part)

structure CastEntry where
  source : DataType
  target : DataType
  template : Template

structure PartEntry where
  part : Part
  template : Template

-- Later entries stand before earlier ones, so the first match is the latest.
structure Tables where
  castEntries : List CastEntry := []
  -- Keyed by the text of the duration.
  buckets : Table String := []
  partEntries : List PartEntry := []

inductive Entry where
  | cast (target source : DataType) (template : String)
  | bucket (duration spec : String)
  | timePart (part : Part) (template : String)

namespace Tables

def cast? (t : Tables) (source target : DataType) : Option Template :=
  (t.castEntries.find? (fun e => e.source == source && e.target == target)).map (·.template)

def bucket? (t : Tables) (duration : Duration) : Checked (Option String) :=
  duration.display.map t.buckets.get?

def timePart? (t : Tables) (part : Part) : Option Template :=
  (t.partEntries.find? (fun e => e.part == part)).map (·.template)

def castPairs (t : Tables) : List (DataType × DataType) :=
  DataType.all.flatMap fun source =>
    (DataType.all.filter (fun target => (t.cast? source target).isSome)).map (fun target => (source,target))

def bucketDurations (t : Tables) : List Duration :=
  t.buckets.names.filterMap Duration.parse?

def timeParts (t : Tables) : List Part :=
  Part.all.filter (fun part => (t.timePart? part).isSome)

def add (t : Tables) : Entry → Except TemplateError Tables
  | .cast target source text => do
      let template ← Template.parse text
      return { t with castEntries := { source,target,template } :: t.castEntries }
  | .bucket text spec =>
      match Duration.parse? text with
      | some duration => .ok { t with buckets := t.buckets.insert duration.text spec }
      | none => .error (.invalidDuration text)
  | .timePart part text => do
      let template ← Template.parse text
      return { t with partEntries := { part,template } :: t.partEntries }

-- The durations of the buckets are printed, also behind an entry that is wrong.
def keysOf (entries : List Entry) : Checked (List String) :=
  (entries.filterMap fun
    | .bucket text _ => Duration.parse? text
    | _ => none).mapM Duration.display

-- Takes the entries in order; the first that is wrong is the error.
def build (entries : List Entry) : Except (Stop TemplateError) Tables := do
  let _ ← (keysOf entries).raise
  (entries.foldlM add {}).mapError .refused

end Tables

end OlapQuery.Sql
