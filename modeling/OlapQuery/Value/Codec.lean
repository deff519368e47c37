import OlapQuery.Json.Record
import OlapQuery.Time.LooseText
import OlapQuery.Value

-- The JSON form of values: a record with the kind of value under `type` and, but for null, the
-- content under `value`. Ranges and sets are records too.

namespace OlapQuery

open Time (Instant)

namespace Json

def typeFrom? (origin : Origin) (j : Json) : Option DataType :=
  (j.choice? origin).bind DataType.parse?

def type? (j : Json) : Option DataType :=
  j.typeFrom? .document

def instant? (j : Json) : Option Instant :=
  j.str?.bind Instant.parse?

-- The times inside values may be written loosely.
def looseInstant? (j : Json) : Option Instant :=
  j.str?.bind Instant.parseLoose?

def ofInstant (t : Instant) : Json :=
  .str t.exactText

def bounds? (j : Json) : Option (Option Json × Option Json) := do
  let fields ← (← j.parts?).fields? .document (required ["start","end"])
  some (List.lookup "start" fields,List.lookup "end" fields)

end Json

namespace TimeRange

def toJson (r : TimeRange) : Json :=
  .obj [("start",Json.ofOption Json.ofInstant r.start),
    ("end",Json.ofOption Json.ofInstant r.finish)]

def ofJson? (j : Json) : Option TimeRange := do
  let (low,high) ← j.bounds?
  let start ← Json.optional Json.looseInstant? low
  let finish ← Json.optional Json.looseInstant? high
  some { start,finish }

end TimeRange

namespace NumberRange

def toJson (r : NumberRange) : Json :=
  .obj [("start",Json.ofOption Json.ofFloat r.start),("end",Json.ofOption Json.ofFloat r.finish)]

def ofJson? (j : Json) : Option NumberRange := do
  let (low,high) ← j.bounds?
  let start ← Json.optional Json.number? low
  let finish ← Json.optional Json.number? high
  some { start,finish }

end NumberRange

namespace Value

def tagged (kind : String) (content : Json) : Json :=
  .obj [("type",.str kind),("value",content)]

mutual
def toJson : Value → Json
  | .null => .obj [("type",.str "NULL")]
  | .boolean b => tagged "BOOLEAN" (.bool b)
  | .number n => tagged "NUMBER" (Json.ofFloat n)
  | .string s => tagged "STRING" (.str s)
  | .time t => tagged "TIME" (Json.ofInstant t)
  | .timeRange r => tagged "TIME_RANGE" r.toJson
  | .numberRange r => tagged "NUMBER_RANGE" r.toJson
  | .set elementType elements =>
      tagged "SET" (.obj [("setType",.str elementType.name),("elements",.arr (allToJson elements))])

def allToJson : List Value → List Json
  | [] => []
  | v :: rest => toJson v :: allToJson rest
end

def scalarOfJson? (kind : String) (content : Option Json) : Option Value :=
  match kind,content with
  | "NULL",none => some .null
  | "NULL",some .null => some .null
  | "BOOLEAN",some j => j.bool?.map .boolean
  | "NUMBER",some j => j.number?.map .number
  | "STRING",some j => j.str?.map .string
  | "TIME",some j => (Json.looseInstant? j).map .time
  | "TIME_RANGE",some j => (TimeRange.ofJson? j).map .timeRange
  | "NUMBER_RANGE",some j => (NumberRange.ofJson? j).map .numberRange
  | _,_ => none

-- What a piece of JSON can stand for inside a value. The record around it picks the reading it
-- needs.
structure Reading where
  json : Json
  value : Option Value := none
  elements : Option (List Value) := none
  setContent : Option Value := none

def ofParts? (origin : Json.Origin) (parts : Json.Parts Reading) : Option Value := do
  let fields ← parts.fields? .document (Json.required ["type","value"])
  let kind ← (← List.lookup "type" fields).json.choice? origin
  let content := List.lookup "value" fields
  if kind == "SET" then content.bind (fun r => r.setContent)
  else scalarOfJson? kind (content.map (fun r => r.json))

def setOfParts? (origin : Json.Origin) (parts : Json.Parts Reading) : Option Value := do
  let fields ← parts.fields? .document (Json.required ["setType","elements"])
  let type ← (← List.lookup "setType" fields).json.typeFrom? origin
  let elements ← (← List.lookup "elements" fields).elements
  some (.set type elements)

def elementsOf? : Json.Parts Reading → Option (List Value)
  | .items readings => readings.mapM (fun r => r.value)
  | .members _ => none

def reading (origin : Json.Origin) (j : Json) (parts : Option (Json.Parts Reading)) : Reading :=
  { json := j
    value := parts.bind (ofParts? origin)
    elements := parts.bind elementsOf?
    setContent := parts.bind (setOfParts? origin) }

abbrev read (origin : Json.Origin) : Json → Reading :=
  Json.readBy (reading origin)

def ofJsonFrom? (origin : Json.Origin) (j : Json) : Option Value :=
  (read origin j).value

def ofJson? (j : Json) : Option Value :=
  ofJsonFrom? .document j

end Value

end OlapQuery
