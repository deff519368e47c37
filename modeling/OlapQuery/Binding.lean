import OlapQuery.Dataset
import OlapQuery.Expr.Conjunction
import OlapQuery.Json.Printer
import OlapQuery.Text.Lower

-- Binding a nested split to one row of the split around it: the rows of the dataset are
-- narrowed to those that have the row's keys. Keys that are buckets become ranges, other keys
-- become equalities.

namespace OlapQuery

open Time (Duration Instant Zone)

namespace Binding

-- Narrows the operand of the outermost split of a chain; without a split, its base.
def narrow (predicate : Expr) : Expr → Expr
  | .split e keys dataName => .split (.filter e predicate) keys dataName
  | .binary .filter e condition => .binary .filter (narrow predicate e) condition
  | .binary (.apply name) e x => .binary (.apply name) (narrow predicate e) x
  | .binary (.sort direction) e key => .binary (.sort direction) (narrow predicate e) key
  | .unary (.limit n) e => .unary (.limit n) (narrow predicate e)
  | e => .filter e predicate

-- An instant of an engine's answer: a timestamp, or milliseconds since 1970.
def jsonTime : Json → Option Instant
  | .str s => Instant.parse? s
  | .int ms =>
      let t : Instant := { seconds := ms / 1000,nanos := (ms % 1000).toNat * 1000000 }
      if Word.minInt64 ≤ ms && ms ≤ Word.maxInt64 && t.utcClock.date.inCalendar then some t else none
  | _ => none

def badKeyValue (key : Expr) (json : Json) : CompileError :=
  .unsupportedExpression ("value " ++ json.compact ++ " for split key " ++ key.opName)

def orBadKey (key : Expr) (json : Json) : Option α → Compiled α
  | some a => .ok a
  | none => .error (.refused (badKeyValue key json))

def keyPredicate (dataset : Dataset) (key : Expr) (json : Json) : Compiled Expr :=
  match key with
  | .timeBucket e duration zone => do
      let start ← orBadKey key json (jsonTime json)
      match ← (duration.shift start (zone.getD Zone.utc) 1).raise with
      | none => throw (.refused (.unsupportedDuration (← duration.display.raise)))
      | some finish =>
          return .member e (.literal (.timeRange { start := some start,finish := some finish }))
  | .numberBucket e size _ => do
      let start ← orBadKey key json json.number?
      return .member e (.literal (.numberRange { start := some start,finish := some (start + size) }))
  | other => do
      let type ← Compiled.ofTyping (other.inferType dataset.attributeType?)
      let value ← orBadKey key json (Value.ofJson json type)
      return .is other (.literal value)

-- The conditions of all keys; a key that the row lacks is null in it.
def rowPredicates (dataset : Dataset) (keys : List (String × Expr)) (row : Row) :
    Compiled (List Expr) :=
  keys.mapM (fun key => keyPredicate dataset key.2 ((row.get? key.1).getD .null))

def bind (dataset : Dataset) (nested : Expr) (keys : List (String × Expr)) (row : Row) :
    Compiled Expr := do
  let predicate := Expr.andAll (← rowPredicates dataset keys row)
  if predicate.isTrue then return nested else return narrow predicate nested

def simulationTime : Instant :=
  { seconds := ({ year := 2015,month := 3,day := 14 : Time.Date }).dayNumber * 86400,nanos := 0 }

def simulatedNumber : Float := 4.0

def flooredText (duration : Duration) (zone : Option Zone) : Compiled Json := do
  match ← (duration.floor simulationTime (zone.getD Zone.utc)).raise with
  | some t => return .str t.millisText
  | none => throw (.refused (.unsupportedDuration (← duration.display.raise)))

-- A plausible value for a key. Texts are named after the first column the key refers to.
def simulatedValue (dataset : Dataset) (name : String) (key : Expr) : Compiled Json :=
  match key with
  | .timeBucket _ duration zone => flooredText duration zone
  | .timeFloor _ duration zone => flooredText duration zone
  | .numberBucket _ size offset =>
      .ok (Json.ofNumber (((simulatedNumber - offset) / size).floor * size + offset))
  | other => do
      match ← Compiled.ofTyping (other.inferType dataset.attributeType?) with
      | .number => return Json.ofNumber simulatedNumber
      | .boolean => return .bool true
      | .time => return .str simulationTime.millisText
      | _ =>
          let column := other.references.find? (fun name => (dataset.attribute? name).isSome)
          return .str ("some_" ++ column.getD (Text.lower name))

def simulatedRow (dataset : Dataset) (keys : List (String × Expr)) : Compiled Row :=
  keys.foldlM (fun row key => do
    return row.insert key.1 (← simulatedValue dataset key.1 key.2)) []

end Binding

end OlapQuery
