import OlapQuery.Expr.Basic
import OlapQuery.Value.Codec

-- The JSON form of expressions: a record with the operation under `op`, its operands, and what
-- the operation carries. Every member is written, but for an absent time zone. Zones are read by
-- name from those that are known.

namespace OlapQuery

open Time (Duration Zone Part)

namespace Json

def duration? (j : Json) : Option Duration :=
  j.str?.bind Duration.parse?

def zone? (zones : Zone.Database) (j : Json) : Option Zone :=
  j.str?.bind (fun name => (Zone.parse zones name).toOption)

def part? (j : Json) : Option Part :=
  j.str?.bind Part.parse?

def keptPart? (j : Json) : Option Part :=
  (j.choice? .kept).bind Part.parse?

def keptDirection? (j : Json) : Option Direction :=
  (j.choice? .kept).bind Direction.parse?

end Json

def UnaryOp.members : UnaryOp → List (String × Option Json)
  | .limit n => [("value",some (.int n.toNat))]
  | .count => []
  | .customAggregate name => [("custom",some (.str name))]
  | .absolute => []
  | .not => []
  | .regexMatch pattern => [("regexp",some (.str pattern))]
  | .substr position len => [("position",some (.int position.toInt)),("len",some (.int len.toInt))]
  | .extract pattern => [("regexp",some (.str pattern))]
  | .lookup name => [("lookupFn",some (.str name))]
  | .timeBucket duration zone =>
      [("duration",some (.str duration.text)),("timezone",zone.map (fun z => .str z.name))]
  | .timeFloor duration zone =>
      [("duration",some (.str duration.text)),("timezone",zone.map (fun z => .str z.name))]
  | .timePart part zone =>
      [("part",some (.str part.name)),("timezone",zone.map (fun z => .str z.name))]
  | .timeShift duration step zone =>
      [("duration",some (.str duration.text)),("step",some (.int step.toInt)),
        ("timezone",zone.map (fun z => .str z.name))]
  | .numberBucket size offset =>
      [("size",some (Json.ofFloat size)),("offset",some (Json.ofFloat offset))]
  | .cast type => [("outputType",some (.str type.name))]

def UnaryOp.duration? : UnaryOp → Option Duration
  | .timeBucket duration _ => some duration
  | .timeFloor duration _ => some duration
  | .timeShift duration _ _ => some duration
  | _ => none

def BinaryOp.members : BinaryOp → List (String × Option Json)
  | .apply name => [("name",some (.str name))]
  | .sort direction => [("direction",some (.str direction.name))]
  | .contains ignoreCase => [("ignoreCase",some (.bool ignoreCase))]
  | _ => []

namespace Expr

mutual
def toJson : Expr → Json
  | .literal v => .obj [("op",.str "literal"),("value",v.toJson)]
  | .ref name => .obj [("op",.str "ref"),("name",.str name)]
  | .ply => .obj [("op",.str "ply")]
  | .unary op e => .ofMembers
      (("op",some (.str op.name)) :: ("operand",some (toJson e)) :: op.members)
  | .binary op e x => .ofMembers
      (("op",some (.str op.name)) :: ("operand",some (toJson e))
        :: ("expression",some (toJson x)) :: op.members)
  | .junction op es => .obj [("op",.str op.name),("operands",.arr (allToJson es))]
  | .split e keys dataName => .obj
      [("op",.str "split"),("operand",toJson e),("keys",.obj (keysToJson keys)),
        ("dataName",.str dataName)]

def allToJson : List Expr → List Json
  | [] => []
  | e :: rest => toJson e :: allToJson rest

def keysToJson : List (String × Expr) → List (String × Json)
  | [] => []
  | (name,e) :: rest => (name,toJson e) :: keysToJson rest
end

def durations (e : Expr) : List Duration :=
  e.nodes.filterMap fun
    | .unary op _ => op.duration?
    | _ => none

-- Writes the expression. The text of a duration is the only part that may break off.
def encode (e : Expr) : Checked Json := do
  let _ ← e.durations.mapM Duration.display
  return e.toJson

-- What a piece of JSON can stand for inside an expression. The record around it picks the reading
-- it needs.
structure Reading where
  json : Json
  expr : Option Expr := none
  operands : Option (List Expr) := none
  keys : Option (List (String × Expr)) := none

-- The operations in the order of their places.
def operations : List String := [
    "literal","ref","ply","filter","split","apply","sort","limit","count","sum","min","max",
    "average","countDistinct","customAggregate","add","subtract","multiply","divide","power",
    "absolute","and","or","not","is","in","overlap","greaterThan","greaterThanOrEqual",
    "lessThan","lessThanOrEqual","contains","match","concat","substr","extract","lookup",
    "fallback","indexOf","timeBucket","timeFloor","timePart","timeShift","numberBucket","cast"]

def shape (op : String) : Json.Shape :=
  match op with
  | "literal" => Json.required ["value"]
  | "ref" => Json.required ["name"]
  | "ply" => []
  | "split" => Json.required ["operand","keys","dataName"]
  | "apply" => Json.required ["operand","name","expression"]
  | "sort" => Json.required ["operand","expression","direction"]
  | "limit" => Json.required ["operand","value"]
  | "count" | "absolute" | "not" => Json.required ["operand"]
  | "customAggregate" => Json.required ["operand","custom"]
  | "and" | "or" => Json.required ["operands"]
  | "contains" => Json.required ["operand","expression"] ++ Json.defaulted ["ignoreCase"]
  | "match" | "extract" => Json.required ["operand","regexp"]
  | "substr" => Json.required ["operand","position","len"]
  | "lookup" => Json.required ["operand","lookupFn"]
  | "timeBucket" | "timeFloor" =>
      Json.required ["operand","duration"] ++ Json.defaulted ["timezone"]
  | "timePart" => Json.required ["operand","part"] ++ Json.defaulted ["timezone"]
  | "timeShift" => Json.required ["operand","duration","step"] ++ Json.defaulted ["timezone"]
  | "numberBucket" => Json.required ["operand","size"] ++ Json.defaulted ["offset"]
  | "cast" => Json.required ["operand","outputType"]
  | _ => Json.required ["operand","expression"]

abbrev Members := List (String × Reading)

namespace Members

def json? (members : Members) (name : String) : Option Json :=
  (List.lookup name members).map (fun r => r.json)

def need (members : Members) (name : String) (decode : Json → Option α) : Option α :=
  (members.json? name).bind decode

def expr? (members : Members) (name : String) : Option Expr :=
  (List.lookup name members).bind (fun r => r.expr)

def zone? (zones : Zone.Database) (members : Members) : Option (Option Zone) :=
  Json.optional (Json.zone? zones) (members.json? "timezone")

end Members

def unaryOp? (zones : Zone.Database) (op : String) (members : Members) : Option UnaryOp :=
  match op with
  | "limit" => (members.need "value" Json.nat64?).map (fun n => .limit n.toUInt64)
  | "count" => some .count
  | "customAggregate" => (members.need "custom" Json.str?).map .customAggregate
  | "absolute" => some .absolute
  | "not" => some .not
  | "match" => (members.need "regexp" Json.str?).map .regexMatch
  | "substr" => do
      let position ← members.need "position" Json.int64?
      let len ← members.need "len" Json.int64?
      some (.substr position.toInt64 len.toInt64)
  | "extract" => (members.need "regexp" Json.str?).map .extract
  | "lookup" => (members.need "lookupFn" Json.str?).map .lookup
  | "timeBucket" => do
      let duration ← members.need "duration" Json.duration?
      let zone ← members.zone? zones
      some (.timeBucket duration zone)
  | "timeFloor" => do
      let duration ← members.need "duration" Json.duration?
      let zone ← members.zone? zones
      some (.timeFloor duration zone)
  | "timePart" => do
      let part ← members.need "part" Json.keptPart?
      let zone ← members.zone? zones
      some (.timePart part zone)
  | "timeShift" => do
      let duration ← members.need "duration" Json.duration?
      let step ← members.need "step" Json.int32?
      let zone ← members.zone? zones
      some (.timeShift duration step.toInt32 zone)
  | "numberBucket" => do
      let size ← members.need "size" Json.number?
      let offset ← Json.withDefault 0.0 Json.number? (members.json? "offset")
      some (.numberBucket size offset)
  | "cast" => (members.need "outputType" (Json.typeFrom? .kept)).map .cast
  | _ => none

def binaryOp? (op : String) (members : Members) : Option BinaryOp :=
  match op with
  | "filter" => some .filter
  | "apply" => (members.need "name" Json.str?).map .apply
  | "sort" => (members.need "direction" Json.keptDirection?).map .sort
  | "sum" => some .sum
  | "min" => some .min
  | "max" => some .max
  | "average" => some .average
  | "countDistinct" => some .countDistinct
  | "add" => some .add
  | "subtract" => some .subtract
  | "multiply" => some .multiply
  | "divide" => some .divide
  | "power" => some .power
  | "is" => some .is
  | "in" => some .member
  | "overlap" => some .overlap
  | "greaterThan" => some .greaterThan
  | "greaterThanOrEqual" => some .greaterThanOrEqual
  | "lessThan" => some .lessThan
  | "lessThanOrEqual" => some .lessThanOrEqual
  | "contains" => (Json.withDefault false Json.bool? (members.json? "ignoreCase")).map .contains
  | "concat" => some .concat
  | "fallback" => some .fallback
  | "indexOf" => some .indexOf
  | _ => none

def ofMembers? (zones : Zone.Database) (op : String) (members : Members) : Option Expr :=
  match op with
  | "literal" => (members.need "value" (Value.ofJsonFrom? .kept)).map .literal
  | "ref" => (members.need "name" Json.str?).map .ref
  | "ply" => some .ply
  | "and" => ((List.lookup "operands" members).bind (fun r => r.operands)).map .and
  | "or" => ((List.lookup "operands" members).bind (fun r => r.operands)).map .or
  | "split" => do
      let operand ← members.expr? "operand"
      let keys ← (List.lookup "keys" members).bind (fun r => r.keys)
      let dataName ← members.need "dataName" Json.str?
      some (.split operand keys dataName)
  | op =>
      match unaryOp? zones op members,binaryOp? op members with
      | some one,_ => (members.expr? "operand").map (.unary one)
      | none,some two => do
          let operand ← members.expr? "operand"
          let expression ← members.expr? "expression"
          some (.binary two operand expression)
      | none,none => none

def ofParts? (zones : Zone.Database) (origin : Json.Origin) (parts : Json.Parts Reading) :
    Option Expr := do
  let (tag,body) ← parts.tagged? "op"
  let op ← tag.json.kind? origin operations
  ofMembers? zones op (← body.fields? .kept (shape op))

-- All members of an object as expressions; of two with one name the later counts.
def keysOfMembers? (members : Members) : Option (List (String × Expr)) :=
  let keys := members.mapM fun (name,r) => (Reading.expr r).map (fun e => (name,e))
  keys.map Table.ofList

def operandsOf? : Json.Parts Reading → Option (List Expr)
  | .items readings => readings.mapM (fun r => r.expr)
  | .members _ => none

def keysOf? : Json.Parts Reading → Option (List (String × Expr))
  | .members members => keysOfMembers? members
  | .items _ => none

def reading (zones : Zone.Database) (j : Json) (parts : Option (Json.Parts Reading)) : Reading :=
  { json := j
    expr := parts.bind (ofParts? zones .kept)
    operands := parts.bind operandsOf?
    keys := parts.bind keysOf? }

abbrev read (zones : Zone.Database) : Json → Reading :=
  Json.readBy (reading zones)

def ofJson? (zones : Zone.Database) : Json → Option Expr
  | .obj fields => ofParts? zones .document (.members (Json.readMembers (reading zones) fields))
  | .arr items => ofParts? zones .document (.items (Json.readItems (reading zones) items))
  | _ => none

def keysOfJson? (zones : Zone.Database) (j : Json) : Option (List (String × Expr)) := do
  (← j.obj?).mapM fun (name,e) => (ofJson? zones e).map (name,·)

end Expr

end OlapQuery
