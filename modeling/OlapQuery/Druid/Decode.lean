import OlapQuery.Druid.Query
import OlapQuery.Value.Codec

-- Reading Druid queries from JSON. An aggregation in no known shape is kept as it stands.

namespace OlapQuery.Druid

open Json (Parts Shape required defaulted)

-- What a piece of JSON can stand for inside a query. The record around it picks the reading it
-- needs.
structure Reading where
  json : Json
  filter : Option Filter := none
  filters : Option (List Filter) := none
  aggregation : Aggregation := .custom json
  post : Option PostAggregation := none
  posts : Option (List PostAggregation) := none
  having : Option HavingSpec := none
  havings : Option (List HavingSpec) := none
  metric : Option TopNMetric := none
  items : List Aggregation := []

abbrev Fields (α : Type) := List (String × α)

namespace Fields

def json? (fields : Fields Reading) (name : String) : Option Json :=
  (List.lookup name fields).map (fun r => r.json)

def need (fields : Fields Reading) (name : String) (decode : Json → Option α) : Option α :=
  (fields.json? name).bind decode

def optional (fields : Fields Reading) (name : String) (decode : Json → Option α) :
    Option (Option α) :=
  Json.optional decode (fields.json? name)

def flag (fields : Fields Reading) (name : String) : Option Bool :=
  Json.withDefault false Json.bool? (fields.json? name)

def pick (fields : Fields Reading) (name : String) (f : Reading → Option α) : Option α :=
  (List.lookup name fields).bind f

end Fields

def taggedFields? (kinds : List String) (shape : String → Shape) (parts : Parts Reading) :
    Option (String × Fields Reading) := do
  let (tag,body) ← parts.tagged? "type"
  let kind ← tag.json.kind? .kept kinds
  some (kind,← body.fields? .kept (shape kind))

def plainFields? (kinds : List String) (shape : String → Shape) (j : Json) :
    Option (String × Fields Json) := do
  let (tag,body) ← (← j.parts?).tagged? "type"
  let kind ← tag.kind? .kept kinds
  some (kind,← body.fields? .kept (shape kind))

def Fields.plain (fields : Fields Json) (name : String) (decode : Json → Option α) : Option α :=
  (List.lookup name fields).bind decode

def strings? (j : Json) : Option (List String) :=
  j.arr?.bind (fun items => items.mapM Json.str?)

def stringTable? (j : Json) : Option (Table String) :=
  j.obj?.bind (fun fields => fields.mapM (fun field => field.2.str?.map (fun s => (field.1,s))))

def Intervals.ofJson? : Json → Option Intervals
  | .str interval => some (.one interval)
  | j => (strings? j).map .many

def Granularity.ofJson? (j : Json) : Option Granularity :=
  match j with
  | .str name => some (.simple name)
  | j => do
      let (_,fields) ← plainFields? ["period"] (fun _ => required ["period","timeZone"]) j
      let period ← fields.plain "period" Json.str?
      let timeZone ← fields.plain "timeZone" Json.str?
      some (.period period timeZone)

def Lookup.ofJson? (j : Json) : Option Lookup := do
  let (kind,fields) ← plainFields? ["namespace","map"] (fun kind => required [kind]) j
  match kind with
  | "namespace" => (fields.plain "namespace" Json.str?).map .registered
  | _ => (fields.plain "map" stringTable?).map .map

def ExtractionFn.kinds : List String :=
  ["regex","substring","lookup","timeFormat","javascript"]

def ExtractionFn.shape (kind : String) : Shape :=
  match kind with
  | "regex" =>
      required ["expr","replaceMissingValue"] ++ defaulted ["replaceMissingValueWith"]
  | "substring" => required ["index"] ++ defaulted ["length"]
  | "lookup" => required ["lookup"] ++ defaulted ["replaceMissingValueWith"]
  | "timeFormat" => required ["format","locale","timeZone"]
  | _ => required ["function"] ++ defaulted ["injective"]

def ExtractionFn.ofJson? (j : Json) : Option ExtractionFn := do
  let (kind,fields) ← plainFields? ExtractionFn.kinds ExtractionFn.shape j
  match kind with
  | "regex" => do
      let expr ← fields.plain "expr" Json.str?
      let replaceMissing ← fields.plain "replaceMissingValue" Json.bool?
      let replacement ← Json.optional Json.str? (List.lookup "replaceMissingValueWith" fields)
      some (.regex expr replaceMissing replacement)
  | "substring" => do
      let index ← fields.plain "index" Json.int64?
      let length ← Json.optional Json.int64? (List.lookup "length" fields)
      some (.substring index.toInt64 (length.map Int.toInt64))
  | "lookup" => do
      let lookup ← fields.plain "lookup" Lookup.ofJson?
      let replacement ← Json.optional Json.str? (List.lookup "replaceMissingValueWith" fields)
      some (.lookup lookup replacement)
  | "timeFormat" => do
      let format ← fields.plain "format" Json.str?
      let locale ← fields.plain "locale" Json.str?
      let timeZone ← fields.plain "timeZone" Json.str?
      some (.timeFormat format locale timeZone)
  | _ => do
      let function ← fields.plain "function" Json.str?
      let injective ← Json.optional Json.bool? (List.lookup "injective" fields)
      some (.javascript function injective)

def Dimension.shape (kind : String) : Shape :=
  match kind with
  | "extraction" => required ["dimension","outputName","extractionFn"]
  | _ => required ["dimension","outputName"]

def Dimension.ofJson? (j : Json) : Option Dimension := do
  let (kind,fields) ← plainFields? ["default","extraction"] Dimension.shape j
  let dimension ← fields.plain "dimension" Json.str?
  let outputName ← fields.plain "outputName" Json.str?
  match kind with
  | "extraction" => do
      let function ← fields.plain "extractionFn" ExtractionFn.ofJson?
      some { dimension,outputName,extraction := some function }
  | _ => some { dimension,outputName,extraction := none }

def fragments? (j : Json) : Option (List String) := do
  let (_,fields) ← plainFields? ["fragment"] (fun _ => required ["values"]) j
  fields.plain "values" strings?

def Filter.kinds : List String :=
  ["selector","extraction","and","or","not","regex","search","javascript","bound","interval"]

def Filter.shape (kind : String) : Shape :=
  match kind with
  | "selector" => required ["dimension","value"]
  | "extraction" => required ["dimension","value","extractionFn"]
  | "and" | "or" => required ["fields"]
  | "not" => required ["field"]
  | "regex" => required ["dimension","pattern"]
  | "search" => required ["dimension","query"]
  | "javascript" => required ["dimension","function"]
  | "bound" =>
      required ["dimension"] ++ defaulted ["lower","upper","lowerStrict","upperStrict"]
        ++ required ["ordering"]
  | _ => required ["dimension","intervals"]

def Filter.ofParts? (parts : Parts Reading) : Option Filter := do
  let (kind,fields) ← taggedFields? Filter.kinds Filter.shape parts
  match kind with
  | "and" => (fields.pick "fields" (fun r => r.filters)).map .and
  | "or" => (fields.pick "fields" (fun r => r.filters)).map .or
  | "not" => (fields.pick "field" (fun r => r.filter)).map .not
  | _ => do
      let dimension ← fields.need "dimension" Json.str?
      match kind with
      | "selector" => (fields.optional "value" Json.str?).map (.selector dimension)
      | "extraction" => do
          let value ← fields.optional "value" Json.str?
          let function ← fields.need "extractionFn" ExtractionFn.ofJson?
          some (.extraction dimension value function)
      | "regex" => (fields.need "pattern" Json.str?).map (.regex dimension)
      | "search" => (fields.need "query" fragments?).map (.search dimension)
      | "javascript" => (fields.need "function" Json.str?).map (.javascript dimension)
      | "bound" => do
          let lower ← fields.optional "lower" Json.str?
          let upper ← fields.optional "upper" Json.str?
          let lowerStrict ← fields.flag "lowerStrict"
          let upperStrict ← fields.flag "upperStrict"
          let ordering ← fields.need "ordering" Json.str?
          some (.bound dimension lower upper lowerStrict upperStrict ordering)
      | _ => (fields.need "intervals" strings?).map (.interval dimension)

def FieldAggregator.parse? (type : String) : Option FieldAggregator :=
  match type with
  | "doubleSum" => some .doubleSum
  | "doubleMin" => some .doubleMin
  | "doubleMax" => some .doubleMax
  | "longMin" => some .longMin
  | "longMax" => some .longMax
  | "hyperUnique" => some .hyperUnique
  | _ => none

def Aggregation.kinds : List String :=
  ["count","doubleSum","doubleMin","doubleMax","longMin","longMax","cardinality",
    "hyperUnique","javascript","filtered"]

def Aggregation.shape (kind : String) : Shape :=
  match kind with
  | "count" => required ["name"]
  | "cardinality" => required ["name","fieldNames","byRow"]
  | "javascript" => required ["name","fieldNames","fnAggregate","fnCombine","fnReset"]
  | "filtered" => required ["name","filter","aggregator"]
  | _ => required ["name","fieldName"]

def Aggregation.ofParts? (parts : Parts Reading) : Option Aggregation := do
  let (kind,fields) ← taggedFields? Aggregation.kinds Aggregation.shape parts
  let name ← fields.need "name" Json.str?
  match kind with
  | "count" => some (.count name)
  | "cardinality" => do
      let fieldNames ← fields.need "fieldNames" strings?
      let byRow ← fields.need "byRow" Json.bool?
      some (.cardinality name fieldNames byRow)
  | "javascript" => do
      let fieldNames ← fields.need "fieldNames" strings?
      let aggregate ← fields.need "fnAggregate" Json.str?
      let combine ← fields.need "fnCombine" Json.str?
      let reset ← fields.need "fnReset" Json.str?
      some (.javascript name fieldNames aggregate combine reset)
  | "filtered" => do
      let filter ← fields.pick "filter" (fun r => r.filter)
      let aggregator ← fields.pick "aggregator" (fun r => some r.aggregation)
      some (.filtered name filter aggregator)
  | kind => do
      let aggregator ← FieldAggregator.parse? kind
      let fieldName ← fields.need "fieldName" Json.str?
      some (.field aggregator name fieldName)

def PostAggregation.kinds : List String :=
  ["arithmetic","fieldAccess","hyperUniqueCardinality","constant","javascript"]

def PostAggregation.shape (kind : String) : Shape :=
  defaulted ["name"] ++
    match kind with
    | "arithmetic" => required ["fn","fields"]
    | "constant" => required ["value"]
    | "javascript" => required ["fieldNames","function"]
    | _ => required ["fieldName"]

def PostAggregation.ofParts? (parts : Parts Reading) : Option PostAggregation := do
  let (kind,fields) ← taggedFields? PostAggregation.kinds PostAggregation.shape parts
  let name ← fields.optional "name" Json.str?
  match kind with
  | "arithmetic" => do
      let function ← fields.need "fn" Json.str?
      let operands ← fields.pick "fields" (fun r => r.posts)
      some (.arithmetic name function operands)
  | "fieldAccess" => (fields.need "fieldName" Json.str?).map (.fieldAccess name)
  | "hyperUniqueCardinality" =>
      (fields.need "fieldName" Json.str?).map (.hyperUniqueCardinality name)
  | "constant" => (fields.json? "value").map (.constant name)
  | _ => do
      let fieldNames ← fields.need "fieldNames" strings?
      let function ← fields.need "function" Json.str?
      some (.javascript name fieldNames function)

def HavingSpec.kinds : List String :=
  ["greaterThan","lessThan","equalTo","and","or","not"]

def HavingSpec.shape (kind : String) : Shape :=
  match kind with
  | "and" | "or" => required ["havingSpecs"]
  | "not" => required ["havingSpec"]
  | _ => required ["aggregation","value"]

def HavingSpec.ofParts? (parts : Parts Reading) : Option HavingSpec := do
  let (kind,fields) ← taggedFields? HavingSpec.kinds HavingSpec.shape parts
  let compare (make : String → Json → HavingSpec) : Option HavingSpec := do
    let aggregation ← fields.need "aggregation" Json.str?
    let value ← fields.json? "value"
    some (make aggregation value)
  match kind with
  | "greaterThan" => compare .greaterThan
  | "lessThan" => compare .lessThan
  | "equalTo" => compare .equalTo
  | "and" => (fields.pick "havingSpecs" (fun r => r.havings)).map .and
  | "or" => (fields.pick "havingSpecs" (fun r => r.havings)).map .or
  | _ => (fields.pick "havingSpec" (fun r => r.having)).map .not

def TopNMetric.shape (kind : String) : Shape :=
  match kind with
  | "inverted" => required ["metric"]
  | _ => []

def TopNMetric.ofParts? (parts : Parts Reading) : Option TopNMetric := do
  let (kind,fields) ←
    taggedFields? ["inverted","alphaNumeric","lexicographic"] TopNMetric.shape parts
  match kind with
  | "inverted" => (fields.pick "metric" (fun r => r.metric)).map .inverted
  | "alphaNumeric" => some .alphaNumeric
  | _ => some .lexicographic

def OrderByColumn.ofJson? (j : Json) : Option OrderByColumn :=
  match j with
  | .str output => some (.name output)
  | j => do
      let fields ← (← j.parts?).fields? .kept
        (required ["dimension","direction"] ++ defaulted ["dimensionOrder"])
      let dimension ← (List.lookup "dimension" fields).bind Json.str?
      let direction ← (List.lookup "direction" fields).bind Json.str?
      let dimensionOrder ← Json.optional Json.str? (List.lookup "dimensionOrder" fields)
      some (.spec dimension direction dimensionOrder)

def LimitSpec.ofJson? (j : Json) : Option LimitSpec := do
  let (_,fields) ← plainFields? ["default"] (fun _ => required ["limit","columns"]) j
  let limit ← fields.plain "limit" Json.nat64?
  let items ← fields.plain "columns" Json.arr?
  let columns ← items.mapM OrderByColumn.ofJson?
  some { limit := limit.toUInt64,columns }

def readParts (j : Json) (parts : Parts Reading) : Reading :=
  { json := j
    filter := Filter.ofParts? parts
    aggregation := (Aggregation.ofParts? parts).getD (.custom j)
    post := PostAggregation.ofParts? parts
    having := HavingSpec.ofParts? parts
    metric := TopNMetric.ofParts? parts }

def reading (j : Json) : Option (Parts Reading) → Reading
  | some (.members members) => readParts j (.members members)
  | some (.items readings) => { readParts j (.items readings) with
      filters := readings.mapM (fun r => r.filter)
      posts := readings.mapM (fun r => r.post)
      havings := readings.mapM (fun r => r.having)
      items := readings.map (fun r => r.aggregation) }
  | none => { json := j,metric := j.str?.map .name }

abbrev read : Json → Reading :=
  Json.readBy reading

def optionalPart (fields : Fields Reading) (name : String) (f : Reading → Option α) :
    Option (Option α) :=
  match List.lookup name fields with
  | none => some none
  | some r => match r.json with
      | .null => some none
      | _ => (f r).map some

def scanShape : Shape :=
  required ["dataSource","intervals","granularity"] ++ defaulted ["filter"]

def Scan.ofFields? (fields : Fields Reading) : Option Scan := do
  let dataSource ← fields.need "dataSource" Json.str?
  let intervals ← fields.need "intervals" Intervals.ofJson?
  let granularity ← fields.need "granularity" Granularity.ofJson?
  let filter ← optionalPart fields "filter" (fun r => r.filter)
  some { dataSource,intervals,granularity,filter }

def aggregations? (fields : Fields Reading) : Option (List Aggregation) :=
  fields.pick "aggregations" (fun r => r.json.arr?.map (fun _ => r.items))

-- Post-aggregations may be missing, but not null.
def postAggregations? (fields : Fields Reading) : Option (List PostAggregation) :=
  match List.lookup "postAggregations" fields with
  | none => some []
  | some r => r.posts

def context? (fields : Fields Reading) : Option (Option (Table Json)) :=
  fields.optional "context" Json.obj?

namespace Query

def kinds : List String :=
  ["timeseries","topN","groupBy","select","timeBoundary"]

def shape (kind : String) : Shape :=
  match kind with
  | "timeseries" =>
      scanShape ++ required ["aggregations"] ++ defaulted ["postAggregations","context"]
  | "topN" =>
      scanShape ++ required ["dimension","metric","threshold","aggregations"]
        ++ defaulted ["postAggregations","context"]
  | "groupBy" =>
      scanShape ++ required ["dimensions","aggregations"] ++ defaulted ["postAggregations","having"]
        ++ required ["limitSpec"] ++ defaulted ["context"]
  | "select" =>
      scanShape ++ required ["dimensions","metrics","pagingSpec"] ++ defaulted ["context"]
  | _ => required ["dataSource"] ++ defaulted ["bound","context"]

def ofFields? (kind : String) (fields : Fields Reading) : Option Query := do
  let context ← context? fields
  match kind with
  | "timeseries" => do
      let scan ← Scan.ofFields? fields
      let aggregations ← aggregations? fields
      let postAggregations ← postAggregations? fields
      some (.timeseries { scan,aggregations,postAggregations,context })
  | "topN" => do
      let scan ← Scan.ofFields? fields
      let dimension ← fields.need "dimension" Dimension.ofJson?
      let metric ← fields.pick "metric" (fun r => r.metric)
      let threshold ← fields.need "threshold" Json.nat64?
      let aggregations ← aggregations? fields
      let postAggregations ← postAggregations? fields
      some (.topN { scan,dimension,metric,threshold := threshold.toUInt64,aggregations,
                    postAggregations,context })
  | "groupBy" => do
      let scan ← Scan.ofFields? fields
      let items ← fields.need "dimensions" Json.arr?
      let dimensions ← items.mapM Dimension.ofJson?
      let aggregations ← aggregations? fields
      let postAggregations ← postAggregations? fields
      let having ← optionalPart fields "having" (fun r => r.having)
      let limitSpec ← fields.need "limitSpec" LimitSpec.ofJson?
      some (.groupBy { scan,dimensions,aggregations,postAggregations,having,limitSpec,context })
  | "select" => do
      let scan ← Scan.ofFields? fields
      let dimensions ← fields.need "dimensions" strings?
      let metrics ← fields.need "metrics" strings?
      let paging ← fields.need "pagingSpec" fun j => do
        (← j.parts?).fields? .kept (required ["pagingIdentifiers","threshold"])
      let pagingIdentifiers ← (List.lookup "pagingIdentifiers" paging).bind Json.obj?
      let threshold ← (List.lookup "threshold" paging).bind Json.nat64?
      some (.select { scan,dimensions,metrics,pagingIdentifiers,
                      threshold := threshold.toUInt64,context })
  | _ => do
      let dataSource ← fields.need "dataSource" Json.str?
      let bound ← fields.optional "bound" Json.str?
      some (.timeBoundary { dataSource,bound,context })

def ofParts? (parts : Parts Reading) : Option Query := do
  let (tag,body) ← parts.tagged? "queryType"
  let kind ← tag.json.kind? .document kinds
  ofFields? kind (← body.fields? .kept (shape kind))

def ofJson? : Json → Option Query
  | .obj fields => ofParts? (.members (Json.readMembers reading fields))
  | .arr items => ofParts? (.items (Json.readItems reading items))
  | _ => none

end Query

end OlapQuery.Druid
