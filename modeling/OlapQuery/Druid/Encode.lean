import OlapQuery.Druid.Query
import OlapQuery.Json.Printer

-- Druid queries as JSON, with their members in the order of the query model: the kind first.
-- Members that are absent are left out.

namespace OlapQuery.Druid

def Granularity.toJson : Granularity → Json
  | .simple name => .str name
  | .period length timeZone =>
      .obj [("type",.str "period"),("period",.str length),("timeZone",.str timeZone)]

def Lookup.toJson : Lookup → Json
  | .registered name => .obj [("type",.str "namespace"),("namespace",.str name)]
  | .map entries => .obj [("type",.str "map"),("map",Json.ofTable .str entries)]

def ExtractionFn.toJson : ExtractionFn → Json
  | .regex expr replaceMissing replacement => .ofMembers
      [("type",some (.str "regex")),("expr",some (.str expr)),
        ("replaceMissingValue",some (.bool replaceMissing)),
        ("replaceMissingValueWith",replacement.map .str)]
  | .substring index length => .ofMembers
      [("type",some (.str "substring")),("index",some (.int index.toInt)),
        ("length",length.map (fun n => .int n.toInt))]
  | .lookup table replacement => .ofMembers
      [("type",some (.str "lookup")),("lookup",some table.toJson),
        ("replaceMissingValueWith",replacement.map .str)]
  | .timeFormat format locale timeZone => .obj
      [("type",.str "timeFormat"),("format",.str format),("locale",.str locale),
        ("timeZone",.str timeZone)]
  | .javascript function injective => .ofMembers
      [("type",some (.str "javascript")),("function",some (.str function)),
        ("injective",injective.map .bool)]

def Dimension.toJson (d : Dimension) : Json :=
  match d.extraction with
  | none => .obj
      [("type",.str "default"),("dimension",.str d.dimension),("outputName",.str d.outputName)]
  | some function => .obj
      [("type",.str "extraction"),("dimension",.str d.dimension),
        ("outputName",.str d.outputName),("extractionFn",function.toJson)]

mutual
def Filter.toJson : Filter → Json
  | .selector dimension value => .obj
      [("type",.str "selector"),("dimension",.str dimension),("value",Json.ofOption .str value)]
  | .extraction dimension value function => .obj
      [("type",.str "extraction"),("dimension",.str dimension),
        ("value",Json.ofOption .str value),("extractionFn",function.toJson)]
  | .and fields => .obj [("type",.str "and"),("fields",.arr (Filter.allToJson fields))]
  | .or fields => .obj [("type",.str "or"),("fields",.arr (Filter.allToJson fields))]
  | .not field => .obj [("type",.str "not"),("field",Filter.toJson field)]
  | .regex dimension pattern => .obj
      [("type",.str "regex"),("dimension",.str dimension),("pattern",.str pattern)]
  | .search dimension fragments => .obj
      [("type",.str "search"),("dimension",.str dimension),
        ("query",.obj [("type",.str "fragment"),("values",Json.ofStrings fragments)])]
  | .javascript dimension function => .obj
      [("type",.str "javascript"),("dimension",.str dimension),("function",.str function)]
  | .bound dimension lower upper lowerStrict upperStrict ordering => .ofMembers
      [("type",some (.str "bound")),("dimension",some (.str dimension)),
        ("lower",lower.map .str),("upper",upper.map .str),
        ("lowerStrict",if lowerStrict then some (.bool true) else none),
        ("upperStrict",if upperStrict then some (.bool true) else none),
        ("ordering",some (.str ordering))]
  | .interval dimension intervals => .obj
      [("type",.str "interval"),("dimension",.str dimension),
        ("intervals",Json.ofStrings intervals)]

def Filter.allToJson : List Filter → List Json
  | [] => []
  | f :: rest => Filter.toJson f :: Filter.allToJson rest
end

def FieldAggregator.name : FieldAggregator → String
  | .doubleSum => "doubleSum"
  | .doubleMin => "doubleMin"
  | .doubleMax => "doubleMax"
  | .longMin => "longMin"
  | .longMax => "longMax"
  | .hyperUnique => "hyperUnique"

def Aggregation.toJson : Aggregation → Json
  | .count name => .obj [("type",.str "count"),("name",.str name)]
  | .field aggregator name fieldName => .obj
      [("type",.str aggregator.name),("name",.str name),("fieldName",.str fieldName)]
  | .cardinality name fieldNames byRow => .obj
      [("type",.str "cardinality"),("name",.str name),("fieldNames",Json.ofStrings fieldNames),
        ("byRow",.bool byRow)]
  | .javascript name fieldNames aggregate combine reset => .obj
      [("type",.str "javascript"),("name",.str name),("fieldNames",Json.ofStrings fieldNames),
        ("fnAggregate",.str aggregate),("fnCombine",.str combine),("fnReset",.str reset)]
  | .filtered name filter aggregator => .obj
      [("type",.str "filtered"),("name",.str name),("filter",filter.toJson),
        ("aggregator",aggregator.toJson)]
  | .custom json => json

mutual
def PostAggregation.toJson : PostAggregation → Json
  | .arithmetic name function fields => .ofMembers
      [("type",some (.str "arithmetic")),("name",name.map .str),("fn",some (.str function)),
        ("fields",some (.arr (PostAggregation.allToJson fields)))]
  | .fieldAccess name fieldName => .ofMembers
      [("type",some (.str "fieldAccess")),("name",name.map .str),
        ("fieldName",some (.str fieldName))]
  | .hyperUniqueCardinality name fieldName => .ofMembers
      [("type",some (.str "hyperUniqueCardinality")),("name",name.map .str),
        ("fieldName",some (.str fieldName))]
  | .constant name value => .ofMembers
      [("type",some (.str "constant")),("name",name.map .str),("value",some value)]
  | .javascript name fieldNames function => .ofMembers
      [("type",some (.str "javascript")),("name",name.map .str),
        ("fieldNames",some (Json.ofStrings fieldNames)),("function",some (.str function))]

def PostAggregation.allToJson : List PostAggregation → List Json
  | [] => []
  | p :: rest => PostAggregation.toJson p :: PostAggregation.allToJson rest
end

mutual
def HavingSpec.toJson : HavingSpec → Json
  | .greaterThan aggregation value => .obj
      [("type",.str "greaterThan"),("aggregation",.str aggregation),("value",value)]
  | .lessThan aggregation value => .obj
      [("type",.str "lessThan"),("aggregation",.str aggregation),("value",value)]
  | .equalTo aggregation value => .obj
      [("type",.str "equalTo"),("aggregation",.str aggregation),("value",value)]
  | .and specs => .obj [("type",.str "and"),("havingSpecs",.arr (HavingSpec.allToJson specs))]
  | .or specs => .obj [("type",.str "or"),("havingSpecs",.arr (HavingSpec.allToJson specs))]
  | .not spec => .obj [("type",.str "not"),("havingSpec",HavingSpec.toJson spec)]

def HavingSpec.allToJson : List HavingSpec → List Json
  | [] => []
  | h :: rest => HavingSpec.toJson h :: HavingSpec.allToJson rest
end

def OrderByColumn.toJson : OrderByColumn → Json
  | .name output => .str output
  | .spec dimension direction dimensionOrder => .ofMembers
      [("dimension",some (.str dimension)),("direction",some (.str direction)),
        ("dimensionOrder",dimensionOrder.map .str)]

def LimitSpec.toJson (l : LimitSpec) : Json :=
  .obj [("type",.str "default"),("limit",.int l.limit.toNat),
    ("columns",.arr (l.columns.map OrderByColumn.toJson))]

def TopNMetric.toJson : TopNMetric → Json
  | .name output => .str output
  | .inverted metric => .obj [("type",.str "inverted"),("metric",metric.toJson)]
  | .alphaNumeric => .obj [("type",.str "alphaNumeric")]
  | .lexicographic => .obj [("type",.str "lexicographic")]

def Intervals.toJson : Intervals → Json
  | .one interval => .str interval
  | .many intervals => Json.ofStrings intervals

def Scan.members (s : Scan) : List (String × Option Json) :=
  [("dataSource",some (.str s.dataSource)),("intervals",some s.intervals.toJson),
    ("granularity",some s.granularity.toJson),("filter",s.filter.map Filter.toJson)]

def aggregationMembers (aggregations : List Aggregation) (posts : List PostAggregation) :
    List (String × Option Json) :=
  [("aggregations",some (.arr (aggregations.map Aggregation.toJson))),
    ("postAggregations",
      if posts.isEmpty then none else some (.arr (PostAggregation.allToJson posts)))]

def contextMember (context : Option (Table Json)) : String × Option Json :=
  ("context",context.map .obj)

namespace Query

def members : Query → List (String × Option Json)
  | .timeseries q =>
      q.scan.members ++ aggregationMembers q.aggregations q.postAggregations
        ++ [contextMember q.context]
  | .topN q =>
      q.scan.members
        ++ [("dimension",some q.dimension.toJson),("metric",some q.metric.toJson),
          ("threshold",some (.int q.threshold.toNat))]
        ++ aggregationMembers q.aggregations q.postAggregations ++ [contextMember q.context]
  | .groupBy q =>
      q.scan.members ++ [("dimensions",some (.arr (q.dimensions.map Dimension.toJson)))]
        ++ aggregationMembers q.aggregations q.postAggregations
        ++ [("having",q.having.map HavingSpec.toJson),("limitSpec",some q.limitSpec.toJson),
          contextMember q.context]
  | .select q =>
      q.scan.members
        ++ [("dimensions",some (Json.ofStrings q.dimensions)),
          ("metrics",some (Json.ofStrings q.metrics)),
          ("pagingSpec",some (.obj
            [("pagingIdentifiers",.obj q.pagingIdentifiers),
              ("threshold",.int q.threshold.toNat)])),
          contextMember q.context]
  | .timeBoundary q =>
      [("dataSource",some (.str q.dataSource)),("bound",q.bound.map .str),
        contextMember q.context]

def toJson (q : Query) : Json :=
  .ofMembers (("queryType",some (.str q.queryType)) :: q.members)

def display (q : Query) : String :=
  q.toJson.pretty

end Query

end OlapQuery.Druid
