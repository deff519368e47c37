import OlapQuery.Json.Basic

-- Druid's native queries, in the shapes that the planner makes.

namespace OlapQuery.Druid

-- The spans of time to scan. One span is written without a list around it.
inductive Intervals where
  | one (interval : String)
  | many (intervals : List String)
  deriving DecidableEq, Repr

def Intervals.ofList : List String → Intervals
  | [interval] => .one interval
  | intervals => .many intervals

inductive Granularity where
  | simple (name : String)
  | period (period timeZone : String)
  deriving DecidableEq, Repr

def Granularity.all : Granularity := .simple "all"

inductive Lookup where
  | registered (name : String)
  | map (entries : Table String)
  deriving DecidableEq, Repr

inductive ExtractionFn where
  | regex (expr : String) (replaceMissing : Bool) (replacement : Option String)
  | substring (index : Int64) (length : Option Int64)
  | lookup (lookup : Lookup) (replacement : Option String)
  | timeFormat (format locale timeZone : String)
  | javascript (function : String) (injective : Option Bool)
  deriving DecidableEq, Repr

structure Dimension where
  dimension : String
  outputName : String
  extraction : Option ExtractionFn
  deriving DecidableEq, Repr

inductive Filter where
  | selector (dimension : String) (value : Option String)
  | extraction (dimension : String) (value : Option String) (function : ExtractionFn)
  | and (fields : List Filter)
  | or (fields : List Filter)
  | not (field : Filter)
  | regex (dimension pattern : String)
  | search (dimension : String) (fragments : List String)
  | javascript (dimension function : String)
  | bound (dimension : String) (lower upper : Option String) (lowerStrict upperStrict : Bool)
      (ordering : String)
  | interval (dimension : String) (intervals : List String)

inductive FieldAggregator where
  | doubleSum
  | doubleMin
  | doubleMax
  | longMin
  | longMax
  | hyperUnique
  deriving DecidableEq, Repr

inductive Aggregation where
  | count (name : String)
  | field (aggregator : FieldAggregator) (name fieldName : String)
  | cardinality (name : String) (fieldNames : List String) (byRow : Bool)
  | javascript (name : String) (fieldNames : List String) (aggregate combine reset : String)
  | filtered (name : String) (filter : Filter) (aggregator : Aggregation)
  -- An aggregator in the engine's own form, passed on as it is.
  | custom (json : Json)

inductive PostAggregation where
  | arithmetic (name : Option String) (function : String) (fields : List PostAggregation)
  | fieldAccess (name : Option String) (fieldName : String)
  | hyperUniqueCardinality (name : Option String) (fieldName : String)
  | constant (name : Option String) (value : Json)
  | javascript (name : Option String) (fieldNames : List String) (function : String)

def PostAggregation.withName (name : String) : PostAggregation → PostAggregation
  | .arithmetic _ function fields => .arithmetic (some name) function fields
  | .fieldAccess _ fieldName => .fieldAccess (some name) fieldName
  | .hyperUniqueCardinality _ fieldName => .hyperUniqueCardinality (some name) fieldName
  | .constant _ value => .constant (some name) value
  | .javascript _ fieldNames function => .javascript (some name) fieldNames function

inductive HavingSpec where
  | greaterThan (aggregation : String) (value : Json)
  | lessThan (aggregation : String) (value : Json)
  | equalTo (aggregation : String) (value : Json)
  | and (specs : List HavingSpec)
  | or (specs : List HavingSpec)
  | not (spec : HavingSpec)

inductive OrderByColumn where
  | name (name : String)
  | spec (dimension direction : String) (dimensionOrder : Option String)
  deriving DecidableEq, Repr

structure LimitSpec where
  limit : UInt64
  columns : List OrderByColumn
  deriving DecidableEq, Repr

inductive TopNMetric where
  | name (name : String)
  | inverted (metric : TopNMetric)
  | alphaNumeric
  | lexicographic
  deriving DecidableEq, Repr

-- What the queries over a span of time have in common.
structure Scan where
  dataSource : String
  intervals : Intervals
  granularity : Granularity
  filter : Option Filter

structure Timeseries where
  scan : Scan
  aggregations : List Aggregation
  postAggregations : List PostAggregation
  context : Option (Table Json)

structure TopN where
  scan : Scan
  dimension : Dimension
  metric : TopNMetric
  threshold : UInt64
  aggregations : List Aggregation
  postAggregations : List PostAggregation
  context : Option (Table Json)

structure GroupBy where
  scan : Scan
  dimensions : List Dimension
  aggregations : List Aggregation
  postAggregations : List PostAggregation
  having : Option HavingSpec
  limitSpec : LimitSpec
  context : Option (Table Json)

structure Select where
  scan : Scan
  dimensions : List String
  metrics : List String
  pagingIdentifiers : Table Json
  threshold : UInt64
  context : Option (Table Json)

structure TimeBoundary where
  dataSource : String
  -- The one bound that is needed, when only one is.
  bound : Option String
  context : Option (Table Json)

inductive Query where
  | timeseries (query : Timeseries)
  | topN (query : TopN)
  | groupBy (query : GroupBy)
  | select (query : Select)
  | timeBoundary (query : TimeBoundary)

namespace Query

def queryType : Query → String
  | .timeseries _ => "timeseries"
  | .topN _ => "topN"
  | .groupBy _ => "groupBy"
  | .select _ => "select"
  | .timeBoundary _ => "timeBoundary"

def dataSource : Query → String
  | .timeseries q => q.scan.dataSource
  | .topN q => q.scan.dataSource
  | .groupBy q => q.scan.dataSource
  | .select q => q.scan.dataSource
  | .timeBoundary q => q.dataSource

def context : Query → Option (Table Json)
  | .timeseries q => q.context
  | .topN q => q.context
  | .groupBy q => q.context
  | .select q => q.context
  | .timeBoundary q => q.context

end Query

end OlapQuery.Druid
