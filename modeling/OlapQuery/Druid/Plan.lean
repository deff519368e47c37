import OlapQuery.Druid.Aggregation

-- The choice of a Druid query for a folded query:
--
--   rows of the dataset                          select
--   totals that are only bounds of time          timeBoundary
--   other totals, or a single value              timeseries
--   one key that is a bucket of time             timeseries
--   one other key with a limit or few values     topN
--   any other keys                               groupBy
--
-- What a query cannot do by itself is left to the client: naming the timestamp, renaming the
-- bounds of time, and sorting and limiting what cannot be sorted and limited there.

namespace OlapQuery.Druid

open Time (Duration Zone)

-- How many rows a query may return when no limit is asked for.
def groupByLimit : UInt64 := 500000
def topNThreshold : UInt64 := 1000
def selectThreshold : UInt64 := 10000

structure Plan where
  query : Query
  timestampKey : Option String := none
  renames : Table String := []
  clientSort : Option SortBy := none
  clientLimit : Option UInt64 := none

structure Planner where
  dataset : Dataset
  folded : FoldedQuery
  intervals : Intervals
  filter : Option Filter
  aggregates : AggregateSet

namespace Planner

def make (dataset : Dataset) (folded : FoldedQuery) : Compiled Planner := do
  let time ← (TimeFilter.lift folded.filter dataset.timeAttribute).raise
  let builder : FilterBuilder := { dataset,place := .query }
  let filter ← builder.build time.rest
  return {
    dataset
    folded
    intervals := .ofList (intervalTexts time.intervals)
    filter
    aggregates := .collect folded.applies }

def scan (p : Planner) (granularity : Granularity) : Scan :=
  { dataSource := p.dataset.source,intervals := p.intervals,granularity,filter := p.filter }

def context (p : Planner) : Option (Table Json) :=
  if p.dataset.context.isEmpty then none else some p.dataset.context

def select (p : Planner) : Compiled Plan :=
  if !p.dataset.allowSelectQueries then
    Compiled.unsupported "raw rows from druid without allowSelectQueries"
  else
    let columns := p.dataset.attributes.filter (fun a => !p.dataset.isTimeAttribute a.name)
    let (metrics,dimensions) := columns.partition (·.unsplitable)
    .ok {
      query := .select {
        scan := p.scan .all
        dimensions := dimensions.map (·.name)
        metrics := metrics.map (·.name)
        pagingIdentifiers := []
        threshold := p.folded.limit.getD selectThreshold
        context := p.context }
      timestampKey := p.dataset.timeAttribute
      clientSort := p.folded.sort }

def boundaryField? (dataset : Dataset) (e : Expr) : Option String :=
  match e with
  | .max (.ref _) (.ref name) => if dataset.isTimeAttribute name then some "maxTime" else none
  | .min (.ref _) (.ref name) => if dataset.isTimeAttribute name then some "minTime" else none
  | _ => none

-- Output names of the boundary fields, each asked for once; none if anything else is asked for.
def boundaryRenames? (dataset : Dataset) : List Apply → Table String → Option (Table String)
  | [],renames => some renames
  | a :: rest,renames =>
      match boundaryField? dataset a.expression with
      | none => none
      | some field =>
          if renames.contains field then none
          else boundaryRenames? dataset rest (renames.insert field a.name)

def timeBoundary? (p : Planner) : Option Plan :=
  if p.folded.applies.isEmpty || !p.folded.filter.isTrue then none
  else do
    let renames ← boundaryRenames? p.dataset p.folded.applies []
    let bound := match renames with
      | [(field,_)] => some field
      | _ => none
    some {
      query := .timeBoundary { dataSource := p.dataset.source,bound,context := p.context }
      renames }

def totals (p : Planner) : Compiled Plan := do
  let aggregations ← aggregations p.dataset p.aggregates
  let postAggregations ← postAggregations p.aggregates
  return {
    query := .timeseries {
      scan := p.scan .all,aggregations,postAggregations,context := p.context } }

def timeBucket? (p : Planner) (key : Expr) : Option (Duration × Option Zone) :=
  match key with
  | .timeBucket (.ref name) duration zone =>
      if p.dataset.isTimeAttribute name then some (duration,zone) else none
  | _ => none

def keyType? (p : Planner) (key : Expr) : Option DataType :=
  (key.inferType p.dataset.attributeType?).toOption

def hasFewValues (p : Planner) (key : Expr) : Bool :=
  match key with
  | .timePart _ part _ =>
      match part.cardinality with
      | some n => n ≤ topNThreshold.toNat
      | none => false
  | other => p.keyType? other == some .boolean

def period (duration : Duration) (zone : Option Zone) : Compiled Granularity := do
  return .period (← duration.display.raise) (zone.getD Zone.utc).name

-- Buckets without rows are left out, unless the dataset says otherwise.
def bucketContext (p : Planner) : Table Json :=
  if p.dataset.context.contains "skipEmptyBuckets" then p.dataset.context
  else p.dataset.context.insert "skipEmptyBuckets" (.str "true")

def timeseries (p : Planner) (name : String) (duration : Duration) (zone : Option Zone) :
    Compiled Plan := do
  let aggregations ← aggregations p.dataset p.aggregates
  let postAggregations ← postAggregations p.aggregates
  let granularity ← period duration zone
  return {
    query := .timeseries {
      scan := p.scan granularity
      aggregations
      postAggregations
      context := some p.bucketContext }
    timestampKey := some name
    clientSort := p.folded.sort
    clientLimit := p.folded.limit }

-- What the rows are ranked by: the largest value of an aggregate first, the smallest key first,
-- and the other way round if inverted.
def topNMetric (p : Planner) (name : String) (key : Expr) : TopNMetric :=
  match p.folded.sort with
  | none => .lexicographic
  | some sort =>
      if sort.name == name then
        let metric : TopNMetric :=
          if p.keyType? key == some .number then .alphaNumeric else .lexicographic
        match sort.direction with
        | .ascending => metric
        | .descending => .inverted metric
      else
        match sort.direction with
        | .ascending => .inverted (.name sort.name)
        | .descending => .name sort.name

def topN (p : Planner) (name : String) (key : Expr) : Compiled Plan := do
  let aggregations ← aggregations p.dataset p.aggregates
  let postAggregations ← postAggregations p.aggregates
  let source ← DimensionSource.ofExpr p.dataset key
  return {
    query := .topN {
      scan := p.scan .all
      dimension := source.named name
      metric := p.topNMetric name key
      threshold := p.folded.limit.getD topNThreshold
      aggregations
      postAggregations
      context := p.context } }

-- The first key that is a bucket of time can be the granularity of the query, if there are
-- other keys and nothing is limited.
def liftedBucket? (p : Planner) (keys : List (String × Expr)) :
    Option (String × Duration × Option Zone) :=
  if p.folded.limit.isSome || keys.length ≤ 1 then none
  else keys.findSome? (fun key => (p.timeBucket? key.2).map (fun bucket => (key.1,bucket)))

def liftedGranularity (p : Planner) (keys : List (String × Expr)) : Compiled Granularity :=
  match p.liftedBucket? keys with
  | some (_,duration,zone) => period duration zone
  | none => .ok .all

def dimensions (p : Planner) (keys : List (String × Expr)) : Compiled (List Dimension) :=
  keys.mapM fun key => do return (← DimensionSource.ofExpr p.dataset key.2).named key.1

-- The order of the rows: as asked for, else by the first dimension.
def orderColumns (p : Planner) (keys : List (String × Expr)) (dimensions : List Dimension) :
    List OrderByColumn :=
  match p.folded.sort with
  | some sort =>
      let isNumeric : Bool := match List.lookup sort.name keys with
        | some key => p.keyType? key == some .number
        | none => false
      [.spec sort.name sort.direction.name (if isNumeric then some "alphaNumeric" else none)]
  | none =>
      match dimensions with
      | [] => []
      | first :: _ => [.name first.outputName]

def groupBy (p : Planner) (keys : List (String × Expr)) (having : Option HavingSpec) :
    Compiled Plan := do
  let aggregations ← aggregations p.dataset p.aggregates
  let postAggregations ← postAggregations p.aggregates
  let lifted := p.liftedBucket? keys
  let timestampKey := lifted.map (·.1)
  let granularity ← p.liftedGranularity keys
  let dimensions ← p.dimensions (keys.filter (fun key => timestampKey != some key.1))
  return {
    query := .groupBy {
      scan := p.scan granularity
      dimensions
      aggregations
      postAggregations
      having
      limitSpec := {
        limit := p.folded.limit.getD groupByLimit
        columns := p.orderColumns keys dimensions }
      context := p.context }
    timestampKey }

def havingSpec (p : Planner) : Compiled (Option HavingSpec) :=
  match p.folded.having with
  | none => .ok none
  | some having =>
      if having.afterLimit then .error (.refused (.unsupportedHaving "filter after limit on a split"))
      else (HavingSpec.ofExpr having.expression).map some

def splitWith (p : Planner) (split : Split) (having : Option HavingSpec) : Compiled Plan :=
  match split.singleKey? with
  | none => p.groupBy split.keys having
  | some (name,key) =>
      match p.timeBucket? key with
      | some (duration,zone) =>
          if having.isSome then .error (.refused (.unsupportedHaving "filter on a time-bucketed split"))
          else p.timeseries name duration zone
      | none =>
          if having.isNone && (p.folded.limit.isSome || p.hasFewValues key) then p.topN name key
          else p.groupBy split.keys having

def split (p : Planner) : Compiled Plan :=
  match p.folded.split with
  | none => Compiled.unsupported "split query without keys"
  | some split => do p.splitWith split (← p.havingSpec)

def plan (p : Planner) : Compiled Plan :=
  match p.folded.mode with
  | .raw => p.select
  | .split => p.split
  | _ =>
      match p.timeBoundary? with
      | some plan => .ok plan
      | none => p.totals

end Planner

def plan (dataset : Dataset) (folded : FoldedQuery) : Compiled Plan := do
  (← Planner.make dataset folded).plan

end OlapQuery.Druid
