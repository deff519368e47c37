import OlapQuery.Aggregates
import OlapQuery.Druid.Filter

-- Aggregates as Druid aggregators, and the arithmetic over them as post-aggregators.

namespace OlapQuery.Druid

-- The aggregator of a query that asks for none.
def placeholderName : String := "!DUMMY"

namespace Script

-- A function binds columns by position, since their names need not be identifiers.
def positional (names : List String) (place name : String) : Compiled String :=
  match names.findIdx? (· == name) with
  | some i => .ok ("_" ++ toString i)
  | none => Compiled.unsupported ("$" ++ name ++ " in a " ++ place)

def parameters (names : List String) : String :=
  String.intercalate "," ((List.range names.length).map fun i => "_" ++ toString i)

end Script

-- How a script folds a measure over rows: one step, two partial results, no rows.
structure ScriptFold where
  step : String → String
  combine : String
  reset : String

namespace ScriptFold

def sum : ScriptFold :=
  { step := fun value => "_c+" ++ value,combine := "a+b",reset := "0" }

def min : ScriptFold :=
  { step := fun value => "Math.min(_c," ++ value ++ ")"
    combine := "Math.min(a,b)"
    reset := "Infinity" }

def max : ScriptFold :=
  { step := fun value => "Math.max(_c," ++ value ++ ")"
    combine := "Math.max(a,b)"
    reset := "-Infinity" }

def aggregation (f : ScriptFold) (name : String) (measure : Expr) : Compiled Aggregation := do
  let fields := measure.references
  let value ← Script.ofExpr (Script.positional fields "javascript aggregator") measure
  return .javascript name fields
    ("function(_c," ++ Script.parameters fields ++ ") \x7b return " ++ f.step value ++ "; \x7d")
    ("function(a,b) \x7b return " ++ f.combine ++ "; \x7d")
    ("function() \x7b return " ++ f.reset ++ "; \x7d")

end ScriptFold

-- A measure: a number column, the timestamps, or anything derived from columns. A column with
-- Druid's own name for the timestamps is the timestamps, declared as the time or not.
inductive Measure where
  | column (name : String)
  | timestamps
  | derived

namespace Measure

def ofExpr (dataset : Dataset) (e : Expr) : Compiled Measure :=
  match e with
  | .ref name =>
      match dataset.attribute? name with
      | none => .error (.refused (.unknownAttribute name))
      | some _ =>
          .ok (if dataset.isTimeAttribute name || name == timeDimension then .timestamps
            else .column name)
  | _ => .ok .derived

end Measure

namespace Aggregation

def ofSum (dataset : Dataset) (name : String) (measure : Expr) : Compiled Aggregation := do
  match ← Measure.ofExpr dataset measure with
  | .timestamps => throw (.refused (.unsupportedAggregate "sum of time"))
  | .column fieldName => return .field .doubleSum name fieldName
  | .derived => ScriptFold.sum.aggregation name measure

def ofMin (dataset : Dataset) (name : String) (measure : Expr) : Compiled Aggregation := do
  match ← Measure.ofExpr dataset measure with
  | .timestamps => return .field .longMin name timeDimension
  | .column fieldName => return .field .doubleMin name fieldName
  | .derived => ScriptFold.min.aggregation name measure

def ofMax (dataset : Dataset) (name : String) (measure : Expr) : Compiled Aggregation := do
  match ← Measure.ofExpr dataset measure with
  | .timestamps => return .field .longMax name timeDimension
  | .column fieldName => return .field .doubleMax name fieldName
  | .derived => ScriptFold.max.aggregation name measure

-- Columns that the engine keeps as sketches have an aggregator of their own.
def ofCountDistinct (dataset : Dataset) (name : String) (measure : Expr) : Compiled Aggregation :=
  match measure with
  | .ref column =>
      match dataset.attribute? column with
      | none => .error (.refused (.unknownAttribute column))
      | some found =>
          .ok (if found.isUnique then .field .hyperUnique name column
            else .cardinality name [column] true)
  | other => .error (.refused (.unsupportedAggregate ("countDistinct of " ++ other.opName)))

def ofCustom (dataset : Dataset) (name customName : String) : Compiled Aggregation :=
  match dataset.customAggregations.get? customName with
  | none => .error (.refused (.unsupportedAggregate ("custom '" ++ customName ++ "'")))
  | some (.obj fields) => .ok (.custom (.obj (Table.insert "name" (.str name) fields)))
  | some _ =>
      .error (.refused (.invalidConfig ("custom aggregation '" ++ customName ++ "' is not an object")))

def unfiltered (dataset : Dataset) (name : String) (e : Expr) : Compiled Aggregation :=
  match e with
  | .count _ => .ok (.count name)
  | .sum _ x => ofSum dataset name x
  | .min _ x => ofMin dataset name x
  | .max _ x => ofMax dataset name x
  | .countDistinct _ x => ofCountDistinct dataset name x
  | .customAggregate _ customName => ofCustom dataset name customName
  | other => .error (.refused (.unsupportedAggregate other.opName))

def ofAggregate (dataset : Dataset) (a : NamedAggregate) : Compiled Aggregation := do
  match a.expression.aggregateOperand? with
  | none => throw (.refused (.unsupportedAggregate a.expression.opName))
  | some operand =>
      let aggregator ← unfiltered dataset a.name a.expression
      match (operand.datasetChain?.map (·.2)).getD [] with
      | [] => return aggregator
      | filters =>
          let builder : FilterBuilder := { dataset,place := .aggregator }
          match ← builder.build (.andAll filters) with
          | none => return aggregator
          | some filter => return .filtered a.name filter aggregator

end Aggregation

def aggregations (dataset : Dataset) (set : AggregateSet) : Compiled (List Aggregation) :=
  match set.aggregates with
  | [] => .ok [.count placeholderName]
  | named => named.mapM (Aggregation.ofAggregate dataset)

namespace PostAggregation

-- Counts of distinct values are kept as sketches, which have to be read as numbers.
def access (set : AggregateSet) (name : String) : PostAggregation :=
  match set.aggregate? name with
  | some { expression := .countDistinct _ _,.. } => .hyperUniqueCardinality none name
  | _ => .fieldAccess none name

def arithmeticSign : BinaryOp → Option String
  | .add => some "+"
  | .subtract => some "-"
  | .multiply => some "*"
  | .divide => some "/"
  | _ => none

def script (e : Expr) : Compiled PostAggregation := do
  let fields := e.references
  let body ← Script.ofExpr (Script.positional fields "post aggregation") e
  return .javascript none fields
    ("function(" ++ Script.parameters fields ++ ") \x7b return " ++ body ++ "; \x7d")

def ofExpr (set : AggregateSet) : Expr → Compiled PostAggregation
  | .ref name => .ok (access set name)
  | .literal (.number n) => .ok (.constant none (Json.ofNumber n))
  | .binary op a b =>
      match arithmeticSign op with
      | some sign => do
          let left ← ofExpr set a
          let right ← ofExpr set b
          return .arithmetic none sign [left,right]
      | none => script (.binary op a b)
  | other => script other

end PostAggregation

def postAggregations (set : AggregateSet) : Compiled (List PostAggregation) :=
  set.postAggregates.mapM fun post => do
    return (← PostAggregation.ofExpr set post.expression).withName post.name

namespace HavingSpec

def comparison (e x : Expr) (spec : String → Json → HavingSpec) : Compiled HavingSpec :=
  match e with
  | .ref name =>
      match x with
      | .literal (.number n) => .ok (spec name (Json.ofNumber n))
      | other =>
          .error (.refused (.unsupportedHaving ("comparison of $" ++ name ++ " with " ++ other.opName)))
  | other => .error (.refused (.unsupportedHaving (other.opName ++ " on the left")))

-- Druid compares strictly, so the other comparisons are negations.
def ofComparison (op : BinaryOp) (e x : Expr) : Compiled HavingSpec :=
  match op with
  | .greaterThan => comparison e x .greaterThan
  | .lessThan => comparison e x .lessThan
  | .is => comparison e x .equalTo
  | .greaterThanOrEqual => comparison e x (fun name value => .not (.lessThan name value))
  | .lessThanOrEqual => comparison e x (fun name value => .not (.greaterThan name value))
  | op => .error (.refused (.unsupportedHaving op.name))

mutual
def ofExpr : Expr → Compiled HavingSpec
  | .binary op e x => ofComparison op e x
  | .junction .and es => do return .and (← ofExprs es)
  | .junction .or es => do return .or (← ofExprs es)
  | .unary .not e => do return .not (← ofExpr e)
  | other => .error (.refused (.unsupportedHaving other.opName))

def ofExprs : List Expr → Compiled (List HavingSpec)
  | [] => .ok []
  | e :: rest => do
      let first ← ofExpr e
      let others ← ofExprs rest
      return first :: others
end

end HavingSpec

end OlapQuery.Druid
