import OlapQuery.Druid.Extraction
import OlapQuery.Druid.Interval

-- Boolean expressions as Druid filters.

namespace OlapQuery.Druid

-- Where a filter ends up. In an aggregator a script filter is spelled as an extraction whose
-- value is true.
inductive FilterPlace where
  | query
  | aggregator
  deriving DecidableEq, Repr

namespace Filter

def never : Filter :=
  .javascript timeDimension "function(d)\x7breturn false;\x7d"

-- Druid has no constant filters.
def constant (keep : Bool) : Filter :=
  if keep then .not never else never

def onTime (ranges : List TimeRange) : Filter :=
  .interval timeDimension (ranges.map intervalText)

end Filter

structure FilterBuilder where
  dataset : Dataset
  place : FilterPlace

namespace FilterBuilder

def literal (e : Expr) : Compiled Value :=
  match e with
  | .literal v => .ok v
  | other => Compiled.unsupported ("comparison with a non-literal " ++ other.opName)

def isTime (b : FilterBuilder) (e : Expr) : Bool :=
  match e with
  | .ref name => b.dataset.isTimeAttribute name
  | _ => false

def plainDimension (b : FilterBuilder) (e : Expr) : Compiled String :=
  match e with
  | .ref name =>
      match b.dataset.attribute? name with
      | none => .error (.refused (.unknownAttribute name))
      | some _ => .ok (if b.dataset.isTimeAttribute name then timeDimension else name)
  | other => Compiled.unsupported (other.opName ++ " where an attribute is required")

def source (b : FilterBuilder) (e : Expr) : Compiled DimensionSource :=
  match e with
  | .ref name =>
      if b.dataset.isTimeAttribute name then DimensionSource.ofExpr b.dataset e
      else do return { dimension := ← b.plainDimension e }
  | e => DimensionSource.ofExpr b.dataset e

def matchesValue (b : FilterBuilder) (e : Expr) (value : Value) : Compiled Filter := do
  let source ← b.source e
  match source.extraction with
  | none => return .selector source.dimension value.nativeText
  | some function => return .extraction source.dimension value.nativeText function

def bound (b : FilterBuilder) (e : Expr) (lower : Option String) (lowerStrict : Bool)
    (upper : Option String) (upperStrict : Bool) (ordering : String) : Compiled Filter := do
  let dimension ← b.plainDimension e
  return .bound dimension lower upper (lowerStrict && lower.isSome) (upperStrict && upper.isSome)
    ordering

def comparedTimes (t : Time.Instant) (greater strict : Bool) : Checked TimeRange :=
  match greater,strict with
  | true,true => do return { start := some (← t.next),finish := none }
  | true,false => .ok { start := some t,finish := none }
  | false,true => .ok { start := none,finish := some t }
  | false,false => do return { start := none,finish := some (← t.next) }

def textComparison (b : FilterBuilder) (e : Expr) (value : Value) (greater strict : Bool) :
    Compiled Filter :=
  let ordering := if value.type == .number then "numeric" else "lexicographic"
  match value.nativeText with
  | none => Compiled.unsupported "comparison with null"
  | some text =>
      if greater then b.bound e (some text) strict none false ordering
      else b.bound e none false (some text) strict ordering

def comparison (b : FilterBuilder) (e x : Expr) (greater strict : Bool) : Compiled Filter := do
  let value ← literal x
  match b.isTime e,value with
  | true,.time t => return .onTime [← (comparedTimes t greater strict).raise]
  | _,value => b.textComparison e value greater strict

def singleReference? (e : Expr) : Option String :=
  match e.references with
  | [name] => some name
  | _ => none

-- A predicate that Druid has no form for, as a script over the column of `operand`.
def script (b : FilterBuilder) (predicate operand : Expr) : Compiled Filter :=
  match singleReference? operand with
  | none => Compiled.unsupported "javascript filter over several attributes"
  | some name => do
      let dimension ← b.plainDimension (.ref name)
      let function ← Script.dimensionFunction predicate name
      match b.place with
      | .query => return .javascript dimension function
      | .aggregator => return .extraction dimension (some "true") (.javascript function none)

def range? : Value → Option TimeRange
  | .timeRange r => some r
  | _ => none

-- Membership in a set; ranges of the time column are intervals, other elements are compared one
-- by one.
def inSet (b : FilterBuilder) (e : Expr) (elements : List Value) : Compiled Filter :=
  match b.isTime e,elements.mapM range? with
  | true,some ranges => .ok (.onTime ranges)
  | _,_ => do
      match ← elements.mapM (b.matchesValue e) with
      | [] => return Filter.constant false
      | [one] => return one
      | fields => return .or fields

def membership (b : FilterBuilder) (e x : Expr) : Compiled Filter := do
  match ← literal x with
  | .set _ elements => b.inSet e elements
  | .timeRange range =>
      if b.isTime e then return .onTime [range] else b.matchesValue e (.timeRange range)
  | .numberRange range =>
      b.bound e (range.start.map Decimal.numberText) false (range.finish.map Decimal.numberText) true
        "numeric"
  | other => b.matchesValue e other

def equality (b : FilterBuilder) (e x : Expr) : Compiled Filter := do
  match b.isTime e,← literal x with
  | true,.time t => return .onTime [{ start := some t,finish := some (← t.next.raise) }]
  | _,value => b.matchesValue e value

def search (b : FilterBuilder) (e x : Expr) : Compiled Filter := do
  let dimension ← b.plainDimension e
  match (← literal x).nativeText with
  | some fragment => return .search dimension [fragment]
  | none => Compiled.unsupported "contains null"

def scripted (b : FilterBuilder) (e : Expr) : Compiled Filter :=
  match singleReference? e with
  | none => Compiled.unsupported (e.opName ++ " as a filter")
  | some name => b.script e (.ref name)

def binary (b : FilterBuilder) (op : BinaryOp) (e x : Expr) : Compiled Filter :=
  match op with
  | .is => b.equality e x
  | .member => b.membership e x
  | .overlap => b.membership e x
  | .greaterThan => b.comparison e x true true
  | .greaterThanOrEqual => b.comparison e x true false
  | .lessThan => b.comparison e x false true
  | .lessThanOrEqual => b.comparison e x false false
  | .contains true => b.search e x
  | .contains false => b.script (.contains e x false) e
  | op => b.scripted (.binary op e x)

mutual
def filter (b : FilterBuilder) : Expr → Compiled Filter
  | .literal (.boolean keep) => .ok (Filter.constant keep)
  | .literal v => b.scripted (.literal v)
  | .ref name =>
      match b.matchesValue (.ref name) (.boolean true) with
      | .ok made => .ok made
      | .error (.refused _) => Compiled.unsupported ("$" ++ name ++ " as a filter")
      | .error .panicked => .error .panicked
  | .ply => b.scripted .ply
  | .unary .not e => do return .not (← filter b e)
  | .unary (.regexMatch pattern) e =>
      match e with
      | .ref name => do return .regex (← b.plainDimension (.ref name)) pattern
      | e => b.script (.regexMatch e pattern) e
  | .unary op e => b.scripted (.unary op e)
  | .binary op e x => b.binary op e x
  | .junction .and es => do return .and (← filters b es)
  | .junction .or es => do return .or (← filters b es)
  | .split e keys dataName => b.scripted (.split e keys dataName)

def filters (b : FilterBuilder) : List Expr → Compiled (List Filter)
  | [] => .ok []
  | e :: rest => do
      let first ← filter b e
      let others ← filters b rest
      return first :: others
end

-- None for a filter that keeps every row.
def build (b : FilterBuilder) (e : Expr) : Compiled (Option Filter) :=
  if e.isTrue then .ok none else (b.filter e).map some

end FilterBuilder

end OlapQuery.Druid
