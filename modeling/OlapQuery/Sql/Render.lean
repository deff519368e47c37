import OlapQuery.Dataset
import OlapQuery.Expr.Conjunction

-- Expressions as SQL. References become quoted columns, literals are written in place, and what
-- has no common spelling is asked of the dialect.

namespace OlapQuery.Sql

open Time (Zone)

structure Renderer where
  dialect : Dialect
  dataset : Dataset

-- How an expression comes out in the places where it can stand. Each expression is rendered
-- once, and the one around it picks what it needs.
structure Rendered where
  sql : Compiled String
  -- As part of a conjunction, opened if it is one; none when it is a literal falsehood.
  clauses : Option (List (Compiled String)) := some [sql]
  -- As the dataset of an aggregate: the clauses of its filters, the outer none when it is no
  -- dataset under filters, the inner one when the filters cannot hold.
  filters : Option (Option (List (Compiled String))) := none

-- Both lists of clauses, unless one of them cannot hold.
def bothClauses (a b : Option (List (Compiled String))) : Option (List (Compiled String)) :=
  match a,b with
  | some xs,some ys => some (xs ++ ys)
  | _,_ => none

def joined (separator : String) (parts : List String) : String :=
  "(" ++ String.intercalate separator parts ++ ")"

namespace Renderer

def identifier (r : Renderer) (name : String) : String :=
  r.dialect.quoteIdentifier name

def reference (r : Renderer) (name : String) : Compiled String :=
  match r.dataset.attribute? name with
  | some _ => .ok (r.identifier name)
  | none => .error (.refused (.unknownAttribute name))

def literal (r : Renderer) : Value → Compiled String
  | .null => .ok Dialect.null
  | .boolean b => .ok (r.dialect.formatBool b)
  | .number n => .ok (Dialect.formatNumber n)
  | .string s => .ok (r.dialect.quoteString s)
  | .time t => .ok (r.dialect.timeToSql (some t))
  | other => Compiled.unsupported (other.type.name ++ " literal outside a membership test")

def bounds (r : Renderer) (lower upper : Option String) : String :=
  match [lower,upper].filterMap id with
  | [] => r.dialect.formatBool true
  | present => joined " AND " present

def timeRange (r : Renderer) (x : String) (range : TimeRange) : String :=
  r.bounds (range.start.map (fun s => r.dialect.timeToSql (some s) ++ "<=" ++ x))
    (range.finish.map (fun e => x ++ "<" ++ r.dialect.timeToSql (some e)))

def numberRange (r : Renderer) (x : String) (range : NumberRange) : String :=
  r.bounds (range.start.map (fun s => Dialect.formatNumber s ++ "<=" ++ x))
    (range.finish.map (fun e => x ++ "<" ++ Dialect.formatNumber e))

-- Any of the conditions; none of them never holds.
def anyOf (r : Renderer) : List String → String
  | [] => r.dialect.formatBool false
  | [one] => one
  | clauses => joined " OR " clauses

def timeRanges (r : Renderer) (column : String) (ranges : List TimeRange) : String :=
  r.anyOf (ranges.map (r.timeRange (r.identifier column)))

def isRange : Value → Bool
  | .timeRange _ => true
  | .numberRange _ => true
  | _ => false

def isNull : Value → Bool
  | .null => true
  | _ => false

def rangeClause? (r : Renderer) (x : String) : Value → Option String
  | .timeRange range => some (r.timeRange x range)
  | .numberRange range => some (r.numberRange x range)
  | _ => none

-- Membership in a set: the scalars in one list, then each range, then null.
def setMembership (r : Renderer) (x : String) (elements : List Value) : Compiled String := do
  let scalars ← (elements.filter (fun e => !isNull e && !isRange e)).mapM r.literal
  let scalarClause := if scalars.isEmpty then [] else [x ++ " IN (" ++ String.intercalate "," scalars ++ ")"]
  let nullClause := if elements.any isNull then [x ++ " IS " ++ Dialect.null] else []
  return r.anyOf (scalarClause ++ elements.filterMap (r.rangeClause? x) ++ nullClause)

def membership (r : Renderer) (operand : Compiled String) (expression : Expr) : Compiled String :=
  match expression with
  | .literal value => do
      let x ← operand
      match value with
      | .timeRange range => return r.timeRange x range
      | .numberRange range => return r.numberRange x range
      | .set _ elements => r.setMembership x elements
      | other => return Dialect.isNotDistinctFrom x (← r.literal other)
  | other => Compiled.unsupported ("membership in a non-literal " ++ other.opName)

def aggregateFilter (r : Renderer) (operandName : String) (operand : Rendered) :
    Compiled (Option String) :=
  match operand.filters with
  | none => Compiled.unsupported ("aggregate over " ++ operandName)
  | some none => .ok (some (r.dialect.formatBool false))
  | some (some []) => .ok none
  | some (some [one]) => one.map some
  | some (some clauses) => do
      let parts ← clauses.mapM id
      return some (joined " AND " parts)

-- The measure of an aggregate, replaced by `otherwise` in rows that do not count.
def filtered (r : Renderer) (operandName : String) (operand measure : Rendered)
    (otherwise : String) : Compiled String := do
  let value ← measure.sql
  match ← r.aggregateFilter operandName operand with
  | none => return value
  | some condition =>
      return "CASE WHEN " ++ condition ++ " THEN " ++ value ++ " ELSE " ++ otherwise ++ " END"

def infer (r : Renderer) (e : Expr) : Compiled DataType :=
  Compiled.ofTyping (e.inferType r.dataset.attributeType?)

def numberBucket (x : String) (size offset : Float) : String :=
  let s := Dialect.formatNumber size
  if offset == 0.0 then "FLOOR(" ++ x ++ " / " ++ s ++ ") * " ++ s
  else
    let o := Dialect.formatNumber offset
    "FLOOR((" ++ x ++ " - " ++ o ++ ") / " ++ s ++ ") * " ++ s ++ " + " ++ o

def zoneOf (zone : Option Zone) : Zone :=
  zone.getD Zone.utc

def unary (r : Renderer) (op : UnaryOp) (e : Expr) (operand : Rendered) : Compiled String :=
  let d := r.dialect
  match op with
  | .count => do
      match ← r.aggregateFilter e.opName operand with
      | none => return "COUNT(*)"
      | some condition => return "SUM(CASE WHEN " ++ condition ++ " THEN 1 ELSE 0 END)"
  | .customAggregate name =>
      .error (.refused (.unsupportedAggregate ("custom '" ++ name ++ "' on " ++ d.name)))
  | .absolute => do return "ABS(" ++ (← operand.sql) ++ ")"
  | .not => do return "NOT(" ++ (← operand.sql) ++ ")"
  | .regexMatch pattern => do return d.regexMatch (← operand.sql) pattern
  | .substr position len => do
      (Dialect.substr (← operand.sql) position.toInt len.toInt).raise
  | .extract pattern => do return d.extract (← operand.sql) pattern
  | .lookup name => Compiled.unsupported ("lookup '" ++ name ++ "' on " ++ d.name)
  | .timeBucket duration zone => do
      Compiled.ofDialect (d.timeFloor (← operand.sql) duration (zoneOf zone))
  | .timeFloor duration zone => do
      Compiled.ofDialect (d.timeFloor (← operand.sql) duration (zoneOf zone))
  | .timePart part zone => do
      Compiled.ofDialect (d.timePart (← operand.sql) part (zoneOf zone))
  | .timeShift duration step zone => do
      return d.timeShift (← operand.sql) duration step.toInt (zoneOf zone)
  | .numberBucket size offset => do return numberBucket (← operand.sql) size offset
  | .cast type => do
      let source ← r.infer e
      Compiled.ofDialect (d.castExpression source (← operand.sql) type)
  | .limit _ => Compiled.unsupported "limit in a SQL expression"

def infixText : BinaryOp → Option String
  | .add => some "+"
  | .subtract => some "-"
  | .multiply => some "*"
  | .divide => some "/"
  | .greaterThan => some ">"
  | .greaterThanOrEqual => some ">="
  | .lessThan => some "<"
  | .lessThanOrEqual => some "<="
  | _ => none

def binary (r : Renderer) (op : BinaryOp) (e x : Expr) (operand expression : Rendered) :
    Compiled String :=
  let d := r.dialect
  let both (f : String → String → String) : Compiled String := do
    return f (← operand.sql) (← expression.sql)
  let aggregate (function otherwise : String) : Compiled String := do
    return function ++ (← r.filtered e.opName operand expression otherwise) ++ ")"
  match op with
  | .sum => aggregate "SUM(" "0"
  | .min => aggregate "MIN(" Dialect.null
  | .max => aggregate "MAX(" Dialect.null
  | .average => aggregate "AVG(" Dialect.null
  | .countDistinct => aggregate "COUNT(DISTINCT " Dialect.null
  | .power => both (fun a b => "POWER(" ++ a ++ "," ++ b ++ ")")
  | .is => both Dialect.isNotDistinctFrom
  | .member => r.membership operand.sql x
  | .overlap => r.membership operand.sql x
  | .contains ignoreCase =>
      if ignoreCase then both (fun a b => d.contains ("LOWER(" ++ a ++ ")") ("LOWER(" ++ b ++ ")"))
      else both d.contains
  | .concat => both d.concat
  | .fallback => both (fun a b => "COALESCE(" ++ a ++ ", " ++ b ++ ")")
  | .indexOf => both d.indexOf
  | op =>
      match infixText op with
      | some text => both (fun a b => "(" ++ a ++ text ++ b ++ ")")
      | none => Compiled.unsupported (op.name ++ " in a SQL expression")

-- A conjunction or disjunction; an empty one is true or false.
def junction (r : Renderer) (op : Junction) (operands : List Rendered) : Compiled String := do
  let parts ← operands.mapM (fun operand => operand.sql)
  match op,parts with
  | .and,[] => return r.dialect.formatBool true
  | .or,[] => return r.dialect.formatBool false
  | .and,parts => return joined " AND " parts
  | .or,parts => return joined " OR " parts

mutual
def rendered (r : Renderer) : Expr → Rendered
  | .literal (.boolean true) => { sql := .ok (r.dialect.formatBool true),clauses := some [] }
  | .literal (.boolean false) => { sql := .ok (r.dialect.formatBool false),clauses := none }
  | .literal v => { sql := r.literal v }
  | .ref name => { sql := r.reference name,filters := some (some []) }
  | .ply => { sql := Compiled.unsupported "ply in a SQL expression" }
  | .unary op e => { sql := r.unary op e (rendered r e) }
  | .binary op e x =>
      let operand := rendered r e
      let expression := rendered r x
      { sql := r.binary op e x operand expression
        filters :=
          if op == .filter then
            operand.filters.map (fun clauses => bothClauses clauses expression.clauses)
          else none }
  | .junction op es =>
      let parts := renderedAll r es
      let sql := r.junction op parts
      { sql
        clauses := match op with
          | .and => parts.foldl (fun clauses part => bothClauses clauses part.clauses) (some [])
          | .or => some [sql] }
  | .split _ _ _ => { sql := Compiled.unsupported "split in a SQL expression" }

def renderedAll (r : Renderer) : List Expr → List Rendered
  | [] => []
  | e :: rest => rendered r e :: renderedAll r rest
end

def render (r : Renderer) (e : Expr) : Compiled String :=
  (r.rendered e).sql

end Renderer

end OlapQuery.Sql
