import OlapQuery.Fold.Query
import OlapQuery.Sql.Render
import OlapQuery.Sql.Select
import OlapQuery.TimeFilter

-- A folded query as one SELECT: rows select every column, totals select the aggregates, and
-- splits group by the positions of their keys. Applies that refer to earlier ones have those
-- written out in them. A key that is a static lookup can be left to the client, which then also
-- has to merge, sort and limit the rows.

namespace OlapQuery.Sql

inductive Merge where
  | sum
  | min
  | max
  deriving DecidableEq, Repr

structure ClientKey where
  name : String
  lookup : Table String
  deriving DecidableEq, Repr

structure Plan where
  sql : String
  clientKeys : List ClientKey := []
  -- By apply; only beside client keys.
  merges : Table Merge := []
  clientSort : Option SortBy := none
  clientLimit : Option UInt64 := none
  deriving DecidableEq, Repr

def inline (definitions : List (String × Expr)) (e : Expr) : Expr :=
  definitions.foldl (fun e definition => Expr.substitute definition.1 definition.2 e) e

def inlineApplies (applies : List Apply) (keys : List (String × Expr)) : List (String × Expr) :=
  applies.foldl (fun earlier a => earlier ++ [(a.name,inline (earlier ++ keys) a.expression)]) []

structure Planner where
  renderer : Renderer
  folded : FoldedQuery

namespace Planner

def dataset (p : Planner) : Dataset := p.renderer.dataset

def text (p : Planner) (s : Select) : String :=
  s.text p.renderer.dialect

-- The source and the filter. Conditions on the time column become ranges and come first.
def base (p : Planner) : Compiled Select := do
  let time ← (TimeFilter.lift p.folded.filter p.dataset.timeAttribute).raise
  let source : Select := { source := some (.parse p.dataset.source) }
  let timed := match p.dataset.timeAttribute,time.intervals with
    | some column,some ranges => source.addCondition (p.renderer.timeRanges column ranges)
    | _,_ => source
  if time.rest.isTrue then return timed
  else return timed.addCondition (← p.renderer.render time.rest)

def orderBy (sort : Option SortBy) : List OrderBy :=
  match sort with
  | some sort => [{ name := sort.name,descending := sort.direction == .descending }]
  | none => []

def raw (p : Planner) : Compiled Plan := do
  let base ← p.base
  return { sql := p.text { base with
    columns := p.dataset.attributes.map (fun a => { sql := p.renderer.identifier a.name })
    orderBy := orderBy p.folded.sort
    limit := p.folded.limit } }

def column (p : Planner) (definition : String × Expr) : Compiled Column := do
  return { sql := ← p.renderer.render definition.2,label := some definition.1 }

def totals (p : Planner) : Compiled Plan := do
  let columns ← (inlineApplies p.folded.applies []).mapM p.column
  let base ← p.base
  return { sql := p.text { base with columns } }

def clientLookup? (p : Planner) (key : Expr) : Option (Expr × Table String) :=
  if !p.dataset.allowClientSideSplits then none
  else
    match key with
    | .lookup (.ref column) name =>
        (p.dataset.lookups.get? name).map (fun table => (.ref column,table))
    | _ => none

def groupedKey (p : Planner) (key : String × Expr) : String × Expr :=
  match p.clientLookup? key.2 with
  | some (column,_) => (key.1,column)
  | none => key

def clientKey? (p : Planner) (key : String × Expr) : Option ClientKey :=
  (p.clientLookup? key.2).map (fun found => { name := key.1,lookup := found.2 })

def merge (e : Expr) : Compiled Merge :=
  match e with
  | .count _ => .ok .sum
  | .sum _ _ => .ok .sum
  | .min _ _ => .ok .min
  | .max _ _ => .ok .max
  | other => .error (.refused (.unsupportedAggregate (other.opName ++ " over a client-side split")))

def clientSide (p : Planner) (select : Select) (clientKeys : List ClientKey) : Compiled Plan := do
  if p.folded.having.isSome then
    throw (.refused (.unsupportedHaving "filter on a client-side split"))
  let merges ← p.folded.applies.mapM fun a => do return (a.name,← merge a.expression)
  return {
    sql := p.text select
    clientKeys
    merges := .ofList merges
    clientSort := p.folded.sort
    clientLimit := p.folded.limit }

def havingText (p : Planner) (definitions : List (String × Expr)) : Compiled (Option String) :=
  match p.folded.having with
  | none => .ok none
  | some having =>
      if having.afterLimit then .error (.refused (.unsupportedHaving "filter after a limit"))
      else (p.renderer.render (inline definitions having.expression)).map some

def serverSide (p : Planner) (select : Select) (definitions : List (String × Expr)) :
    Compiled Plan := do
  let having ← p.havingText definitions
  return { sql := p.text { select with
    having
    orderBy := orderBy p.folded.sort
    limit := p.folded.limit } }

def split (p : Planner) : Compiled Plan :=
  match p.folded.split with
  | none => Compiled.unsupported "split mode without keys"
  | some { keys,.. } => do
      let keyColumns ← (keys.map p.groupedKey).mapM p.column
      let applies := inlineApplies p.folded.applies keys
      let applyColumns ← applies.mapM p.column
      let base ← p.base
      let select : Select := { base with
        columns := keyColumns ++ applyColumns
        groupBy := (List.range keys.length).map (fun i => toString (i + 1)) }
      match keys.filterMap p.clientKey? with
      | [] => p.serverSide select (applies ++ keys)
      | clientKeys => p.clientSide select clientKeys

def plan (p : Planner) : Compiled Plan :=
  match p.folded.mode with
  | .raw => p.raw
  | .split => p.split
  | _ => p.totals

end Planner

def plan (dataset : Dataset) (folded : FoldedQuery) : Compiled Plan :=
  match dataset.sqlDialect? with
  | none => .error (.refused (.invalidConfig (dataset.engine.name ++ " has no SQL dialect")))
  | some dialect => ({ renderer := { dialect,dataset },folded } : Planner).plan

end OlapQuery.Sql
