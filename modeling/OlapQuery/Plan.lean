import OlapQuery.Binding
import OlapQuery.Druid.Encode
import OlapQuery.Fold
import OlapQuery.PostProcess

-- The levels of a query. A split inside the rows of another is a level of its own: it is a
-- template until a row of the level above is there, whose keys narrow it. So only one level can
-- be planned at a time. The queries of all levels can be listed by making up a row for each.

namespace OlapQuery

inductive NativeQuery where
  | druid (query : Druid.Query)
  | sql (text : String)

namespace NativeQuery

def toJson : NativeQuery → Json
  | .druid query => query.toJson
  | .sql text => .str text

def display : NativeQuery → String
  | .druid query => query.display
  | .sql text => text

end NativeQuery

structure Level where
  -- None for totals that are nested splits only.
  query : Option NativeQuery
  post : PostProcess
  splitKeys : List (String × Expr)
  nested : List Nested

def planQuery (dataset : Dataset) (folded : FoldedQuery) (post : PostProcess) :
    Compiled (NativeQuery × PostProcess) :=
  match dataset.engine with
  | .druid => do
      let plan ← Druid.plan dataset folded
      return (.druid plan.query,{ post with
        envelope := .ofQuery plan.query
        timestampKey := plan.timestampKey
        renames := plan.renames
        sort := plan.clientSort
        limit := plan.clientLimit })
  | _ => do
      let plan ← Sql.plan dataset folded
      return (.sql plan.sql,{ post with
        clientKeys := plan.clientKeys
        merges := plan.merges
        sort := plan.clientSort
        limit := plan.clientLimit })

namespace FoldedQuery

def splitKeys (q : FoldedQuery) : List (String × Expr) :=
  match q.split with
  | some split => split.keys
  | none => []

-- Totals without an apply of their own ask nothing.
def asks (q : FoldedQuery) : Bool :=
  q.mode != .total || !q.applies.isEmpty

end FoldedQuery

def planLevel (dataset : Dataset) (e : Expr) : Compiled Level := do
  let folded ← fold dataset e
  let splitKeys := folded.splitKeys
  let post : PostProcess := { types := folded.types,splitKeys := splitKeys.map (·.1) }
  if folded.asks then
    let (query,post) ← planQuery dataset folded post
    return { query := some query,post,splitKeys,nested := folded.nested }
  else
    return { query := none,post,splitKeys,nested := folded.nested }

namespace Level

def bind (dataset : Dataset) (level : Level) (row : Row) (nested : Nested) : Compiled Expr :=
  Binding.bind dataset nested.expression level.splitKeys row

end Level

def Expr.nestingDepth : Expr → Nat
  | .binary (.apply _) e x =>
      Nat.max (nestingDepth e) (if x.hasSplit then nestingDepth x + 1 else 0)
  | .binary .filter e _ => nestingDepth e
  | .binary (.sort _) e _ => nestingDepth e
  | .unary (.limit _) e => nestingDepth e
  | .split e _ _ => nestingDepth e
  | _ => 0

-- The queries of the uppermost levels, the deepest of them `depth` levels down. A level comes
-- before those nested in it.
def queriesWithin (dataset : Dataset) : Nat → Expr → Compiled (List NativeQuery)
  | 0,e => do
      let level ← planLevel dataset e
      return level.query.toList
  | depth + 1,e => do
      let level ← planLevel dataset e
      if level.nested.isEmpty then return level.query.toList
      else
        let row ← Binding.simulatedRow dataset level.splitKeys
        let below ← level.nested.mapM fun nested => do
          let bound ← level.bind dataset row nested
          queriesWithin dataset depth bound
        return level.query.toList ++ below.flatten

-- Every query that an expression comes to, with made-up rows for the levels that have others
-- nested in them. No level lies deeper than splits are nested.
def compile (dataset : Dataset) (e : Expr) : Compiled (List NativeQuery) :=
  queriesWithin dataset e.nestingDepth e

end OlapQuery
