import OlapQuery.Expr.Basic

-- One query, as folded from a chain: what is asked of the engine for one level of the result.

namespace OlapQuery

inductive QueryMode where
  | raw
  | value
  | total
  | split
  deriving DecidableEq, Repr

structure Apply where
  name : String
  expression : Expr
  -- The apply was one aggregate that folding turned into arithmetic.
  expanded : Bool := false

structure Split where
  -- In name order.
  keys : List (String × Expr)
  dataName : String

structure SortBy where
  name : String
  direction : Direction
  deriving DecidableEq, Repr

structure Having where
  expression : Expr
  -- It follows the limit, so the engine cannot do it.
  afterLimit : Bool

-- A split inside the row of another: run once for each row, with the row's keys as filters.
structure Nested where
  name : String
  expression : Expr

structure FoldedQuery where
  mode : QueryMode
  dataName : String
  filter : Expr
  split : Option Split := none
  applies : List Apply := []
  sort : Option SortBy := none
  limit : Option UInt64 := none
  having : Option Having := none
  nested : List Nested := []
  types : Table DataType := []

def Split.singleKey? (s : Split) : Option (String × Expr) :=
  match s.keys with
  | [key] => some key
  | _ => none

namespace FoldedQuery

def named? (q : FoldedQuery) (name : String) : Option Apply :=
  q.applies.find? (fun a => a.name == name)

def isKey (q : FoldedQuery) (name : String) : Bool :=
  match q.split with
  | some s => s.keys.any (fun key => key.1 == name)
  | none => false

end FoldedQuery

end OlapQuery
