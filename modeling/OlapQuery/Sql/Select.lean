import OlapQuery.Sql.Dialect

-- SELECT statements. Conditions and columns are rendered already; clause order, quoting of names
-- and layout are settled here.

namespace OlapQuery.Sql

structure Column where
  sql : String
  label : Option String := none
  deriving DecidableEq, Repr

-- A table, in a schema when its name has a dot: the schema ends at the first one.
structure TableName where
  schema : Option String
  table : String
  deriving DecidableEq, Repr

def TableName.parse (name : String) : TableName :=
  let cs := name.toList
  match cs.dropWhile (· != '.') with
  | _ :: rest =>
      { schema := some (String.ofList (cs.takeWhile (· != '.'))),table := String.ofList rest }
  | [] => { schema := none,table := name }

structure OrderBy where
  name : String
  descending : Bool
  deriving DecidableEq, Repr

structure Select where
  columns : List Column := []
  source : Option TableName := none
  condition : Option String := none
  groupBy : List String := []
  having : Option String := none
  orderBy : List OrderBy := []
  limit : Option UInt64 := none
  offset : Option UInt64 := none
  deriving DecidableEq, Repr

def signedWord (n : UInt64) : Int :=
  n.toInt64.toInt

def limitOffset (limit offset : Option UInt64) : String :=
  let limitText := limit.map (fun n => "LIMIT " ++ toString (signedWord n))
  let offsetText := offset.map (fun n => "OFFSET " ++ toString (signedWord n))
  String.intercalate " " ([limitText,offsetText].filterMap id)

namespace Select

-- Conditions added one after the other hold together.
def addCondition (s : Select) (condition : String) : Select :=
  { s with condition := some (match s.condition with
      | some existing => "(" ++ existing ++ " AND " ++ condition ++ ")"
      | none => condition) }

def columnText (d : Dialect) (c : Column) : String :=
  match c.label with
  | some label => c.sql ++ " AS " ++ d.quoteIdentifier label
  | none => c.sql

def tableText (d : Dialect) (t : TableName) : String :=
  match t.schema with
  | some schema => d.quoteIdentifier schema ++ "." ++ d.quoteIdentifier t.table
  | none => d.quoteIdentifier t.table

def orderText (d : Dialect) (o : OrderBy) : String :=
  d.quoteIdentifier o.name ++ (if o.descending then " DESC" else " ASC")

-- A clause that is written only when it has something to say.
def clause (keyword : String) (items : List String) : Option String :=
  if items.isEmpty then none else some (keyword ++ " " ++ String.intercalate ", " items)

-- One line a clause, and one a column below the first.
def text (d : Dialect) (s : Select) : String :=
  let head :=
    if s.columns.isEmpty then "SELECT *"
    else "SELECT\n  " ++ String.intercalate ",\n  " (s.columns.map (columnText d))
  let tail := limitOffset s.limit s.offset
  let clauses := [some head,
    s.source.map (fun t => "FROM " ++ tableText d t),
    s.condition.map (fun c => "WHERE " ++ c),
    clause "GROUP BY" s.groupBy,
    s.having.map (fun c => "HAVING " ++ c),
    clause "ORDER BY" (s.orderBy.map (orderText d)),
    if tail.isEmpty then none else some tail]
  String.intercalate "\n" (clauses.filterMap id)

end Select

end OlapQuery.Sql
