import OlapQuery.Aggregates
import OlapQuery.Decimal.Reader
import OlapQuery.Druid.Plan
import OlapQuery.Sql.Plan

-- What the client does with the rows of an answer: unwraps them, names their columns, reads
-- texts as the values they stand for, merges rows whose keys it looked up, sorts and limits.

namespace OlapQuery

-- How an engine wraps its rows. A row is the `result` of a timeseries, the `event` of a groupBy, and
-- the `event` of one of the `events` in the `result` of a select; a topN has a list of rows as its
-- `result`, and the bounds of time are one.
inductive Envelope where
  | rows
  | timeseries
  | topN
  | groupBy
  | select
  | timeBoundary
  deriving DecidableEq, Repr

namespace Envelope

def all : List Envelope :=
  [.rows,.timeseries,.topN,.groupBy,.select,.timeBoundary]

def name : Envelope → String
  | .rows => "rows"
  | .timeseries => "timeseries"
  | .topN => "topN"
  | .groupBy => "groupBy"
  | .select => "select"
  | .timeBoundary => "timeBoundary"

def parse? (text : String) : Option Envelope :=
  all.find? (fun envelope => envelope.name == text)

def ofQuery : Druid.Query → Envelope
  | .timeseries _ => .timeseries
  | .topN _ => .topN
  | .groupBy _ => .groupBy
  | .select _ => .select
  | .timeBoundary _ => .timeBoundary

end Envelope

structure PostProcess where
  envelope : Envelope := .rows
  timestampKey : Option String := none
  -- From fields of the answer to output names.
  renames : Table String := []
  types : Table DataType := []
  splitKeys : List String := []
  clientKeys : List Sql.ClientKey := []
  merges : Table Sql.Merge := []
  sort : Option SortBy := none
  limit : Option UInt64 := none

-- The order of column values: nothing and null, then booleans, numbers, texts, and the rest.
def columnRank : Option Json → Nat
  | none => 0
  | some .null => 0
  | some (.bool _) => 1
  | some (.int _) => 2
  | some (.float _) => 2
  | some (.str _) => 3
  | some _ => 4

def compareNumbers (x y : Float) : Ordering :=
  if x < y then .lt else if y < x then .gt else .eq

-- Numbers are compared as doubles, texts by code point.
def compareColumns (a b : Option Json) : Ordering :=
  match a,b with
  | some (.bool x),some (.bool y) => compare x y
  | some (.str x),some (.str y) => compare x y
  | a,b =>
      match a.bind Json.number?,b.bind Json.number? with
      | some x,some y => compareNumbers x y
      | _,_ => compare (columnRank a) (columnRank b)

namespace SortBy

def compareRows (s : SortBy) (a b : Row) : Ordering :=
  let order := compareColumns (a.get? s.name) (b.get? s.name)
  match s.direction with
  | .ascending => order
  | .descending => order.swap

-- Rows that compare equal stay in their order.
def sortRows (s : SortBy) (rows : List Row) : List Row :=
  rows.mergeSort (fun a b => s.compareRows a b != .gt)

end SortBy

-- A text that stands for a value of the type is read as that value; other texts stay.
def readAs (type : DataType) (value : Json) : Json :=
  match value with
  | .str text =>
      match type with
      | .number => ((Decimal.readFloat text).map Json.ofNumber).getD value
      | .boolean =>
          if text == "true" then .bool true
          else if text == "false" then .bool false
          else value
      | _ => value
  | other => other

namespace Sql.Merge

def apply : Merge → Float → Float → Float
  | .sum,a,b => a + b
  | .min,a,b => if b < a then b else a
  | .max,a,b => if a < b then b else a

-- A value that is no number gives way to one that is.
def applyOptional (m : Merge) : Option Float → Option Float → Option Float
  | some a,some b => some (m.apply a b)
  | some a,none => some a
  | none,b => b

end Sql.Merge

namespace PostProcess

def stamped (p : PostProcess) (timestamp : Option Json) (row : Row) : Row :=
  match p.timestampKey,timestamp with
  | some key,some t => row.insert key t
  | _,_ => row

-- The timestamp of a selected row is among its columns.
def selectedRow (p : PostProcess) (event : Json) : Option Row := do
  let row : Row ← (event.get? "event").bind Json.obj?
  some (p.stamped (row.get? "timestamp") (row.erase "timestamp"))

def unwrap (p : PostProcess) (item : Row) : List Row :=
  let stampedRow (member : String) : List Row :=
    (((item.get? member).bind Json.obj?).map (p.stamped (item.get? "timestamp"))).toList
  match p.envelope with
  | .rows => [item]
  | .timeseries => stampedRow "result"
  | .timeBoundary => stampedRow "result"
  | .groupBy => stampedRow "event"
  | .topN => (((item.get? "result").bind Json.arr?).getD []).filterMap Json.obj?
  | .select =>
      let events := (item.get? "result").bind (fun result => result.get? "events")
      ((events.bind Json.arr?).getD []).filterMap p.selectedRow

def rename (row : Row) (entry : String × String) : Row :=
  match row.get? entry.1 with
  | some value => Table.insert entry.2 value (row.erase entry.1)
  | none => row

def clean (p : PostProcess) (row : Row) : Row :=
  let renamed := p.renames.foldl rename row
  let kept := renamed.filter (fun column => !isSynthetic column.1)
  kept.map fun column =>
    match p.types.get? column.1 with
    | some type => (column.1,readAs type column.2)
    | none => column

-- A key that the table does not have, or that is no text, is null.
def lookUp (row : Row) (key : Sql.ClientKey) : Row :=
  let found := match row.get? key.name with
    | some (.str text) => (key.lookup.get? text).map Json.str
    | _ => none
  row.insert key.name (found.getD .null)

def mergeColumn (other : Row) (row : Row) (column : String × Sql.Merge) : Row :=
  let number (r : Row) : Option Float := (r.get? column.1).bind Json.number?
  match column.2.applyOptional (number row) (number other) with
  | some merged => row.insert column.1 (Json.ofNumber merged)
  | none => row

def mergeRow (p : PostProcess) (row other : Row) : Row :=
  p.merges.foldl (mergeColumn other) row

def keysOf (p : PostProcess) (row : Row) : List Json :=
  p.splitKeys.map (fun key => (row.get? key).getD .null)

def addToGroups (p : PostProcess) (row : Row) :
    List (List Json × Row) → List (List Json × Row)
  | [] => [(p.keysOf row,row)]
  | (keys,merged) :: rest =>
      if Json.sameItems keys (p.keysOf row) then (keys,p.mergeRow merged row) :: rest
      else (keys,merged) :: p.addToGroups row rest

def regroup (p : PostProcess) (rows : List Row) : List Row :=
  let lookedUp := rows.map (fun row => p.clientKeys.foldl lookUp row)
  (lookedUp.foldl (fun groups row => p.addToGroups row groups) []).map (·.2)

def sortAndLimit (p : PostProcess) (rows : List Row) : List Row :=
  let sorted := match p.sort with
    | some sort => sort.sortRows rows
    | none => rows
  match p.limit with
  | some limit => sorted.take limit.toNat
  | none => sorted

def apply (p : PostProcess) (answer : List Row) : List Row :=
  let rows := (answer.flatMap p.unwrap).map p.clean
  p.sortAndLimit (if p.clientKeys.isEmpty then rows else p.regroup rows)

end PostProcess

end OlapQuery
