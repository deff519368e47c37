import OlapQuery.Attribute
import OlapQuery.CompileError

-- A dataset as the compiler sees it: the engine it lives in, its source there, its columns, and
-- a base filter that holds in every query against it.

namespace OlapQuery

inductive Engine where
  | druid
  | presto
  | bigQuery
  | postgres
  | mySql
  deriving DecidableEq, Repr

namespace Engine

def all : List Engine :=
  [.druid,.presto,.bigQuery,.postgres,.mySql]

def name : Engine → String
  | .druid => "druid"
  | .presto => "presto"
  | .bigQuery => "bigquery"
  | .postgres => "postgres"
  | .mySql => "mysql"

-- The SQL spoken by the engine; Druid is queried in JSON.
def sqlFamily : Engine → Option Sql.Family
  | .druid => none
  | .presto => some .presto
  | .bigQuery => some .bigQuery
  | .postgres => some .postgres
  | .mySql => some .mySql

def parse (text : String) : Except String Engine :=
  match Sql.Family.lowerAscii text with
  | "druid" => .ok .druid
  | "presto" => .ok .presto
  | "athena" => .ok .presto
  | "trino" => .ok .presto
  | "bigquery" => .ok .bigQuery
  | "postgres" => .ok .postgres
  | "postgresql" => .ok .postgres
  | "mysql" => .ok .mySql
  | other => .error other

def ofConfigName? (text : String) : Option Engine :=
  if text == "athena" || text == "trino" then some .presto
  else all.find? (fun engine => engine.name == text)

end Engine

structure Dataset where
  engine : Engine
  source : String
  timeAttribute : Option String := none
  attributes : List Attribute := []
  filter : Expr := .bool true
  context : Table Json := []
  allowSelectQueries : Bool := false
  allowClientSideSplits : Bool := false
  customAggregations : Table Json := []
  lookups : Table (Table String) := []
  dialect : Option Sql.Dialect := none

namespace Dataset

def attribute? (d : Dataset) (name : String) : Option Attribute :=
  d.attributes.find? (fun a => a.name == name)

def attributeType? (d : Dataset) (name : String) : Option DataType :=
  (d.attribute? name).map (·.type)

def isTimeAttribute (d : Dataset) (name : String) : Bool :=
  d.timeAttribute == some name

def sqlDialect? (d : Dataset) : Option Sql.Dialect :=
  match d.dialect with
  | some dialect => some dialect
  | none => d.engine.sqlFamily.map Sql.Family.dialect

def duplicate? (seen : List String) : List Attribute → Option String
  | [] => none
  | a :: rest => if seen.contains a.name then some a.name else duplicate? (a.name :: seen) rest

-- Attribute names differ; the time attribute is declared, if any are, and is a time; and a
-- Druid dataset has no SQL dialect.
def validate (d : Dataset) : Except CompileError Dataset := do
  match duplicate? [] d.attributes with
  | some name => throw (.duplicateAttribute name)
  | none => pure ()
  match d.timeAttribute with
  | none => pure ()
  | some time =>
      match d.attribute? time with
      | some a =>
          if a.type != .time then
            throw (.invalidConfig ("time attribute '" ++ time ++ "' has type " ++ a.type.name))
      | none => if !d.attributes.isEmpty then throw (.unknownAttribute time)
  if d.engine == .druid && d.dialect.isSome then
    throw (.invalidConfig "a SQL dialect cannot be attached to a druid dataset")
  return d

end Dataset

end OlapQuery
