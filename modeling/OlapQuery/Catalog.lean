import OlapQuery.Dataset
import OlapQuery.Druid.Extraction
import OlapQuery.Text.Letters
import OlapQuery.Text.Lower

-- Attributes from the column listing of an engine's catalog.

namespace OlapQuery

structure CatalogColumn where
  name : String
  nativeType : String
  deriving DecidableEq, Repr

namespace CatalogColumn

def ofJson? (j : Json) : Option CatalogColumn := do
  let fields ← (← j.parts?).fields? .document (Json.required ["name","type"])
  let name ← (List.lookup "name" fields).bind Json.str?
  let nativeType ← (List.lookup "type" fields).bind Json.str?
  some { name,nativeType }

end CatalogColumn

namespace Catalog

def wordsFrom (word : List Char) : List Char → List (List Char)
  | [] => if word.isEmpty then [] else [word.reverse]
  | c :: rest =>
      if Text.isBlank c then
        if word.isEmpty then wordsFrom [] rest else word.reverse :: wordsFrom [] rest
      else wordsFrom (c :: word) rest

def words (text : String) : List String :=
  (wordsFrom [] text.toList).map String.ofList

def isPrecisionChar (c : Char) : Bool :=
  c.isDigit || c == ',' || c == ' '

-- Drops a precision such as `(10,2)` from the end of a type.
def withoutPrecision (type : String) : String :=
  let cs := type.toList
  match cs.dropWhile (· != '('),cs.getLast? with
  | _ :: rest,some ')' =>
      if rest.dropLast.all isPrecisionChar then
        String.ofList ((cs.takeWhile (· != '(')).reverse.dropWhile (· == ' ')).reverse
      else type
  | _,_ => type

def normalizedType (nativeType : String) : String :=
  withoutPrecision (String.intercalate " " (words (Text.lower nativeType)))

def prestoType? (native : String) : Option DataType :=
  if ["tinyint","smallint","int","integer","bigint","float","real","double",
      "decimal"].contains native then some .number
  else if ["char","varchar","string"].contains native then some .string
  else if ["date","timestamp","timestamp with time zone"].contains native then some .time
  else if native == "boolean" then some .boolean
  else if ["array(varchar)","array(string)","array<string>"].contains native then some .stringSet
  else none

def bigQueryType? (native : String) : Option DataType :=
  if ["numeric","bignumeric","int64","integer","float64","float"].contains native then
    some .number
  else if native == "string" then some .string
  else if ["date","datetime","timestamp"].contains native then some .time
  else if ["bool","boolean"].contains native then some .boolean
  else if native == "array<string>" then some .stringSet
  else none

def postgresType? (native : String) : Option DataType :=
  if ["smallint","integer","int","bigint","int2","int4","int8","real","double precision",
      "float4","float8","numeric","decimal","serial","bigserial"].contains native then
    some .number
  else if ["text","varchar","character varying","char","character","bpchar"].contains native then
    some .string
  else if ["date","timestamp","timestamp without time zone","timestamp with time zone",
      "timestamptz"].contains native then some .time
  else if ["boolean","bool"].contains native then some .boolean
  else if ["text[]","character varying[]","varchar[]","_text","_varchar"].contains native then
    some .stringSet
  else none

def mySqlType? (native : String) : Option DataType :=
  if ["tinyint","smallint","mediumint","int","integer","bigint","float","double","decimal",
      "numeric"].contains native then some .number
  else if ["char","varchar","text","tinytext","mediumtext","longtext"].contains native then
    some .string
  else if ["date","datetime","timestamp"].contains native then some .time
  else if ["bool","boolean"].contains native then some .boolean
  else none

def druidType? (native : String) : Option DataType :=
  if native == "string" then some .string
  else if ["long","float","double"].contains native then some .number
  else none

def type? (engine : Engine) (native : String) : Option DataType :=
  match engine with
  | .druid => druidType? native
  | .presto => prestoType? native
  | .bigQuery => bigQueryType? native
  | .postgres => postgresType? native
  | .mySql => mySqlType? native

-- The attribute of a column; none if its type is unknown. Druid's timestamps are a time whatever
-- their type, and its sketches can only be counted.
def attribute? (engine : Engine) (column : CatalogColumn) : Option Attribute :=
  let native := normalizedType column.nativeType
  if engine == .druid && column.name == Druid.timeDimension then
    some { name := column.name,type := .time,nativeType := some native }
  else if engine == .druid && native == "hyperunique" then
    some {
      name := column.name
      type := .string
      nativeType := some native
      unsplitable := true
      special := some .unique }
  else
    (type? engine native).map fun type => { name := column.name,type,nativeType := some native }

def attributes (engine : Engine) (columns : List CatalogColumn) : List Attribute :=
  columns.filterMap (attribute? engine)

end Catalog

end OlapQuery
