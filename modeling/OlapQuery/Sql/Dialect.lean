import OlapQuery.Decimal.Layout
import OlapQuery.Sql.BuiltInTables
import OlapQuery.Word

-- SQL dialects: how each spells what has no common spelling. Operands are rendered SQL
-- already, and every operation gives rendered SQL.

namespace OlapQuery.Sql

open Time (Duration CalendarUnit Instant Part Zone)

inductive Family where
  | presto
  | bigQuery
  | postgres
  | mySql
  deriving DecidableEq, Repr

namespace Family

def name : Family → String
  | .presto => "presto"
  | .bigQuery => "bigquery"
  | .postgres => "postgres"
  | .mySql => "mysql"

def lowerAscii (text : String) : String :=
  String.ofList (text.toList.map Char.toLower)

def parse (text : String) : Except String Family :=
  match lowerAscii text with
  | "presto" => .ok .presto
  | "athena" => .ok .presto
  | "trino" => .ok .presto
  | "bigquery" => .ok .bigQuery
  | "postgres" => .ok .postgres
  | "postgresql" => .ok .postgres
  | "mysql" => .ok .mySql
  | other => .error other

def entries : Family → List Entry
  | .presto => prestoEntries
  | .bigQuery => bigQueryEntries
  | .postgres => postgresEntries
  | .mySql => mySqlEntries

-- The tables that come with the dialect; their entries are all well formed.
def tables (family : Family) : Tables :=
  match Tables.build family.entries with
  | .ok tables => tables
  | .error _ => {}

end Family

structure Dialect where
  family : Family
  tables : Tables

def Family.dialect (family : Family) : Dialect :=
  { family,tables := family.tables }

inductive DialectError where
  | unsupportedCast (source target : DataType)
  | unsupportedDuration (text : String)
  | unsupportedPart (part : Part)
  deriving DecidableEq, Repr

def doubled (mark : Char) (text : List Char) : List Char :=
  text.flatMap (fun c => if c == mark then [mark,mark] else [c])

def backslashed (text : List Char) : List Char :=
  text.flatMap (fun c => if c == '\\' || c == apostrophe then ['\\',c] else [c])

def enclosed (mark : Char) (text : List Char) : String :=
  String.ofList (mark :: text ++ [mark])

namespace Dialect

def name (d : Dialect) : String := d.family.name

def identifierMark (d : Dialect) : Char :=
  match d.family with
  | .presto => '"'
  | .postgres => '"'
  | .bigQuery => Char.ofNat 96
  | .mySql => Char.ofNat 96

def quoteIdentifier (d : Dialect) (identifier : String) : String :=
  enclosed d.identifierMark (doubled d.identifierMark identifier.toList)

def quoteString (d : Dialect) (text : String) : String :=
  match d.family with
  | .presto => enclosed apostrophe (doubled apostrophe text.toList)
  | .postgres => enclosed apostrophe (doubled apostrophe text.toList)
  | .bigQuery => enclosed apostrophe (backslashed text.toList)
  | .mySql => enclosed apostrophe (backslashed text.toList)

def formatBool (d : Dialect) (b : Bool) : String :=
  match d.family with
  | .mySql => if b then "1" else "0"
  | _ => if b then "true" else "false"

def null : String := "NULL"

def formatNumber (x : Float) : String :=
  Decimal.numberText x

def naiveTimestamp (t : Instant) : String :=
  let clock := t.utcClock
  let (second,nanos) := clock.shownSecond
  Time.dateText clock.date ++ " " ++ Time.padLeft 2 clock.hour ++ ":" ++ Time.padLeft 2 clock.minute
    ++ ":" ++ Time.padLeft 2 second ++ "." ++ Time.padLeft 3 (nanos / 1000000)

def timeToSql (d : Dialect) : Option Instant → String
  | none => null
  | some t =>
      match d.family with
      | .presto => "from_iso8601_timestamp('" ++ t.millisText ++ "')"
      | .bigQuery => "TIMESTAMP('" ++ t.millisText ++ "')"
      | .postgres => "TIMESTAMP '" ++ naiveTimestamp t ++ "'"
      | .mySql => "TIMESTAMP('" ++ naiveTimestamp t ++ "')"

-- Looks the cast up in the table; a cast to the type that is there already does nothing.
def castExpression (d : Dialect) (source : DataType) (operand : String) (target : DataType) :
    Except (Stop DialectError) String :=
  if source == target then .ok operand
  else
    match d.tables.cast? source target with
    | some template => .ok (template.render operand)
    | none => .error (.refused (.unsupportedCast source target))

-- Presto has no conversion to wall-clock time and takes every zone for Greenwich.
def utcToWalltime (d : Dialect) (operand : String) (zone : Zone) : String :=
  if zone.isUtc then operand
  else
    match d.family with
    | .presto => operand
    | .bigQuery => "DATETIME(" ++ operand ++ ", '" ++ zone.name ++ "')"
    | .postgres => "((" ++ operand ++ " AT TIME ZONE 'UTC') AT TIME ZONE '" ++ zone.name ++ "')"
    | .mySql => "CONVERT_TZ(" ++ operand ++ ",'+0:00','" ++ zone.name ++ "')"

def walltimeToUtc (d : Dialect) (operand : String) (zone : Zone) : String :=
  if zone.isUtc then operand
  else
    match d.family with
    | .presto => operand
    | .bigQuery => "TIMESTAMP(" ++ operand ++ ", '" ++ zone.name ++ "')"
    | .postgres => "((" ++ operand ++ " AT TIME ZONE '" ++ zone.name ++ "') AT TIME ZONE 'UTC')"
    | .mySql => "CONVERT_TZ(" ++ operand ++ ",'" ++ zone.name ++ "','+0:00')"

def bucketCall (d : Dialect) (operand spec : String) : String :=
  match d.family with
  | .presto => "DATE_FORMAT(" ++ operand ++ ", '" ++ spec ++ "')"
  | .bigQuery => "TIMESTAMP_TRUNC(" ++ operand ++ ", " ++ spec ++ ")"
  | .postgres => "DATE_TRUNC('" ++ spec ++ "', " ++ operand ++ ")"
  | .mySql => "DATE_FORMAT(" ++ operand ++ ", '" ++ spec ++ "')"

-- BigQuery floors in the zone itself; the others go through wall-clock time.
def timeFloor (d : Dialect) (operand : String) (duration : Duration) (zone : Zone) :
    Except (Stop DialectError) String := do
  match ← (d.tables.bucket? duration).raise with
  | none => .error (.refused (.unsupportedDuration duration.text))
  | some spec =>
      if d.family == .bigQuery && !zone.isUtc then
        .ok ("TIMESTAMP_TRUNC(" ++ operand ++ ", " ++ spec ++ ", '" ++ zone.name ++ "')")
      else .ok (d.walltimeToUtc (d.bucketCall (d.utcToWalltime operand zone) spec) zone)

def timePart (d : Dialect) (operand : String) (part : Part) (zone : Zone) :
    Except (Stop DialectError) String :=
  match d.tables.timePart? part with
  | none => .error (.refused (.unsupportedPart part))
  | some template => .ok (template.render (d.utcToWalltime operand zone))

def unitKeyword (unit : CalendarUnit) : String :=
  String.ofList (unit.name.toList.map Char.toUpper)

def addInterval (d : Dialect) (operand : String) (unit : CalendarUnit) (amount : Nat)
    (negative : Bool) : String :=
  match d.family with
  | .presto =>
      "DATE_ADD('" ++ unit.name ++ "', " ++ (if negative then "-1 * " else "") ++ toString amount
        ++ ", " ++ operand ++ ")"
  | .bigQuery =>
      (if negative then "DATETIME_SUB" else "DATETIME_ADD") ++ "(" ++ operand ++ ", INTERVAL "
        ++ toString amount ++ " " ++ unitKeyword unit ++ ")"
  | .postgres =>
      "(" ++ operand ++ (if negative then " - " else " + ") ++ "INTERVAL '" ++ toString amount
        ++ " " ++ unit.name ++ "')"
  | .mySql =>
      (if negative then "DATE_SUB" else "DATE_ADD") ++ "(" ++ operand ++ ", INTERVAL "
        ++ toString amount ++ " " ++ unitKeyword unit ++ ")"

def shiftComponents (duration : Duration) (step : Int) : List (CalendarUnit × Nat) :=
  (([.week,.month,.year,.day,.hour,.minute,.second].map
      fun u => (u,(duration.count u).toNat)).filter (fun part => part.2 != 0)).map
    (fun part => (part.1,part.2 * step.natAbs))

-- One nested call for each part of the duration; a step of zero changes nothing.
def timeShift (d : Dialect) (operand : String) (duration : Duration) (step : Int) (zone : Zone) :
    String :=
  if step == 0 then operand
  else
    let shifted := (shiftComponents duration step).foldl
      (fun sql part => d.addInterval sql part.1 part.2 (step < 0)) (d.utcToWalltime operand zone)
    d.walltimeToUtc shifted zone

-- The first group of the pattern; null where it does not match.
def extract (d : Dialect) (operand pattern : String) : String :=
  match d.family with
  | .presto => "regexp_extract(" ++ operand ++ ", " ++ d.quoteString pattern ++ ", 1)"
  | .bigQuery => "REGEXP_EXTRACT(" ++ operand ++ ", " ++ d.quoteString pattern ++ ")"
  | .postgres => "SUBSTRING(" ++ operand ++ " FROM " ++ d.quoteString pattern ++ ")"
  | .mySql => "REGEXP_SUBSTR(" ++ operand ++ ", " ++ d.quoteString pattern ++ ")"

def regexMatch (d : Dialect) (operand pattern : String) : String :=
  match d.family with
  | .presto => "regexp_like(" ++ operand ++ ", " ++ d.quoteString pattern ++ ")"
  | .bigQuery => "REGEXP_CONTAINS(" ++ operand ++ ", " ++ d.quoteString pattern ++ ")"
  | .postgres => "(" ++ operand ++ " ~ " ++ d.quoteString pattern ++ ")"
  | .mySql => "(" ++ operand ++ " REGEXP " ++ d.quoteString pattern ++ ")"

def contains (d : Dialect) (a b : String) : String :=
  match d.family with
  | .mySql => "LOCATE(" ++ b ++ "," ++ a ++ ")>0"
  | _ => "STRPOS(" ++ a ++ "," ++ b ++ ")>0"

def concat (d : Dialect) (a b : String) : String :=
  match d.family with
  | .postgres => "(" ++ a ++ "||" ++ b ++ ")"
  | _ => "CONCAT(" ++ a ++ "," ++ b ++ ")"

-- The position of `b` in `a` counted from zero; -1 where it is absent.
def indexOf (d : Dialect) (a b : String) : String :=
  match d.family with
  | .mySql => "LOCATE(" ++ b ++ ", " ++ a ++ ") - 1"
  | _ => "STRPOS(" ++ a ++ ", " ++ b ++ ") - 1"

-- `position` counts from zero; the engines count from one.
def substr (operand : String) (position len : Int) : Checked String :=
  if position + 1 ≤ Word.maxInt64 then
    .ok ("SUBSTR(" ++ operand ++ ", " ++ toString (position + 1) ++ ", " ++ toString len ++ ")")
  else .error .panic

-- Equality that holds between nulls.
def isNotDistinctFrom (a b : String) : String :=
  if a == null then b ++ " IS " ++ null
  else if b == null then a ++ " IS " ++ null
  else "(" ++ a ++ "=" ++ b ++ ")"

end Dialect

end OlapQuery.Sql
