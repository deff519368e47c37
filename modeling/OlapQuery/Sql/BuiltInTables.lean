import OlapQuery.Sql.Tables

-- The tables that come with each dialect.

namespace OlapQuery.Sql

def prestoEntries : List Entry := [
    .bucket "PT1S" "%Y-%m-%d %H:%i:%SZ",
    .bucket "PT1M" "%Y-%m-%d %H:%i:00Z",
    .bucket "PT1H" "%Y-%m-%d %H:00:00Z",
    .bucket "P1D" "%Y-%m-%d 00:00:00Z",
    .bucket "P1M" "%Y-%m-01 00:00:00Z",
    .bucket "P1Y" "%Y-01-01 00:00:00Z",
    .cast .time .number "FROM_UNIXTIME($$)",
    .cast .number .time "cast(to_unixtime($$)*1000 as BIGINT)",
    .cast .number .string "cast($$ as BIGINT)",
    .cast .string .number "cast($$ as varchar)",
    .timePart .secondOfMinute "extract(SECOND from $$)",
    .timePart .secondOfHour "(extract(MINUTE from $$)*60+extract(SECOND from $$))",
    .timePart .secondOfDay
      "((extract(HOUR from $$)*60+extract(MINUTE from $$))*60+extract(SECOND from $$))",
    .timePart .secondOfWeek
      ("((((mod((extract(DAY_OF_WEEK from $$)+6), 7)*24)+extract(HOUR from $$))"
        ++ "*60+extract(MINUTE from $$))*60+extract(SECOND from $$))"),
    .timePart .secondOfMonth
      ("((((extract(DAY from $$)-1)*24+extract(HOUR from $$))"
        ++ "*60+extract(MINUTE from $$))*60+extract(SECOND from $$))"),
    .timePart .secondOfYear
      ("((((extract(DAY_OF_YEAR from $$)-1)*24+extract(HOUR from $$))"
        ++ "*60+extract(MINUTE from $$))*60+extract(SECOND from $$))"),
    .timePart .minuteOfHour "extract(MINUTE from $$)",
    .timePart .minuteOfDay "(extract(HOUR from $$)*60+extract(MINUTE from $$))",
    .timePart .minuteOfWeek
      ("((mod(extract(DAY_OF_WEEK from $$)+6, 7)*24+extract(HOUR from $$))"
        ++ "*60+extract(MINUTE from $$))"),
    .timePart .minuteOfMonth
      "(((extract(DAY from $$)-1)*24+extract(HOUR from $$))*60+extract(MINUTE from $$))",
    .timePart .minuteOfYear
      ("(((extract(DAY_OF_YEAR from $$)-1)*24+extract(HOUR from $$))"
        ++ "*60+extract(MINUTE from $$))"),
    .timePart .hourOfDay "extract(HOUR from $$)",
    .timePart .hourOfWeek
      "(mod((extract(DAY_OF_WEEK from $$) + 6), 7) * 24 + extract(HOUR from $$))",
    .timePart .hourOfMonth "((extract(DAY from $$)-1)*24+extract(HOUR from $$))",
    .timePart .hourOfYear "((extract(DAY_OF_YEAR from $$)-1)*24+extract(HOUR from $$))",
    .timePart .dayOfWeek "extract(DAY_OF_WEEK from $$)",
    .timePart .dayOfMonth "extract(DAY from $$)",
    .timePart .dayOfYear "extract(DAY_OF_YEAR from $$)",
    .timePart .weekOfYear "extract(WEEK from $$)",
    .timePart .monthOfYear "extract(MONTH from $$)",
    .timePart .quarter "extract(QUARTER from $$)",
    .timePart .year "extract(YEAR from $$)"
  ]

-- Days since Monday; the engine counts from Sunday as one.
def bigQueryDayOfWeek : String := "MOD(EXTRACT(DAYOFWEEK FROM $$) + 5, 7)"
def bigQueryHourOfWeek : String := "(" ++ bigQueryDayOfWeek ++ " * 24 + EXTRACT(HOUR FROM $$))"
def bigQueryMinuteOfWeek : String := "(" ++ bigQueryHourOfWeek ++ " * 60 + EXTRACT(MINUTE FROM $$))"
def bigQuerySecondOfWeek : String :=
  "(" ++ bigQueryMinuteOfWeek ++ " * 60 + EXTRACT(SECOND FROM $$))"

def bigQueryEntries : List Entry := [
    .bucket "PT1S" "SECOND",
    .bucket "PT1M" "MINUTE",
    .bucket "PT1H" "HOUR",
    .bucket "P1D" "DAY",
    .bucket "P1W" "WEEK(MONDAY)",
    .bucket "P1M" "MONTH",
    .bucket "P1Y" "YEAR",
    .cast .time .number "TIMESTAMP_MILLIS(CAST($$ AS INT64))",
    .cast .time .string "SAFE_CAST($$ AS TIMESTAMP)",
    .cast .number .time "UNIX_MILLIS($$)",
    .cast .number .string "SAFE_CAST($$ AS FLOAT64)",
    .cast .string .number "CAST($$ AS STRING)",
    .cast .string .time "FORMAT_TIMESTAMP('%Y-%m-%dT%H:%M:%E3SZ', $$)",
    .timePart .secondOfMinute "EXTRACT(SECOND FROM $$)",
    .timePart .secondOfHour "(EXTRACT(MINUTE FROM $$) * 60 + EXTRACT(SECOND FROM $$))",
    .timePart .secondOfDay
      "((EXTRACT(HOUR FROM $$) * 60 + EXTRACT(MINUTE FROM $$)) * 60 + EXTRACT(SECOND FROM $$))",
    .timePart .secondOfWeek (bigQuerySecondOfWeek),
    .timePart .minuteOfHour "EXTRACT(MINUTE FROM $$)",
    .timePart .minuteOfDay "(EXTRACT(HOUR FROM $$) * 60 + EXTRACT(MINUTE FROM $$))",
    .timePart .minuteOfWeek (bigQueryMinuteOfWeek),
    .timePart .hourOfDay "EXTRACT(HOUR FROM $$)",
    .timePart .hourOfWeek (bigQueryHourOfWeek),
    .timePart .hourOfMonth "((EXTRACT(DAY FROM $$) - 1) * 24 + EXTRACT(HOUR FROM $$))",
    .timePart .hourOfYear "((EXTRACT(DAYOFYEAR FROM $$) - 1) * 24 + EXTRACT(HOUR FROM $$))",
    .timePart .dayOfWeek ("(" ++ bigQueryDayOfWeek ++ " + 1)"),
    .timePart .dayOfMonth "EXTRACT(DAY FROM $$)",
    .timePart .dayOfYear "EXTRACT(DAYOFYEAR FROM $$)",
    .timePart .weekOfYear "EXTRACT(ISOWEEK FROM $$)",
    .timePart .monthOfYear "EXTRACT(MONTH FROM $$)",
    .timePart .quarter "EXTRACT(QUARTER FROM $$)",
    .timePart .year "EXTRACT(YEAR FROM $$)"
  ]

def postgresField (field : String) : String :=
  "CAST(EXTRACT(" ++ field ++ " FROM $$) AS INT)"

-- Days since Monday; the engine counts from Sunday as zero.
def postgresDayOfWeek : String := "((" ++ postgresField "DOW" ++ " + 6) % 7)"

def postgresEntries : List Entry := [
    .bucket "PT1S" "second",
    .bucket "PT1M" "minute",
    .bucket "PT1H" "hour",
    .bucket "P1D" "day",
    .bucket "P1W" "week",
    .bucket "P1M" "month",
    .bucket "P1Y" "year",
    .cast .time .number "TO_TIMESTAMP(CAST($$ AS DOUBLE PRECISION) / 1000)",
    .cast .time .string "CAST($$ AS TIMESTAMP)",
    .cast .number .time "CAST(EXTRACT(EPOCH FROM $$) * 1000 AS BIGINT)",
    .cast .number .string "CAST($$ AS DOUBLE PRECISION)",
    .cast .string .number "CAST($$ AS TEXT)",
    .cast .string .time "TO_CHAR($$, 'YYYY-MM-DD\"T\"HH24:MI:SS.MS\"Z\"')",
    .timePart .secondOfMinute (postgresField "SECOND"),
    .timePart .secondOfHour
      ("(" ++ postgresField "MINUTE" ++ " * 60 + " ++ postgresField "SECOND" ++ ")"),
    .timePart .secondOfDay "CAST(EXTRACT(EPOCH FROM CAST($$ AS TIME)) AS INT)",
    .timePart .secondOfWeek
      ("(((" ++ postgresDayOfWeek ++ " * 24 + " ++ postgresField "HOUR" ++ ") * 60 + "
        ++ postgresField "MINUTE" ++ ") * 60 + " ++ postgresField "SECOND" ++ ")"),
    .timePart .minuteOfHour (postgresField "MINUTE"),
    .timePart .minuteOfDay
      ("(" ++ postgresField "HOUR" ++ " * 60 + " ++ postgresField "MINUTE" ++ ")"),
    .timePart .minuteOfWeek
      ("((" ++ postgresDayOfWeek ++ " * 24 + " ++ postgresField "HOUR" ++ ") * 60 + "
        ++ postgresField "MINUTE" ++ ")"),
    .timePart .minuteOfMonth
      ("(((" ++ postgresField "DAY" ++ " - 1) * 24 + " ++ postgresField "HOUR" ++ ") * 60 + "
        ++ postgresField "MINUTE" ++ ")"),
    .timePart .hourOfDay (postgresField "HOUR"),
    .timePart .hourOfWeek ("(" ++ postgresDayOfWeek ++ " * 24 + " ++ postgresField "HOUR" ++ ")"),
    .timePart .hourOfMonth
      ("((" ++ postgresField "DAY" ++ " - 1) * 24 + " ++ postgresField "HOUR" ++ ")"),
    .timePart .hourOfYear
      ("((" ++ postgresField "DOY" ++ " - 1) * 24 + " ++ postgresField "HOUR" ++ ")"),
    .timePart .dayOfWeek (postgresField "ISODOW"),
    .timePart .dayOfMonth (postgresField "DAY"),
    .timePart .dayOfYear (postgresField "DOY"),
    .timePart .weekOfYear (postgresField "WEEK"),
    .timePart .monthOfYear (postgresField "MONTH"),
    .timePart .quarter (postgresField "QUARTER"),
    .timePart .year (postgresField "YEAR")
  ]

def mySqlEntries : List Entry := [
    .bucket "PT1S" "%Y-%m-%d %H:%i:%s",
    .bucket "PT1M" "%Y-%m-%d %H:%i:00",
    .bucket "PT1H" "%Y-%m-%d %H:00:00",
    .bucket "P1D" "%Y-%m-%d 00:00:00",
    .bucket "P1M" "%Y-%m-01 00:00:00",
    .bucket "P1Y" "%Y-01-01 00:00:00",
    .cast .time .number "FROM_UNIXTIME($$ / 1000)",
    .cast .time .string "CAST($$ AS DATETIME)",
    .cast .number .time "(UNIX_TIMESTAMP($$) * 1000)",
    .cast .number .string "CAST($$ AS SIGNED)",
    .cast .string .number "CAST($$ AS CHAR)",
    .cast .string .time "DATE_FORMAT($$, '%Y-%m-%dT%H:%i:%s.000Z')",
    .timePart .secondOfMinute "SECOND($$)",
    .timePart .secondOfHour "(MINUTE($$) * 60 + SECOND($$))",
    .timePart .secondOfDay "TIME_TO_SEC($$)",
    .timePart .secondOfWeek "(WEEKDAY($$) * 86400 + TIME_TO_SEC($$))",
    .timePart .minuteOfHour "MINUTE($$)",
    .timePart .minuteOfDay "(HOUR($$) * 60 + MINUTE($$))",
    .timePart .minuteOfWeek "((WEEKDAY($$) * 24 + HOUR($$)) * 60 + MINUTE($$))",
    .timePart .hourOfDay "HOUR($$)",
    .timePart .hourOfWeek "(WEEKDAY($$) * 24 + HOUR($$))",
    .timePart .hourOfMonth "((DAYOFMONTH($$) - 1) * 24 + HOUR($$))",
    .timePart .hourOfYear "((DAYOFYEAR($$) - 1) * 24 + HOUR($$))",
    .timePart .dayOfWeek "(WEEKDAY($$) + 1)",
    .timePart .dayOfMonth "DAYOFMONTH($$)",
    .timePart .dayOfYear "DAYOFYEAR($$)",
    .timePart .weekOfYear "WEEK($$, 3)",
    .timePart .monthOfYear "MONTH($$)",
    .timePart .quarter "QUARTER($$)",
    .timePart .year "YEAR($$)"
  ]

end OlapQuery.Sql
