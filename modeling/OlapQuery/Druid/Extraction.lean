import OlapQuery.Dataset
import OlapQuery.Druid.Query
import OlapQuery.Druid.Script

-- Scalar expressions as a dimension of Druid, read through an extraction function where the
-- expression is more than a column.

namespace OlapQuery.Druid

open Time (CalendarUnit Duration Part Zone)

def timeDimension : String := "__time"

def booleanMap : Table String :=
  [("0","false"),("1","true"),("false","false"),("true","true")]

structure DimensionSource where
  dimension : String
  extraction : Option ExtractionFn := none

def DimensionSource.named (s : DimensionSource) (outputName : String) : Dimension :=
  { dimension := s.dimension,outputName,extraction := s.extraction }

def timePartFormat : Part → Option String
  | .secondOfMinute => some "s"
  | .secondOfDay => some "H'*60+'m'*60+'s"
  | .minuteOfHour => some "m"
  | .hourOfDay => some "H"
  | .dayOfWeek => some "e"
  | .dayOfMonth => some "d"
  | .dayOfYear => some "D"
  | .weekOfYear => some "w"
  | .monthOfYear => some "M"
  | .year => some "Y"
  | _ => none

-- The format that prints the start of a bucket as a timestamp; only single units have one.
def bucketFormat (duration : Duration) : Option String :=
  match duration.singleUnit with
  | some (unit,n) =>
      if n != 1 then none
      else
        match unit with
        | .second => some "yyyy-MM-dd'T'HH:mm:ss'Z"
        | .minute => some "yyyy-MM-dd'T'HH:mm'Z"
        | .hour => some "yyyy-MM-dd'T'HH':00Z"
        | .day => some "yyyy-MM-dd'Z"
        | .week => none
        | .month => some "yyyy-MM'-01Z"
        | .year => some "yyyy'-01-01Z"
  | none => none

def timeFormat (format : String) (zone : Option Zone) : DimensionSource :=
  { dimension := timeDimension
    extraction := some (.timeFormat format "en-US" (zone.getD Zone.utc).name) }

namespace DimensionSource

def script (dimension function : String) (injective : Option Bool) : DimensionSource :=
  { dimension,extraction := some (.javascript function injective) }

-- A column: the timestamps under Druid's name, ranges through a script, booleans through their
-- texts, and anything else as it is.
def ofColumn (dataset : Dataset) (name : String) : Compiled DimensionSource :=
  match dataset.attribute? name with
  | none => .error (.refused (.unknownAttribute name))
  | some column =>
      if dataset.isTimeAttribute name then .ok { dimension := timeDimension }
      else
        match column.special with
        | some (.range separator size digits) =>
            .ok (script name (Script.rangeBucketFunction separator size digits none) none)
        | _ =>
            if column.type == .boolean then
              .ok { dimension := name,extraction := some (.lookup (.map booleanMap) none) }
            else .ok { dimension := name }

def plainColumn (dataset : Dataset) (e : Expr) : Compiled String :=
  match e.refName? with
  | none => Compiled.unsupported ("nested " ++ e.opName ++ " in a dimension")
  | some name =>
      match dataset.attribute? name with
      | some _ => .ok name
      | none => .error (.refused (.unknownAttribute name))

def requireTimeColumn (dataset : Dataset) (e : Expr) : Compiled Unit :=
  match e.refName? with
  | some name =>
      if dataset.isTimeAttribute name then .ok ()
      else Compiled.unsupported "time functions on anything but the time attribute"
  | none => Compiled.unsupported "time functions on anything but the time attribute"

def ofExtract (dataset : Dataset) (e : Expr) (pattern : String) (replacement : Option String) :
    Compiled DimensionSource := do
  let dimension ← plainColumn dataset e
  return { dimension,extraction := some (.regex pattern true replacement) }

def ofBucket (dataset : Dataset) (e : Expr) (duration : Duration) (zone : Option Zone) :
    Compiled DimensionSource := do
  requireTimeColumn dataset e
  match bucketFormat duration with
  | some format => return timeFormat format zone
  | none => throw (.refused (.unsupportedDuration (← duration.display.raise)))

def ofScript (dataset : Dataset) (e : Expr) : Compiled DimensionSource :=
  let references := e.references
  match references.filter (fun name => (dataset.attribute? name).isSome) with
  | [dimension] =>
      if dataset.isTimeAttribute dimension then
        Compiled.unsupported (e.opName ++ " of the time attribute")
      else do
        let injective := match e with
          | .concat _ _ => some true
          | _ => none
        return script dimension (← Script.dimensionFunction e dimension) injective
  | _ => Compiled.unsupported
      (e.opName ++ " over " ++ toString references.length ++ " attributes")

def ofExpr (dataset : Dataset) (e : Expr) : Compiled DimensionSource :=
  match e with
  | .ref name => ofColumn dataset name
  | .extract operand pattern => ofExtract dataset operand pattern none
  | .fallback (.extract operand pattern) other =>
      ofExtract dataset operand pattern (other.literal?.bind Value.nativeText)
  | .substr operand position len => do
      let dimension ← plainColumn dataset operand
      return { dimension,extraction := some (.substring position (some len)) }
  | .lookup operand name => do
      let dimension ← plainColumn dataset operand
      let lookup : Lookup := match dataset.lookups.get? name with
        | some entries => .map entries
        | none => .registered name
      return { dimension,extraction := some (.lookup lookup none) }
  | .timePart operand part zone => do
      requireTimeColumn dataset operand
      match timePartFormat part with
      | some format => return timeFormat format zone
      | none => throw (.refused (.unsupportedTimePart part))
  | .timeBucket operand duration zone => ofBucket dataset operand duration zone
  | .timeFloor operand duration zone => ofBucket dataset operand duration zone
  | .numberBucket operand size offset => do
      let dimension ← plainColumn dataset operand
      let function := match (dataset.attribute? dimension).bind (·.special) with
        | some (.range separator rangeSize digits) =>
            Script.rangeBucketFunction separator rangeSize digits (some (size,offset))
        | _ => Script.numberBucketFunction size offset
      return script dimension function none
  | other => ofScript dataset other

end DimensionSource

end OlapQuery.Druid
