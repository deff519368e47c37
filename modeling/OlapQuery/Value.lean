import OlapQuery.DataType
import OlapQuery.Json.Basic
import OlapQuery.Text.Letters
import OlapQuery.Time.Instant

-- Literal values: scalars, half-open ranges and sets.

namespace OlapQuery

open Time (Instant)

-- The instants from `start` up to, but without, `finish`. A missing bound is open.
structure TimeRange where
  start : Option Instant
  finish : Option Instant
  deriving DecidableEq, Repr

structure NumberRange where
  start : Option Float
  finish : Option Float

inductive Value where
  | null
  | boolean (value : Bool)
  | number (value : Float)
  | string (value : String)
  | time (value : Instant)
  | timeRange (range : TimeRange)
  | numberRange (range : NumberRange)
  | set (elementType : DataType) (elements : List Value)
  deriving Inhabited

namespace TimeRange

def instant (t : Instant) : TimeRange :=
  { start := some t,finish := some (t.addMillis 1) }

def unbounded : TimeRange :=
  { start := none,finish := none }

def combine (choose : Instant → Instant → Instant) (a b : Option Instant) : Option Instant :=
  match a,b with
  | some s,some t => some (choose s t)
  | some s,none => some s
  | none,b => b

def intersect (a b : TimeRange) : Option TimeRange :=
  let start := combine Instant.max a.start b.start
  let finish := combine Instant.min a.finish b.finish
  match start,finish with
  | some s,some e => if e.le s then none else some { start,finish }
  | _,_ => some { start,finish }

end TimeRange

namespace Value

def sameBound : Option Float → Option Float → Bool
  | none,none => true
  | some a,some b => a == b
  | _,_ => false

mutual
def same : Value → Value → Bool
  | .null,.null => true
  | .boolean a,.boolean b => a == b
  | .number a,.number b => a == b
  | .string a,.string b => a == b
  | .time a,.time b => a == b
  | .timeRange a,.timeRange b => a == b
  | .numberRange a,.numberRange b => sameBound a.start b.start && sameBound a.finish b.finish
  | .set s as,.set t bs => s == t && sameAll as bs
  | _,_ => false

def sameAll : List Value → List Value → Bool
  | [],[] => true
  | a :: as,b :: bs => same a b && sameAll as bs
  | _,_ => false
end

instance : BEq Value := ⟨same⟩

-- A range has the type of its members, and a set of strings has a type of its own.
def type : Value → DataType
  | .null => .null
  | .boolean _ => .boolean
  | .number _ => .number
  | .numberRange _ => .number
  | .string _ => .string
  | .time _ => .time
  | .timeRange _ => .time
  | .set .string _ => .stringSet
  | .set elementType _ => elementType

def boundText (f : α → String) : Option α → String
  | none => ""
  | some a => f a

mutual
def display : Value → String
  | .null => "null"
  | .boolean b => if b then "true" else "false"
  | .number n => Decimal.numberText n
  | .string s => Text.quoted s
  | .time t => t.millisText
  | .timeRange r =>
      "[" ++ boundText Instant.millisText r.start ++ ", "
        ++ boundText Instant.millisText r.finish ++ ")"
  | .numberRange r =>
      "[" ++ boundText Decimal.numberText r.start ++ ", "
        ++ boundText Decimal.numberText r.finish ++ ")"
  | .set _ elements => "\x7b" ++ String.intercalate "," (displayAll elements) ++ "\x7d"

def displayAll : List Value → List String
  | [] => []
  | v :: rest => display v :: displayAll rest
end

def nativeText : Value → Option String
  | .null => none
  | .string s => some s
  | v => some v.display

def ofJson (json : Json) (wanted : DataType) : Option Value :=
  match json with
  | .null => some .null
  | .bool b => some (.boolean b)
  | .int n => some (.number (Float.ofInt n))
  | .float x => some (.number x)
  | .str s =>
      match wanted with
      | .number => (Decimal.readFloat s).map .number
      | .boolean =>
          if s == "true" || s == "1" then some (.boolean true)
          else if s == "false" || s == "0" then some (.boolean false)
          else none
      | .time => (Instant.parse? s).map .time
      | _ => some (.string s)
  | .arr _ => none
  | .obj _ => none

def memberOf (value : Value) (elements : List Value) : Bool :=
  elements.any (fun element => element.same value)

end Value

end OlapQuery
