import OlapQuery.Time.Duration
import OlapQuery.Time.Part
import OlapQuery.Value

-- Expressions of the query algebra. An operation has one operand, two, or a list of them; what
-- an operation carries besides its operands is part of the operation.

namespace OlapQuery

open Time (Duration Zone Part)

inductive Direction where
  | ascending
  | descending
  deriving DecidableEq, Repr

def Direction.name : Direction → String
  | .ascending => "ascending"
  | .descending => "descending"

def Direction.parse? : String → Option Direction
  | "ascending" => some .ascending
  | "descending" => some .descending
  | _ => none

inductive UnaryOp where
  | limit (count : UInt64)
  | count
  | customAggregate (name : String)
  | absolute
  | not
  | regexMatch (pattern : String)
  | substr (position len : Int64)
  | extract (pattern : String)
  | lookup (name : String)
  | timeBucket (duration : Duration) (zone : Option Zone)
  | timeFloor (duration : Duration) (zone : Option Zone)
  | timePart (part : Part) (zone : Option Zone)
  | timeShift (duration : Duration) (step : Int32) (zone : Option Zone)
  | numberBucket (size offset : Float)
  | cast (type : DataType)

inductive BinaryOp where
  | filter
  | apply (name : String)
  | sort (direction : Direction)
  | sum
  | min
  | max
  | average
  | countDistinct
  | add
  | subtract
  | multiply
  | divide
  | power
  | is
  | member
  | overlap
  | greaterThan
  | greaterThanOrEqual
  | lessThan
  | lessThanOrEqual
  | contains (ignoreCase : Bool)
  | concat
  | fallback
  | indexOf
  deriving DecidableEq, Repr

inductive Junction where
  | and
  | or
  deriving DecidableEq, Repr

inductive Expr where
  | literal (value : Value)
  | ref (name : String)
  -- One empty datum, the root of a query for totals.
  | ply
  | unary (op : UnaryOp) (operand : Expr)
  | binary (op : BinaryOp) (operand expression : Expr)
  | junction (op : Junction) (operands : List Expr)
  -- The keys are in name order.
  | split (operand : Expr) (keys : List (String × Expr)) (dataName : String)
  deriving Inhabited

namespace UnaryOp

def name : UnaryOp → String
  | .limit _ => "limit"
  | .count => "count"
  | .customAggregate _ => "customAggregate"
  | .absolute => "absolute"
  | .not => "not"
  | .regexMatch _ => "match"
  | .substr _ _ => "substr"
  | .extract _ => "extract"
  | .lookup _ => "lookup"
  | .timeBucket _ _ => "timeBucket"
  | .timeFloor _ _ => "timeFloor"
  | .timePart _ _ => "timePart"
  | .timeShift _ _ _ => "timeShift"
  | .numberBucket _ _ => "numberBucket"
  | .cast _ => "cast"

-- Sameness; bucket sizes are compared as numbers.
def same : UnaryOp → UnaryOp → Bool
  | .limit a,.limit b => a == b
  | .count,.count => true
  | .customAggregate a,.customAggregate b => a == b
  | .absolute,.absolute => true
  | .not,.not => true
  | .regexMatch a,.regexMatch b => a == b
  | .substr p l,.substr q m => p == q && l == m
  | .extract a,.extract b => a == b
  | .lookup a,.lookup b => a == b
  | .timeBucket d z,.timeBucket e y => d == e && z == y
  | .timeFloor d z,.timeFloor e y => d == e && z == y
  | .timePart p z,.timePart q y => p == q && z == y
  | .timeShift d s z,.timeShift e t y => d == e && s == t && z == y
  | .numberBucket s o,.numberBucket t p => s == t && o == p
  | .cast a,.cast b => a == b
  | _,_ => false

def isAggregate : UnaryOp → Bool
  | .count => true
  | .customAggregate _ => true
  | _ => false

end UnaryOp

namespace BinaryOp

def name : BinaryOp → String
  | .filter => "filter"
  | .apply _ => "apply"
  | .sort _ => "sort"
  | .sum => "sum"
  | .min => "min"
  | .max => "max"
  | .average => "average"
  | .countDistinct => "countDistinct"
  | .add => "add"
  | .subtract => "subtract"
  | .multiply => "multiply"
  | .divide => "divide"
  | .power => "power"
  | .is => "is"
  | .member => "in"
  | .overlap => "overlap"
  | .greaterThan => "greaterThan"
  | .greaterThanOrEqual => "greaterThanOrEqual"
  | .lessThan => "lessThan"
  | .lessThanOrEqual => "lessThanOrEqual"
  | .contains _ => "contains"
  | .concat => "concat"
  | .fallback => "fallback"
  | .indexOf => "indexOf"

def isAggregate : BinaryOp → Bool
  | .sum => true
  | .min => true
  | .max => true
  | .average => true
  | .countDistinct => true
  | _ => false

end BinaryOp

def Junction.name : Junction → String
  | .and => "and"
  | .or => "or"

namespace Expr

@[match_pattern] abbrev filter (e condition : Expr) : Expr := .binary .filter e condition
@[match_pattern] abbrev apply (e : Expr) (name : String) (x : Expr) : Expr := .binary (.apply name) e x
@[match_pattern] abbrev sort (e key : Expr) (d : Direction) : Expr := .binary (.sort d) e key
@[match_pattern] abbrev limit (e : Expr) (n : UInt64) : Expr := .unary (.limit n) e
@[match_pattern] abbrev count (e : Expr) : Expr := .unary .count e
@[match_pattern] abbrev sum (e x : Expr) : Expr := .binary .sum e x
@[match_pattern] abbrev min (e x : Expr) : Expr := .binary .min e x
@[match_pattern] abbrev max (e x : Expr) : Expr := .binary .max e x
@[match_pattern] abbrev average (e x : Expr) : Expr := .binary .average e x
@[match_pattern] abbrev countDistinct (e x : Expr) : Expr := .binary .countDistinct e x
@[match_pattern] abbrev customAggregate (e : Expr) (name : String) : Expr :=
  .unary (.customAggregate name) e
@[match_pattern] abbrev add (e x : Expr) : Expr := .binary .add e x
@[match_pattern] abbrev subtract (e x : Expr) : Expr := .binary .subtract e x
@[match_pattern] abbrev multiply (e x : Expr) : Expr := .binary .multiply e x
@[match_pattern] abbrev divide (e x : Expr) : Expr := .binary .divide e x
@[match_pattern] abbrev power (e x : Expr) : Expr := .binary .power e x
@[match_pattern] abbrev absolute (e : Expr) : Expr := .unary .absolute e
@[match_pattern] abbrev and (es : List Expr) : Expr := .junction .and es
@[match_pattern] abbrev or (es : List Expr) : Expr := .junction .or es
@[match_pattern] abbrev not (e : Expr) : Expr := .unary .not e
@[match_pattern] abbrev is (e x : Expr) : Expr := .binary .is e x
@[match_pattern] abbrev member (e x : Expr) : Expr := .binary .member e x
@[match_pattern] abbrev overlap (e x : Expr) : Expr := .binary .overlap e x
@[match_pattern] abbrev greaterThan (e x : Expr) : Expr := .binary .greaterThan e x
@[match_pattern] abbrev greaterThanOrEqual (e x : Expr) : Expr := .binary .greaterThanOrEqual e x
@[match_pattern] abbrev lessThan (e x : Expr) : Expr := .binary .lessThan e x
@[match_pattern] abbrev lessThanOrEqual (e x : Expr) : Expr := .binary .lessThanOrEqual e x
@[match_pattern] abbrev contains (e x : Expr) (ignoreCase : Bool) : Expr :=
  .binary (.contains ignoreCase) e x
@[match_pattern] abbrev regexMatch (e : Expr) (pattern : String) : Expr := .unary (.regexMatch pattern) e
@[match_pattern] abbrev concat (e x : Expr) : Expr := .binary .concat e x
@[match_pattern] abbrev substr (e : Expr) (position len : Int64) : Expr := .unary (.substr position len) e
@[match_pattern] abbrev extract (e : Expr) (pattern : String) : Expr := .unary (.extract pattern) e
@[match_pattern] abbrev lookup (e : Expr) (name : String) : Expr := .unary (.lookup name) e
@[match_pattern] abbrev fallback (e x : Expr) : Expr := .binary .fallback e x
@[match_pattern] abbrev indexOf (e x : Expr) : Expr := .binary .indexOf e x
@[match_pattern] abbrev timeBucket (e : Expr) (d : Duration) (zone : Option Zone) : Expr :=
  .unary (.timeBucket d zone) e
@[match_pattern] abbrev timeFloor (e : Expr) (d : Duration) (zone : Option Zone) : Expr :=
  .unary (.timeFloor d zone) e
@[match_pattern] abbrev timePart (e : Expr) (part : Part) (zone : Option Zone) : Expr :=
  .unary (.timePart part zone) e
@[match_pattern] abbrev timeShift (e : Expr) (d : Duration) (step : Int32) (zone : Option Zone) : Expr :=
  .unary (.timeShift d step zone) e
@[match_pattern] abbrev numberBucket (e : Expr) (size offset : Float) : Expr :=
  .unary (.numberBucket size offset) e
@[match_pattern] abbrev cast (e : Expr) (type : DataType) : Expr := .unary (.cast type) e
@[match_pattern] abbrev bool (b : Bool) : Expr := .literal (.boolean b)
@[match_pattern] abbrev number (x : Float) : Expr := .literal (.number x)

def opName : Expr → String
  | .literal _ => "literal"
  | .ref _ => "ref"
  | .ply => "ply"
  | .unary op _ => op.name
  | .binary op _ _ => op.name
  | .junction op _ => op.name
  | .split _ _ _ => "split"

def children : Expr → List Expr
  | .literal _ => []
  | .ref _ => []
  | .ply => []
  | .unary _ e => [e]
  | .binary _ e x => [e,x]
  | .junction _ es => es
  | .split e keys _ => e :: keys.map (·.2)

-- Sameness of expressions; numbers in them are compared as numbers.
mutual
def same : Expr → Expr → Bool
  | .literal a,.literal b => a.same b
  | .ref a,.ref b => a == b
  | .ply,.ply => true
  | .unary o a,.unary p b => o.same p && same a b
  | .binary o a x,.binary p b y => o == p && same a b && same x y
  | .junction o as,.junction p bs => o == p && sameAll as bs
  | .split a ks d,.split b ls f => d == f && same a b && sameKeys ks ls
  | _,_ => false

def sameAll : List Expr → List Expr → Bool
  | [],[] => true
  | a :: as,b :: bs => same a b && sameAll as bs
  | _,_ => false

def sameKeys : List (String × Expr) → List (String × Expr) → Bool
  | [],[] => true
  | (k,a) :: as,(l,b) :: bs => k == l && same a b && sameKeys as bs
  | _,_ => false
end

instance : BEq Expr := ⟨same⟩

-- Rebuilds an expression from the top. Where `f` has a replacement it is taken as it is and not
-- searched further. Parts are visited in order, the operand first.
mutual
def transformM [Monad m] (f : Expr → m (Option Expr)) : Expr → m Expr
  | .literal v => do return (← f (.literal v)).getD (.literal v)
  | .ref name => do return (← f (.ref name)).getD (.ref name)
  | .ply => do return (← f .ply).getD .ply
  | .unary op e => do
      match ← f (.unary op e) with
      | some replaced => return replaced
      | none => return .unary op (← transformM f e)
  | .binary op e x => do
      match ← f (.binary op e x) with
      | some replaced => return replaced
      | none =>
          let e' ← transformM f e
          let x' ← transformM f x
          return .binary op e' x'
  | .junction op es => do
      match ← f (.junction op es) with
      | some replaced => return replaced
      | none => return .junction op (← transformAllM f es)
  | .split e keys dataName => do
      match ← f (.split e keys dataName) with
      | some replaced => return replaced
      | none =>
          let e' ← transformM f e
          let keys' ← transformKeysM f keys
          return .split e' keys' dataName

def transformAllM [Monad m] (f : Expr → m (Option Expr)) : List Expr → m (List Expr)
  | [] => return []
  | e :: rest => do
      let e' ← transformM f e
      let rest' ← transformAllM f rest
      return e' :: rest'

def transformKeysM [Monad m] (f : Expr → m (Option Expr)) :
    List (String × Expr) → m (List (String × Expr))
  | [] => return []
  | (name,e) :: rest => do
      let e' ← transformM f e
      let rest' ← transformKeysM f rest
      return (name,e') :: rest'
end

mutual
def substitute (name : String) (value : Expr) : Expr → Expr
  | .literal v => .literal v
  | .ref other => if other == name then value else .ref other
  | .ply => .ply
  | .unary op e => .unary op (substitute name value e)
  | .binary op e x => .binary op (substitute name value e) (substitute name value x)
  | .junction op es => .junction op (substituteAll name value es)
  | .split e keys dataName =>
      .split (substitute name value e) (substituteKeys name value keys) dataName

def substituteAll (name : String) (value : Expr) : List Expr → List Expr
  | [] => []
  | e :: rest => substitute name value e :: substituteAll name value rest

def substituteKeys (name : String) (value : Expr) : List (String × Expr) → List (String × Expr)
  | [] => []
  | (key,e) :: rest => (key,substitute name value e) :: substituteKeys name value rest
end

-- An expression and everything inside it, each before its own parts.
mutual
def nodes : Expr → List Expr
  | .literal v => [.literal v]
  | .ref name => [.ref name]
  | .ply => [.ply]
  | .unary op e => .unary op e :: nodes e
  | .binary op e x => .binary op e x :: (nodes e ++ nodes x)
  | .junction op es => .junction op es :: nodesAll es
  | .split e keys dataName => .split e keys dataName :: (nodes e ++ nodesKeys keys)

def nodesAll : List Expr → List Expr
  | [] => []
  | e :: rest => nodes e ++ nodesAll rest

def nodesKeys : List (String × Expr) → List Expr
  | [] => []
  | (_,e) :: rest => nodes e ++ nodesKeys rest
end

def refName? : Expr → Option String
  | .ref name => some name
  | _ => none

def literal? : Expr → Option Value
  | .literal v => some v
  | _ => none

def isTrue : Expr → Bool
  | .bool b => b
  | _ => false

def isFalse : Expr → Bool
  | .bool b => !b
  | _ => false

def references (e : Expr) : List String :=
  sortedNames (e.nodes.filterMap refName?)

def isAggregate : Expr → Bool
  | .unary op _ => op.isAggregate
  | .binary op _ _ => op.isAggregate
  | _ => false

def containsAggregate (e : Expr) : Bool :=
  e.nodes.any isAggregate

def aggregateOperand? : Expr → Option Expr
  | .unary op e => if op.isAggregate then some e else none
  | .binary op e _ => if op.isAggregate then some e else none
  | _ => none

-- The same aggregate over another dataset; other expressions stay as they are.
def withAggregateOperand (aggregate dataset : Expr) : Expr :=
  match aggregate with
  | .unary op e => if op.isAggregate then .unary op dataset else .unary op e
  | .binary op e x => if op.isAggregate then .binary op dataset x else .binary op e x
  | e => e

-- A reference under any number of filters, as the name and the filters in the order written.
def datasetChain? : Expr → Option (String × List Expr)
  | .ref name => some (name,[])
  | .filter e condition => (datasetChain? e).map fun (root,filters) => (root,filters ++ [condition])
  | _ => none

-- Disjunction of two; disjunctions among them are opened.
def orElse (a b : Expr) : Expr :=
  let operands : Expr → List Expr
    | .or es => es
    | e => [e]
  .or (operands a ++ operands b)

end Expr

end OlapQuery
