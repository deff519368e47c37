import OlapQuery.Expr.Conjunction

-- Dataset expressions as a chain: a base and the steps taken from it, in the order written.

namespace OlapQuery

inductive Step where
  | filter (condition : Expr)
  | split (keys : List (String × Expr)) (dataName : String)
  | apply (name : String) (expression : Expr)
  | sort (key : Expr) (direction : Direction)
  | limit (count : UInt64)

def Step.opName : Step → String
  | .filter _ => "filter"
  | .split _ _ => "split"
  | .apply _ _ => "apply"
  | .sort _ _ => "sort"
  | .limit _ => "limit"

def Step.isSplit : Step → Bool
  | .split _ _ => true
  | _ => false

namespace Expr

def lastStep? : Expr → Option (Expr × Step)
  | .filter e condition => some (e,.filter condition)
  | .split e keys dataName => some (e,.split keys dataName)
  | .apply e name x => some (e,.apply name x)
  | .sort e key direction => some (e,.sort key direction)
  | .limit e n => some (e,.limit n)
  | _ => none

def isDatasetOp (e : Expr) : Bool :=
  match e with
  | .ply => true
  | e => e.lastStep?.isSome

def chainBase : Expr → Expr
  | .binary .filter e _ => chainBase e
  | .binary (.apply _) e _ => chainBase e
  | .binary (.sort _) e _ => chainBase e
  | .unary (.limit _) e => chainBase e
  | .split e _ _ => chainBase e
  | e => e

def chainSteps : Expr → List Step
  | .binary .filter e condition => chainSteps e ++ [.filter condition]
  | .binary (.apply name) e x => chainSteps e ++ [.apply name x]
  | .binary (.sort direction) e key => chainSteps e ++ [.sort key direction]
  | .unary (.limit n) e => chainSteps e ++ [.limit n]
  | .split e keys dataName => chainSteps e ++ [.split keys dataName]
  | _ => []

def hasSplit (e : Expr) : Bool :=
  e.chainSteps.any Step.isSplit

def withChainBase (chain base : Expr) : Expr :=
  match chain with
  | .binary .filter e condition => .binary .filter (withChainBase e base) condition
  | .binary (.apply name) e x => .binary (.apply name) (withChainBase e base) x
  | .binary (.sort direction) e key => .binary (.sort direction) (withChainBase e base) key
  | .unary (.limit n) e => .unary (.limit n) (withChainBase e base)
  | .split e keys dataName => .split (withChainBase e base) keys dataName
  | _ => base

def filteredDataset (name : String) (filters : List Expr) : Expr :=
  let condition := andAll filters
  if condition.isTrue then .ref name else .filter (.ref name) condition

-- The names that one node uses as datasets: its operand, and the name a split gives its parts.
def datasetNames (e : Expr) : List String :=
  let operand := match e.lastStep? with
    | some (operand,_) => some operand
    | none => e.aggregateOperand?
  let parts := match e with
    | .split _ _ dataName => [dataName]
    | _ => []
  (operand.bind refName?).toList ++ parts

def datasets (e : Expr) : List String :=
  sortedNames (e.nodes.flatMap datasetNames)

end Expr

end OlapQuery
