import OlapQuery.CompileError
import OlapQuery.Fold.Chain

-- Aggregates in normal form. First every aggregate is put over its root dataset with one filter
-- for each condition; then filters common to all are taken out, and what remains of each
-- becomes one condition.

namespace OlapQuery

namespace Expr

mutual
def aggregates : Expr → List Expr
  | .literal _ => []
  | .ref _ => []
  | .ply => []
  | .unary op e => if op.isAggregate then [.unary op e] else aggregates e
  | .binary op e x => if op.isAggregate then [.binary op e x] else aggregates e ++ aggregates x
  | .junction _ es => aggregatesAll es
  | .split e keys _ => aggregates e ++ aggregatesKeys keys

def aggregatesAll : List Expr → List Expr
  | [] => []
  | e :: rest => aggregates e ++ aggregatesAll rest

def aggregatesKeys : List (String × Expr) → List Expr
  | [] => []
  | (_,e) :: rest => aggregates e ++ aggregatesKeys rest
end

def mapAggregatesM [Monad m] (f : Expr → m Expr) (e : Expr) : m Expr :=
  e.transformM fun node =>
    if node.isAggregate then do return some (← f node) else return none

def mapAggregates (f : Expr → Expr) (e : Expr) : Expr :=
  Id.run (e.mapAggregatesM (fun node => pure (f node)))

def isRef (e : Expr) : Bool :=
  e.refName?.isSome

-- An average as a sum over a count, and the sum of a sum or difference of two columns as the
-- sum or difference of their sums.
def expandAggregate? : Expr → Option Expr
  | .average e x => some (.divide (.sum e x) (.count e))
  | .sum e (.add a b) => if a.isRef && b.isRef then some (.add (.sum e a) (.sum e b)) else none
  | .sum e (.subtract a b) =>
      if a.isRef && b.isRef then some (.subtract (.sum e a) (.sum e b)) else none
  | _ => none

def underFilters (root : String) (filters : List Expr) : Expr :=
  filters.foldl (fun e condition => .filter e condition) (.ref root)

def resolveAggregate (resolve : String → Compiled (String × List Expr)) (e : Expr) : Compiled Expr :=
  match e.aggregateOperand? with
  | none => Compiled.unsupported (e.opName ++ " without a dataset")
  | some operand =>
      match operand.datasetChain? with
      | none => Compiled.unsupported (e.opName ++ " over a non-dataset operand")
      | some (name,own) => do
          let (root,filters) ← resolve name
          let normal := e.withAggregateOperand (underFilters root (filters ++ own))
          return (normal.expandAggregate?).getD normal

-- Every aggregate resolved, and whether the expression was one aggregate that became arithmetic.
def resolveAggregates (resolve : String → Compiled (String × List Expr)) (e : Expr) :
    Compiled (Expr × Bool) := do
  let resolved ← e.mapAggregatesM (resolveAggregate resolve)
  return (resolved,e.isAggregate && e.expandAggregate?.isSome)

def aggregateFilters? (e : Expr) : Option (List Expr) :=
  (e.aggregateOperand?.bind datasetChain?).map (·.2)

def hasClause (clauses : List Expr) (e : Expr) : Bool :=
  clauses.any (fun clause => clause.same e)

def commonFilters (es : List Expr) : List Expr :=
  match ((es.flatMap aggregates).filterMap aggregateFilters?) with
  | [] => []
  | first :: others => first.filter (fun e => others.all (fun filters => hasClause filters e))

def collapseAggregate (dataName : String) (common : List Expr) (e : Expr) : Expr :=
  let own := (e.aggregateFilters?.getD []).filter (fun condition => !hasClause common condition)
  e.withAggregateOperand (filteredDataset dataName own)

def collapseAggregates (dataName : String) (common : List Expr) (e : Expr) : Expr :=
  e.mapAggregates (collapseAggregate dataName common)

def firstAggregateRoot? (e : Expr) : Option String := do
  let first ← e.aggregates.head?
  let operand ← first.aggregateOperand?
  let (root,_) ← operand.datasetChain?
  some root

end Expr

end OlapQuery
