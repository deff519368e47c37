import OlapQuery.Expr.Conjunction

-- Taking restrictions of the time attribute out of a filter, as a list of ranges in which the
-- time has to lie. What else the filter asks stays behind.

namespace OlapQuery

open Time (Instant)

structure TimeFilter where
  -- None when no clause restricts the time.
  intervals : Option (List TimeRange)
  rest : Expr

namespace TimeFilter

def elementRange? : Value → Option TimeRange
  | .timeRange r => some r
  | .time t => some (.instant t)
  | _ => none

def literalRanges? (op : BinaryOp) (value : Value) : Option (List TimeRange) :=
  match op,value with
  | .member,.timeRange r => some [r]
  | .member,.set _ elements => elements.mapM elementRange?
  | .is,.time t => some [.instant t]
  | .greaterThan,.time t => some [{ start := some (t.addMillis 1),finish := none }]
  | .greaterThanOrEqual,.time t => some [{ start := some t,finish := none }]
  | .lessThan,.time t => some [{ start := none,finish := some t }]
  | .lessThanOrEqual,.time t => some [{ start := none,finish := some (t.addMillis 1) }]
  | _,_ => none

def clauseRanges? (column : String) : Expr → Option (List TimeRange)
  | .binary op (.ref name) (.literal value) =>
      if name == column then literalRanges? op value else none
  | _ => none

def intersectAll (a b : List TimeRange) : List TimeRange :=
  a.flatMap (fun x => b.filterMap (fun y => x.intersect y))

def addClause (column : String) (state : Option (List TimeRange) × List Expr) (clause : Expr) :
    Option (List TimeRange) × List Expr :=
  match clauseRanges? column clause,state.1 with
  | some ranges,none => (some ranges,state.2)
  | some ranges,some current => (some (intersectAll current ranges),state.2)
  | none,_ => (state.1,state.2 ++ [clause])

def clauses : Expr → List Expr
  | .and operands => operands
  | other => [other]

def split (filter : Expr) : Option String → TimeFilter
  | none => { intervals := none,rest := filter }
  | some column =>
      let (intervals,rest) := (clauses filter).foldl (addClause column) (none,[])
      { intervals,rest := .andAll rest }

-- The instants of an operation with a literal whose next millisecond its ranges need. The elements
-- of a set are taken one after the other, as long as they are ranges or instants.
def literalEdges (op : BinaryOp) (value : Value) : List Instant :=
  match op,value with
  | .member,.set _ elements =>
      (elements.takeWhile fun v => (elementRange? v).isSome).filterMap fun
        | .time t => some t
        | _ => none
  | .is,.time t => [t]
  | .greaterThan,.time t => [t]
  | .lessThanOrEqual,.time t => [t]
  | _,_ => []

def clauseEdges (column : String) : Expr → List Instant
  | .binary op (.ref name) (.literal value) =>
      if name == column then literalEdges op value else []
  | _ => []

def clauseRanges (column : String) (clause : Expr) : Checked (Option (List TimeRange)) := do
  let _ ← (clauseEdges column clause).mapM Instant.next
  return clauseRanges? column clause

def lift (filter : Expr) : Option String → Checked TimeFilter
  | none => .ok (split filter none)
  | some column => do
      let _ ← (clauses filter).mapM (clauseRanges column)
      return split filter (some column)

end TimeFilter

end OlapQuery
