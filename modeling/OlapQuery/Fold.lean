import OlapQuery.Dataset
import OlapQuery.Fold.Measure
import OlapQuery.Fold.Query
import OlapQuery.Regex.Automaton

-- Folding an expression into one query. The expression is a value computed from aggregates, a
-- run of applies on one datum (totals), or a chain over the dataset. The chain is walked once;
-- every piece is checked against the types of columns, keys and earlier applies.

namespace OlapQuery

-- What names stand for: keys and applies first, then datasets, then columns.
structure Scope where
  dataset : Dataset
  datasets : List String
  names : Table DataType := []

namespace Scope

def resolve (s : Scope) (name : String) : Option DataType :=
  match s.names.get? name with
  | some type => some type
  | none => if s.datasets.contains name then some .dataset else s.dataset.attributeType? name

def infer (s : Scope) (e : Expr) : Compiled DataType :=
  Compiled.ofTyping (e.inferType s.resolve)

def declare (s : Scope) (name : String) (type : DataType) : Scope :=
  { s with names := s.names.insert name type }

def checkBoolean (s : Scope) (e : Expr) : Compiled Unit := do
  match ← s.infer e with
  | .boolean => return ()
  | .null => return ()
  | actual => throw (.refused (.type (.mismatch "filter" DataType.boolean.name actual)))

def firstDataset (s : Scope) : String :=
  s.datasets.head?.getD "data"

end Scope

def queryFilter (dataset : Dataset) (filters : List Expr) : Expr :=
  (Expr.andAll (dataset.filter :: filters)).simplifyAnd

-- A later apply of the same name takes the place of the earlier one.
def pushApply (apply : Apply) : List Apply → List Apply
  | [] => [apply]
  | a :: rest => if a.name == apply.name then apply :: rest else a :: pushApply apply rest

namespace Fold

def valueName : String := "__VALUE__"

def value (scope : Scope) (e : Expr) : Compiled FoldedQuery := do
  let _ ← scope.infer e
  let dataName := scope.firstDataset
  let (resolved,expanded) ← e.resolveAggregates (fun root => .ok (root,[]))
  let common := Expr.commonFilters [resolved]
  return {
    mode := .value
    dataName
    filter := queryFilter scope.dataset common
    applies := [{
      name := valueName
      expression := resolved.collapseAggregates dataName common
      expanded }]
    types := [(valueName,.number)] }

structure Alias where
  name : String
  root : String
  filters : List Expr

structure Totals where
  scope : Scope
  -- The latest first.
  aliases : List Alias := []
  applies : List Apply := []
  nested : List Nested := []
  dataName : Option String := none

def resolveAlias (aliases : List Alias) (name : String) : String × List Expr :=
  match aliases.find? (fun a => a.name == name) with
  | some found => (found.root,found.filters)
  | none => (name,[])

def totalsApply (t : Totals) (name : String) (e : Expr) : Compiled Totals := do
  match e.datasetChain? with
  | some (root,own) =>
      own.forM t.scope.checkBoolean
      let (root,filters) := resolveAlias t.aliases root
      return { t with
        dataName := some (t.dataName.getD root)
        aliases := { name,root,filters := filters ++ own } :: t.aliases }
  | none =>
      if e.hasSplit then
        match e.chainBase.refName? with
        | none => Compiled.unsupported ("nested '" ++ name ++ "' is not over a dataset")
        | some root =>
            let (root,filters) := resolveAlias t.aliases root
            return { t with
              scope := t.scope.declare name .dataset
              nested := t.nested
                ++ [{ name,expression := e.withChainBase (.filteredDataset root filters) }] }
      else
        let type ← t.scope.infer e
        let (resolved,expanded) ←
          e.resolveAggregates (fun root => .ok (resolveAlias t.aliases root))
        return { t with
          scope := t.scope.declare name type
          dataName := match t.dataName with
            | some known => some known
            | none => resolved.firstAggregateRoot?
          applies := pushApply { name,expression := resolved,expanded } t.applies }

def totalsStep (t : Totals) : Step → Compiled Totals
  | .apply name e => totalsApply t name e
  | other => Compiled.unsupported (other.opName ++ " on ply()")

def totals (scope : Scope) (steps : List Step) : Compiled FoldedQuery := do
  let t ← steps.foldlM totalsStep { scope }
  let dataName := t.dataName.getD t.scope.firstDataset
  let common := Expr.commonFilters (t.applies.map (·.expression))
  return {
    mode := .total
    dataName
    filter := queryFilter scope.dataset common
    applies := t.applies.map fun a =>
      { a with expression := a.expression.collapseAggregates dataName common }
    nested := t.nested
    types := t.scope.names }

structure Rows where
  scope : Scope
  filters : List Expr := []
  split : Option Split := none
  applies : List Apply := []
  nested : List Nested := []
  sort : Option SortBy := none
  limit : Option UInt64 := none
  having : Option Having := none

-- Filters before the split choose rows of the dataset, those after it rows of the split.
def rowsFilter (q : Rows) (condition : Expr) : Compiled Rows := do
  q.scope.checkBoolean condition
  if q.split.isSome then
    let afterLimit := q.limit.isSome
    let having : Having := match q.having with
      | none => { expression := condition,afterLimit }
      | some h =>
          { expression := .andAll [h.expression,condition],afterLimit := h.afterLimit || afterLimit }
    return { q with having := some having }
  else if q.sort.isSome || q.limit.isSome then
    Compiled.unsupported "filter after sort or limit"
  else return { q with filters := q.filters ++ [condition] }

-- Declares a key; the keys before it are in scope already.
def declareKey (scope : Scope) (key : String × Expr) : Compiled Scope := do
  if key.2.containsAggregate then
    Compiled.unsupported ("aggregate in split key '" ++ key.1 ++ "'")
  else
    let type ← scope.infer key.2
    return scope.declare key.1 type

def rowsSplit (q : Rows) (keys : List (String × Expr)) (dataName : String) : Compiled Rows := do
  if q.split.isSome then Compiled.unsupported "split of a split dataset"
  else if q.sort.isSome || q.limit.isSome then Compiled.unsupported "split after sort or limit"
  else if keys.isEmpty then Compiled.unsupported "split without keys"
  else
    let scope ← keys.foldlM declareKey q.scope
    return { q with
      scope := { scope with datasets := sortedNames (dataName :: scope.datasets) }
      split := some { keys,dataName } }

-- Inside a split aggregates are over its parts only.
def splitRoot (dataName root : String) : Compiled (String × List Expr) :=
  if root == dataName then .ok (dataName,[])
  else Compiled.unsupported ("aggregate over $" ++ root ++ " inside a split of $" ++ dataName)

def rowsApply (root : String) (q : Rows) (name : String) (e : Expr) : Compiled Rows := do
  match q.split with
  | none => Compiled.unsupported ("apply '" ++ name ++ "' on unsplit data")
  | some split =>
      if e.hasSplit then
        return { q with
          scope := q.scope.declare name .dataset
          nested := q.nested
            ++ [{ name,expression := e.withChainBase (.filteredDataset root q.filters) }] }
      else
        let type ← q.scope.infer e
        let (resolved,expanded) ← e.resolveAggregates (splitRoot split.dataName)
        return { q with
          scope := q.scope.declare name type
          applies := pushApply
            { name,expression := resolved.collapseAggregates split.dataName [],expanded }
            q.applies }

def rowsSort (q : Rows) (key : Expr) (direction : Direction) : Compiled Rows := do
  match key.refName? with
  | none => Compiled.unsupported "sort on a derived expression"
  | some name =>
      if (q.scope.resolve name).isNone then throw (.refused (.type (.unknownReference name)))
      else if q.limit.isSome then Compiled.unsupported "sort after limit"
      else return { q with sort := some { name,direction } }

def smallerLimit (limit : Option UInt64) (count : UInt64) : UInt64 :=
  match limit with
  | none => count
  | some other => min other count

def rowsStep (root : String) (q : Rows) : Step → Compiled Rows
  | .filter condition => rowsFilter q condition
  | .split keys dataName => rowsSplit q keys dataName
  | .apply name e => rowsApply root q name e
  | .sort key direction => rowsSort q key direction
  | .limit count => .ok { q with limit := some (smallerLimit q.limit count) }

def rows (scope : Scope) (root : String) (steps : List Step) : Compiled FoldedQuery := do
  let q ← steps.foldlM (rowsStep root) { scope }
  return {
    mode := if q.split.isSome then .split else .raw
    dataName := match q.split with
      | some split => split.dataName
      | none => root
    filter := queryFilter scope.dataset q.filters
    split := q.split
    applies := q.applies
    sort := q.sort
    limit := q.limit
    having := q.having
    nested := q.nested
    types := q.scope.names }

end Fold

def Expr.pattern? : Expr → Option String
  | .regexMatch _ pattern => some pattern
  | .extract _ pattern => some pattern
  | _ => none

def validatePatterns (e : Expr) : Compiled Unit :=
  match (e.nodes.filterMap Expr.pattern?).find? (fun pattern => !Regex.isWellFormed pattern) with
  | some pattern => .error (.refused (.invalidRegex pattern))
  | none => .ok ()

def fold (dataset : Dataset) (e : Expr) : Compiled FoldedQuery := do
  validatePatterns e
  let scope : Scope := { dataset,datasets := e.datasets }
  if !e.isDatasetOp then
    if e.containsAggregate then Fold.value scope e
    else Compiled.unsupported ("top level " ++ e.opName ++ " has nothing to query")
  else
    match e.chainBase with
    | .ply => Fold.totals scope e.chainSteps
    | .ref name => Fold.rows scope name e.chainSteps
    | other => Compiled.unsupported (other.opName ++ " as the base of a query")

end OlapQuery
