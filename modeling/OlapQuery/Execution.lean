import OlapQuery.Plan

-- Running the levels of a query against an engine. Levels run one after the other: the answer
-- to a level is complete before anything nested in its rows is asked. The first failure ends the
-- run, and no rows are returned then; so does a panic while a nested level is planned.

namespace OlapQuery

inductive ExecutionError where
  | query (reason : String)
  | compile (error : CompileError)
  | cancelled
  deriving DecidableEq, Repr

def ExecutionError.message (explain : String → String) : ExecutionError → String
  | .query reason => "query failed: " ++ reason
  | .compile error => error.message explain
  | .cancelled => "query chain cancelled"

-- What an engine does with one query: it refuses it, or sends rows, after which the answer may
-- break off or never end.
structure Answer where
  refusal : Option String := none
  rows : List Row := []
  breakOff : Option String := none
  neverEnds : Bool := false

-- The rows of a complete answer. One that never ends is waited for until the run is cancelled.
def Answer.collect (a : Answer) : Except ExecutionError (List Row) :=
  match a.refusal,a.breakOff with
  | some reason,_ => .error (.query reason)
  | none,some reason => .error (.query reason)
  | none,none => if a.neverEnds then .error .cancelled else .ok a.rows

structure Session where
  answers : List Answer
  issued : List NativeQuery := []

abbrev Run (α : Type) := ExceptT (Stop ExecutionError) (StateM Session) α

namespace Run

def ofExcept (result : Except (Stop ExecutionError) α) : Run α :=
  ExceptT.mk (pure result)

def ofCompiled (result : Compiled α) : Run α :=
  ofExcept (result.mapError (Stop.map .compile))

def request (query : NativeQuery) : Run (List Row) := do
  let session ← get
  let issued := session.issued ++ [query]
  match session.answers with
  | [] =>
      set ({ answers := [],issued } : Session)
      throw (.refused (.query "no answer"))
  | answer :: rest =>
      set ({ answers := rest,issued } : Session)
      ofExcept (answer.collect.mapError .refused)

def ownRows (level : Level) : Run (List Row) :=
  match level.query with
  | some query => do return level.post.apply (← request query)
  | none => return [[]]

def level (dataset : Dataset) : Nat → Level → Run (List Row)
  | 0,l => ownRows l
  | depth + 1,l => do
      let rows ← ownRows l
      rows.mapM fun row =>
        l.nested.foldlM (fun row nested => do
          let bound ← ofCompiled (l.bind dataset row nested)
          let below ← ofCompiled (planLevel dataset bound)
          let rowsBelow ← level dataset depth below
          return row.insert nested.name (.arr (rowsBelow.map .obj))) row

end Run

structure Outcome where
  issued : List NativeQuery
  result : Except (Stop ExecutionError) (List Row)

-- Plans the expression and runs it. A run that was cancelled before its start asks nothing.
def execute (dataset : Dataset) (e : Expr) (answers : List Answer) (cancelled : Bool) :
    Compiled Outcome := do
  let root ← planLevel dataset e
  if cancelled then return { issued := [],result := .error (.refused .cancelled) }
  else
    let (result,session) := (Run.level dataset e.nestingDepth root).run.run { answers }
    return { issued := session.issued,result }

end OlapQuery
