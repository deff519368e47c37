import OlapQuery.Fold.Measure
import OlapQuery.Fold.Query

-- The aggregates that an engine has to compute for a list of applies, and the arithmetic over
-- them. An apply that is one aggregate is named after the apply; aggregates inside other
-- applies get names of their own, and one that is there already is used again.

namespace OlapQuery

structure NamedAggregate where
  name : String
  expression : Expr
  synthetic : Bool

structure PostAggregate where
  name : String
  expression : Expr

structure AggregateSet where
  aggregates : List NamedAggregate := []
  postAggregates : List PostAggregate := []

-- Names that start with this mark were made up here.
def syntheticMark : Char := '!'

def isSynthetic (name : String) : Bool :=
  name.toList.head? == some syntheticMark

namespace AggregateSet

def syntheticName (n : Nat) : String :=
  String.ofList [syntheticMark] ++ "T_" ++ toString n

def nameFor (named : List NamedAggregate) (e : Expr) : StateM (List NamedAggregate) Expr := do
  let synthetic ← get
  match (named ++ synthetic).find? (fun a => a.expression.same e) with
  | some known => return .ref known.name
  | none =>
      let name := syntheticName synthetic.length
      set (synthetic ++ [{ name,expression := e,synthetic := true }])
      return .ref name

-- References to earlier derived applies give way to their arithmetic.
def inlinePosts (posts : List PostAggregate) (e : Expr) : Expr :=
  posts.foldl (fun e post => Expr.substitute post.name post.expression e) e

def derive (named : List NamedAggregate) (posts : List PostAggregate) (apply : Apply) :
    StateM (List NamedAggregate) (List PostAggregate) := do
  let expression ← (inlinePosts posts apply.expression).mapAggregatesM (nameFor named)
  return posts ++ [{ name := apply.name,expression }]

-- Plain aggregates in order; then the derived applies, those that folding rewrote first; made-up
-- aggregates at the end.
def collect (applies : List Apply) : AggregateSet :=
  let (plain,derived) := applies.partition (fun a => a.expression.isAggregate)
  let (expanded,others) := derived.partition (fun a => a.expanded)
  let named := plain.map fun a =>
    { name := a.name,expression := a.expression,synthetic := false : NamedAggregate }
  let (posts,synthetic) := Id.run ((expanded ++ others).foldlM (derive named) [] |>.run [])
  { aggregates := named ++ synthetic,postAggregates := posts }

def aggregate? (s : AggregateSet) (name : String) : Option NamedAggregate :=
  s.aggregates.find? (fun a => a.name == name)

def isEmpty (s : AggregateSet) : Bool :=
  s.aggregates.isEmpty && s.postAggregates.isEmpty

def outputNames (s : AggregateSet) : List String :=
  (s.aggregates.filter (fun a => !a.synthetic)).map (·.name) ++ s.postAggregates.map (·.name)

end AggregateSet

end OlapQuery
