import OlapQuery.Expr.Basic

-- Conjunctions: building them flat, and dropping clauses that others make superfluous.

namespace OlapQuery.Expr

-- The clauses of an expression seen as a conjunction, nested conjunctions opened and literal
-- truths left out; none when a literal falsehood is met.
mutual
def conjuncts? : Expr → Option (List Expr)
  | .junction .and es => conjunctsAll? es
  | e => if e.isTrue then some [] else if e.isFalse then none else some [e]

def conjunctsAll? : List Expr → Option (List Expr)
  | [] => some []
  | e :: rest => do
      let first ← conjuncts? e
      let others ← conjunctsAll? rest
      some (first ++ others)
end

def andAll (es : List Expr) : Expr :=
  match conjunctsAll? es with
  | none => .bool false
  | some [] => .bool true
  | some [e] => e
  | some clauses => .and clauses

def isMembershipOf (target : Expr) : Expr → Bool
  | .member e (.literal (.set _ _)) => e.same target
  | _ => false

def isEqualityOf (target : Expr) : Expr → Bool
  | .is e (.literal _) => e.same target
  | _ => false

def replaceFirst (test : Expr → Bool) (clause : Expr) : List Expr → Option (List Expr)
  | [] => none
  | e :: rest =>
      if test e then some (clause :: rest)
      else (replaceFirst test clause rest).map (e :: ·)

-- Adds a clause to simplified ones. A clause that is there already is dropped, as is a
-- membership of something already known to equal a literal; an equality with a literal takes
-- the place of a membership of the same operand.
def addClause (clauses : List Expr) (clause : Expr) : List Expr :=
  if clauses.any (fun c => c.same clause) then clauses
  else
    match clause with
    | .is e (.literal v) =>
        (replaceFirst (isMembershipOf e) (.is e (.literal v)) clauses).getD (clauses ++ [clause])
    | .member e _ =>
        if clauses.any (isEqualityOf e) then clauses else clauses ++ [clause]
    | _ => clauses ++ [clause]

def simplifyAnd (e : Expr) : Expr :=
  match andAll [e] with
  | .and clauses => andAll (clauses.foldl addClause [])
  | other => other

end OlapQuery.Expr
