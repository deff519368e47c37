import OlapQuery.Proofs.Chain

-- The names that totals give to filtered datasets. Folding looks a name up when it is given and
-- keeps what it stands for; here a name is looked up where it is used, through the steps before.
-- Both find the same dataset under the same filters.

namespace OlapQuery

open Fold (Alias Totals TotalsTaken resolveAlias templateOver totalsStep totalsStep_taken)

namespace Step

def alias? : Step → Option Alias
  | .apply name e => e.datasetChain?.map fun (root,filters) => { name,root,filters }
  | _ => none

-- What a name stands for after the steps, of which the latest is first.
def inForce : List Step → String → String × List Expr
  | [],name => (name,[])
  | step :: earlier,name =>
      match step.alias? with
      | some given =>
          if given.name == name then
            let (origin,filters) := inForce earlier given.root
            (origin,filters ++ given.filters)
          else inForce earlier name
      | none => inForce earlier name

-- A nested split, with what its dataset stands for after the steps.
def nestedAfter? (earlier : List Step) (step : Step) : Option ((String × List Expr) × Nested) := do
  let nested ← step.nested?
  let root ← nested.expression.chainBase.refName?
  return (inForce earlier root,nested)

def nestedInForce (earlier : List Step) : List Step → List ((String × List Expr) × Nested)
  | [] => []
  | step :: rest => (nestedAfter? earlier step).toList ++ nestedInForce (step :: earlier) rest

theorem nestedInForce_append (earlier taken : List Step) (step : Step) :
    nestedInForce earlier (taken ++ [step])
      = nestedInForce earlier taken ++ (nestedAfter? (taken.reverse ++ earlier) step).toList := by
  induction taken generalizing earlier with
  | nil => simp [nestedInForce]
  | cons first rest ih => simp [nestedInForce,ih]

theorem inForce_unnamed {step : Step} (unnamed : step.alias? = none) (earlier : List Step)
    (name : String) : inForce (step :: earlier) name = inForce earlier name := by
  simp [inForce,unnamed]

end Step

open Step

theorem Expr.datasetChain_flat {e : Expr} {chain : String × List Expr}
    (found : e.datasetChain? = some chain) : e.hasSplit = false := by
  induction e using chain_induction generalizing chain with
  | base e isBase => simp [hasSplit,isBase.steps]
  | step s e ih =>
      cases s with
      | filter condition =>
          obtain ⟨inner,found,-⟩ := Option.map_eq_some_iff.mp found
          have flat := ih found
          simpa [hasSplit,Step.isSplit] using flat
      | _ => cases found

theorem Expr.single_steps {e : Expr} (single : e.isDatasetOp = false) : e.chainSteps = [] := by
  refine (isBase_of_last ?_).steps
  unfold isDatasetOp at single
  split at single
  · cases single
  · simpa using single

namespace Fold

theorem resolveAlias_cons (a : Alias) (aliases : List Alias) (name : String) :
    resolveAlias (a :: aliases) name
      = if a.name == name then (a.root,a.filters) else resolveAlias aliases name := by
  unfold resolveAlias
  cases same : a.name == name <;> simp [same]

-- What the state owes to the steps taken.
structure TotalsReached (taken : List Step) (t : Totals) : Prop where
  unsplit : Unsplit taken
  names : ∀ name, resolveAlias t.aliases name = inForce taken.reverse name
  nested : t.nested
    = (nestedInForce [] taken).map fun (source,n) => templateOver source.1 source.2 n

theorem totalsReached_start (scope : Scope) : TotalsReached [] { scope } :=
  ⟨by simp [Unsplit],fun _ => rfl,rfl⟩

theorem totalsReached_step {taken : List Step} {t next : Totals} {step : Step}
    (reached : TotalsReached taken t) (ran : TotalsTaken t step next) :
    TotalsReached (taken ++ [step]) next := by
  have unsplit : Unsplit (taken ++ [step]) := by
    refine unsplit_append.mpr ⟨reached.unsplit,?_⟩
    cases ran <;> simp [Unsplit,Step.isSplit]
  cases ran with
  | @aliased root own origin filters name e chain checked resolves =>
      have named : (Step.apply name e).alias? = some { name,root,filters := own } := by
        simp [alias?,chain]
      refine ⟨unsplit,?_,?_⟩
      · intro asked
        have stands := (reached.names root).symm.trans resolves
        simp only [List.reverse_append,List.reverse_singleton,List.singleton_append,inForce,named]
        rw [resolveAlias_cons,stands,reached.names]
      · have flat : (Step.apply name e).nested? = none := by
          simp [nested?,Expr.datasetChain_flat chain]
        rw [nestedInForce_append]
        simpa [nestedAfter?,flat] using reached.nested
  | @nested root origin filters name e unchained inner based resolves =>
      have unnamed : (Step.apply name e).alias? = none := by simp [alias?,unchained]
      refine ⟨unsplit,?_,?_⟩
      · intro asked
        simpa [inForce_unnamed unnamed] using reached.names asked
      · have stands := (reached.names root).symm.trans resolves
        rw [nestedInForce_append,reached.nested]
        simp [nestedAfter?,nested?,inner,based,stands,templateOver]
  | @applied e type resolved expanded name unchained flat typed resolves =>
      have unnamed : (Step.apply name e).alias? = none := by simp [alias?,unchained]
      refine ⟨unsplit,?_,?_⟩
      · intro asked
        simpa [inForce_unnamed unnamed] using reached.names asked
      · rw [nestedInForce_append]
        simpa [nestedAfter?,nested?,flat] using reached.nested

theorem totals_reached {scope : Scope} {steps : List Step} {t : Totals}
    (ran : steps.foldlM totalsStep { scope } = .ok t) : TotalsReached steps t :=
  Compiled.run_keeps TotalsReached
    (fun _ _ _ _ reached step => totalsReached_step reached (totalsStep_taken step))
    (totalsReached_start scope) ran

end Fold

theorem fold_once {dataset : Dataset} {e : Expr} {folded : FoldedQuery}
    (ran : fold dataset e = .ok folded) : e.chainSteps.countP Step.isSplit ≤ 1 := by
  rcases fold_cases ran with ⟨single,-⟩ | ⟨-,-,totals⟩ | ⟨-,root,-,rows⟩
  · rw [Expr.single_steps single]; simp
  · obtain ⟨t,run,-⟩ := Fold.totals_parts totals
    rw [unsplit_count.mpr (Fold.totals_reached run).unsplit]
    exact Nat.zero_le 1
  · obtain ⟨q,run,-⟩ := Fold.rows_parts rows
    exact (Fold.rows_reached run).once

end OlapQuery
