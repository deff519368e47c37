import Mathlib.Algebra.GroupWithZero.Nat
import OlapQuery.Proofs.ClosedQueries
import OlapQuery.Proofs.Nesting

-- How deep splits are nested, and how many there are. A split that is bound to a row has more
-- filters than were written, and is the same chain otherwise: the levels below it are those that
-- were written below it. So every step down leaves one level less, and nothing is asked twice.

namespace OlapQuery

open Compiled Step Binding
open Fold (templateOver totalsStep)

def Step.isFilter : Step → Bool
  | .filter _ => true
  | _ => false

namespace Expr

def unfiltered (e : Expr) : List Step :=
  e.chainSteps.filter fun step => !step.isFilter

theorem unfiltered_after (s : Step) (e : Expr) :
    (s.after e).unfiltered = e.unfiltered ++ [s].filter fun step => !step.isFilter := by
  simp [unfiltered]

theorem unfiltered_narrow (p e : Expr) : (narrow p e).unfiltered = e.unfiltered := by
  induction e using chain_induction with
  | base e isBase => simp [isBase.narrowed,unfiltered,chainSteps,isBase.steps,isFilter]
  | step s e ih =>
      cases split : s.isSplit with
      | true =>
          rw [narrow_after_split split,unfiltered_after,unfiltered_after]
          simp [unfiltered,chainSteps,isFilter]
      | false => rw [narrow_after split,unfiltered_after,unfiltered_after,ih]

theorem unfiltered_filteredDataset (root : String) (filters : List Expr) :
    (filteredDataset root filters).unfiltered = [] := by
  unfold filteredDataset
  dsimp only
  split <;> rfl

theorem filterMap_unfiltered {f : Step → Option β} (none : ∀ condition, f (.filter condition) = none)
    (e : Expr) : e.unfiltered.filterMap f = e.chainSteps.filterMap f := by
  rw [unfiltered,List.filterMap_filter]
  refine List.filterMap_congr fun step _ => ?_
  cases step with
  | filter condition => simp [isFilter,none]
  | _ => rfl

-- How many splits lie below a chain: those in its applies, and those below them.
def nestedSplits : Expr → Nat
  | .binary (.apply _) e x =>
      nestedSplits e + (if x.hasSplit then nestedSplits x + 1 else 0)
  | .binary .filter e _ => nestedSplits e
  | .binary (.sort _) e _ => nestedSplits e
  | .unary (.limit _) e => nestedSplits e
  | .split e _ _ => nestedSplits e
  | _ => 0

theorem IsBase.flat {e : Expr} (isBase : e.IsBase) : e.nestingDepth = 0 ∧ e.nestedSplits = 0 := by
  have steps := isBase.steps
  cases e with
  | unary op e => cases op <;> first | exact ⟨rfl,rfl⟩ | simp [chainSteps] at steps
  | binary op e x => cases op <;> first | exact ⟨rfl,rfl⟩ | simp [chainSteps] at steps
  | split e keys dataName => simp [chainSteps] at steps
  | _ => exact ⟨rfl,rfl⟩

-- Both are measures of what is nested, and so of the chain without its filters.
theorem nestingDepth_nested (e : Expr) :
    e.nestingDepth = ((e.chainSteps.filterMap nested?).map (·.expression.nestingDepth + 1)).foldl
      Nat.max 0 := by
  induction e using chain_induction with
  | base e isBase => rw [isBase.flat.1,isBase.steps]; rfl
  | step s e ih =>
      rw [chainSteps_after,List.filterMap_append,List.map_append,List.foldl_append,← ih]
      cases s with
      | apply name x => cases inner : x.hasSplit <;> simp [Step.after,nestingDepth,nested?,inner]
      | _ => rfl

theorem nestedSplits_nested (e : Expr) :
    e.nestedSplits = ((e.chainSteps.filterMap nested?).map (·.expression.nestedSplits + 1)).sum := by
  induction e using chain_induction with
  | base e isBase => rw [isBase.flat.2,isBase.steps]; rfl
  | step s e ih =>
      rw [chainSteps_after,List.filterMap_append,List.map_append,List.sum_append,← ih]
      cases s with
      | apply name x => cases inner : x.hasSplit <;> simp [Step.after,nestedSplits,nested?,inner]
      | _ => rfl

theorem nested_shallower {e : Expr} {n : Nested} (member : n ∈ e.chainSteps.filterMap nested?) :
    n.expression.nestingDepth < e.nestingDepth := by
  induction e using chain_induction with
  | base e isBase => rw [isBase.steps] at member; cases member
  | step s e ih =>
      rw [chainSteps_after,List.filterMap_append] at member
      cases s with
      | apply name x =>
          simp only [Step.after,nestingDepth]
          rcases List.mem_append.mp member with early | last
          · exact Nat.lt_of_lt_of_le (ih early) (Nat.le_max_left _ _)
          · obtain ⟨inner,rfl⟩ : x.hasSplit = true ∧ ⟨name,x⟩ = n := by simpa [nested?] using last
            rw [if_pos inner]
            exact Nat.le_max_right _ _
      | _ => exact ih (by simpa [nested?] using member)

-- Totals of which every apply is a name for a dataset or a nested split.
def asksNothing (e : Expr) : Bool :=
  match e.chainBase with
  | .ply => e.chainSteps.all fun step => step.total?.isNone
  | _ => false

end Expr

-- A level as it is run, beside the split it was written as.
structure Lowered (written run : Expr) : Prop where
  steps : run.unfiltered = written.unfiltered
  base : ∃ root, run.chainBase = .ref root

namespace Lowered
open OlapQuery.Expr

variable {written run : Expr}

theorem nested (lowered : Lowered written run) :
    run.chainSteps.filterMap nested? = written.chainSteps.filterMap nested? := by
  rw [← filterMap_unfiltered (fun _ => rfl),lowered.steps,filterMap_unfiltered fun _ => rfl]

theorem depth (lowered : Lowered written run) : run.nestingDepth = written.nestingDepth := by
  rw [nestingDepth_nested,lowered.nested,← nestingDepth_nested]

theorem splits (lowered : Lowered written run) : run.nestedSplits = written.nestedSplits := by
  rw [nestedSplits_nested,lowered.nested,← nestedSplits_nested]

theorem keys (lowered : Lowered written run) :
    splitKeys run.chainSteps = splitKeys written.chainSteps := by
  have found : run.chainSteps.findSome? split? = written.chainSteps.findSome? split? := by
    rw [← List.head?_filterMap,← List.head?_filterMap,← filterMap_unfiltered (fun _ => rfl),
      lowered.steps,filterMap_unfiltered fun _ => rfl]
  rw [splitKeys,splitKeys,found]

theorem template (root : String) (filters : List Expr) (n : Nested) :
    Lowered n.expression (templateOver root filters n).expression := by
  refine ⟨?_,root,?_⟩
  · have none := unfiltered_filteredDataset root filters
    rw [unfiltered] at none
    rw [templateOver,unfiltered,chainSteps_withChainBase,List.filter_append,none]
    rfl
  · rw [templateOver,chainBase_withChainBase,filteredDataset_base]

theorem bound {dataset : Dataset} {keys : List (String × Expr)} {row : Row} {next : Expr}
    (lowered : Lowered written run) (binds : Binding.bind dataset run keys row = .ok next) :
    Lowered written next := by
  obtain ⟨predicates,-,⟨-,rfl⟩ | rfl⟩ := bind_parts binds
  · exact lowered
  · exact ⟨(unfiltered_narrow _ _).trans lowered.steps,by rw [chainBase_narrow]; exact lowered.base⟩

theorem asks (lowered : Lowered written run) : run.asksNothing = false := by
  obtain ⟨root,base⟩ := lowered.base
  rw [asksNothing,base]

end Lowered

-- A split nested in a query that was folded is a template of one that was written.
structure Template (written nested : Nested) : Prop where
  name : nested.name = written.name
  lowered : Lowered written.expression nested.expression

theorem Step.nestedInForce_sublist (earlier steps : List Step) :
    ((nestedInForce earlier steps).map (·.2)).Sublist (steps.filterMap nested?) := by
  induction steps generalizing earlier with
  | nil => exact .slnil
  | cons step rest ih =>
      rw [nestedInForce,List.map_append,List.filterMap_cons]
      have later := ih (step :: earlier)
      cases found : step.nested? with
      | none => simpa [nestedAfter?,found] using later
      | some n =>
          cases based : n.expression.chainBase.refName? with
          | none => simpa [nestedAfter?,found,based] using later.cons n
          | some root => simpa [nestedAfter?,found,based] using later.cons_cons n

theorem Fold.totals_templates {scope : Scope} {steps : List Step} {t : Fold.Totals}
    (ran : steps.foldlM totalsStep { scope } = .ok t) :
    List.Forall₂ Template (steps.filterMap nested?) t.nested := by
  have named := (totals_reached ran).nested
  have all : (nestedInForce [] steps).map (·.2) = steps.filterMap nested? := by
    refine (nestedInForce_sublist [] steps).eq_of_length ?_
    rw [(totals_nested ran).length_eq,named,List.length_map,List.length_map]
  rw [named,← all,List.forall₂_map_left_iff,List.forall₂_map_right_iff]
  exact List.forall₂_same.mpr fun n _ => ⟨rfl,.template _ _ _⟩

theorem fold_templates {dataset : Dataset} {e : Expr} {folded : FoldedQuery}
    (ran : fold dataset e = .ok folded) :
    List.Forall₂ Template (e.chainSteps.filterMap nested?) folded.nested := by
  rcases fold_cases ran with ⟨single,value⟩ | ⟨-,-,totals⟩ | ⟨chain,root,base,-⟩
  · obtain ⟨_,_,-,rfl⟩ := Fold.value_parts value
    rw [Expr.single_steps single]; exact .nil
  · obtain ⟨t,run,rfl⟩ := Fold.totals_parts totals
    exact Fold.totals_templates run
  · rw [(fold_over ran chain base).2.2.2,List.forall₂_map_right_iff]
    exact List.forall₂_same.mpr fun n _ => ⟨rfl,.template _ _ _⟩

theorem bound_lowered {dataset : Dataset} {e bound : Expr} {folded : FoldedQuery} {nested : Nested}
    {keys : List (String × Expr)} {row : Row} (ran : fold dataset e = .ok folded)
    (member : nested ∈ folded.nested)
    (binds : Binding.bind dataset nested.expression keys row = .ok bound) :
    ∃ n ∈ e.chainSteps.filterMap nested?, nested.name = n.name ∧ Lowered n.expression bound := by
  obtain ⟨n,listed,template⟩ := Expr.related_source (fold_templates ran) member
  exact ⟨n,listed,template.name,template.lowered.bound binds⟩

theorem bound_shallower {dataset : Dataset} {e bound : Expr} {folded : FoldedQuery} {nested : Nested}
    {keys : List (String × Expr)} {row : Row} (ran : fold dataset e = .ok folded)
    (member : nested ∈ folded.nested)
    (binds : Binding.bind dataset nested.expression keys row = .ok bound) :
    bound.nestingDepth < e.nestingDepth := by
  obtain ⟨n,listed,-,lowered⟩ := bound_lowered ran member binds
  rw [lowered.depth]
  exact Expr.nested_shallower listed

theorem Level.bind_shallower {dataset : Dataset} {e bound : Expr} {level : Level} {nested : Nested}
    {row : Row} (plans : planLevel dataset e = .ok level) (member : nested ∈ level.nested)
    (binds : level.bind dataset row nested = .ok bound) : bound.nestingDepth < e.nestingDepth := by
  obtain ⟨folded,folds,same⟩ := planLevel_parts plans
  exact bound_shallower folds (same ▸ member) binds

theorem planLevel_flat {dataset : Dataset} {e : Expr} {level : Level}
    (plans : planLevel dataset e = .ok level) (flat : e.nestingDepth = 0) : level.nested = [] := by
  obtain ⟨folded,folds,same⟩ := planLevel_parts plans
  have each := fold_templates folds
  rw [Expr.nestingDepth_flat flat,List.forall₂_nil_left_iff] at each
  rw [same,each]

theorem Compiled.bind_known {x : Compiled α} {f g : α → Compiled β}
    (same : ∀ a, x = .ok a → f a = g a) : (x >>= f) = x >>= g := by
  cases x with
  | error error => rfl
  | ok a => exact same a rfl

theorem Run.bind_known {x : Compiled α} {f g : α → Run β} (same : ∀ a, x = .ok a → f a = g a) :
    (Run.ofCompiled x >>= f) = Run.ofCompiled x >>= g := by
  cases x with
  | error error => rfl
  | ok a => exact same a rfl

theorem foldlM_each {m : Type → Type} [Monad m] {f g : σ → α → m σ} {as : List α}
    (same : ∀ a ∈ as, ∀ s, f s a = g s a) (s : σ) : as.foldlM f s = as.foldlM g s := by
  induction as generalizing s with
  | nil => rfl
  | cons a rest ih =>
      rw [List.forall_mem_cons] at same
      rw [List.foldlM_cons,List.foldlM_cons,same.1 s]
      exact congrArg (g s a >>= ·) (funext fun next => ih same.2 next)

section Levels

variable {dataset : Dataset} {e : Expr} {depth : Nat}

-- More depth than there are levels makes no difference.
theorem queriesWithin_enough (enough : e.nestingDepth ≤ depth) :
    queriesWithin dataset (depth + 1) e = queriesWithin dataset depth e := by
  induction depth generalizing e with
  | zero =>
      refine Compiled.bind_known fun level plans => ?_
      rw [planLevel_flat plans (Nat.le_zero.mp enough)]
      rfl
  | succ depth ih =>
      refine Compiled.bind_known fun level plans => if_congr Iff.rfl rfl ?_
      refine Compiled.bind_known fun row _ => congrArg (· >>= _) (mapM_each fun nested member => ?_)
      refine Compiled.bind_known fun bound binds => ih ?_
      have shallower := Level.bind_shallower plans member binds
      omega

theorem queriesWithin_compile (enough : e.nestingDepth ≤ depth) :
    queriesWithin dataset depth e = compile dataset e := by
  induction enough with
  | refl => rfl
  | step enough ih => rw [queriesWithin_enough enough,ih]

theorem compile_levels (dataset : Dataset) (e : Expr) : compile dataset e = do
    let level ← planLevel dataset e
    if level.nested.isEmpty then return level.query.toList
    else
      let row ← simulatedRow dataset level.splitKeys
      let below ← level.nested.mapM fun nested => do
        compile dataset (← level.bind dataset row nested)
      return level.query.toList ++ below.flatten := by
  rw [← queriesWithin_compile (Nat.le_succ e.nestingDepth)]
  refine Compiled.bind_known fun level plans => if_congr Iff.rfl rfl ?_
  refine Compiled.bind_known fun row _ => congrArg (· >>= _) (mapM_each fun nested member => ?_)
  refine Compiled.bind_known fun bound binds => queriesWithin_compile ?_
  have shallower := Level.bind_shallower plans member binds
  omega

theorem level_enough {l : Level} (plans : planLevel dataset e = .ok l)
    (enough : e.nestingDepth ≤ depth) :
    Run.level dataset (depth + 1) l = Run.level dataset depth l := by
  induction depth generalizing e l with
  | zero =>
      have plain (rows : List Row) : rows.mapM (pure : Row → Run Row) = pure rows := by
        simpa using List.mapM_pure (m := Run) (f := id) (l := rows)
      rw [Run.level,Run.level,planLevel_flat plans (Nat.le_zero.mp enough)]
      exact (bind_congr plain).trans (bind_pure _)
  | succ depth ih =>
      refine bind_congr fun rows => mapM_each fun row _ => foldlM_each (fun nested member row => ?_) row
      refine Run.bind_known fun bound binds => Run.bind_known fun below plansBelow => ?_
      have shallower := Level.bind_shallower plans member binds
      rw [ih plansBelow (by omega)]

theorem level_whole {l : Level} (plans : planLevel dataset e = .ok l)
    (enough : e.nestingDepth ≤ depth) :
    Run.level dataset depth l = Run.level dataset e.nestingDepth l := by
  induction enough with
  | refl => rfl
  | step enough ih => rw [level_enough plans enough,ih]

def Run.whole (dataset : Dataset) (e : Expr) : Run (List Row) := do
  Run.level dataset e.nestingDepth (← ofCompiled (planLevel dataset e))

theorem whole_levels (dataset : Dataset) (e : Expr) : Run.whole dataset e = (do
    let l ← Run.ofCompiled (planLevel dataset e)
    let rows ← Run.ownRows l
    rows.mapM fun row =>
      l.nested.foldlM (fun row nested => do
        let rowsBelow ← Run.whole dataset (← Run.ofCompiled (l.bind dataset row nested))
        return row.insert nested.name (.arr (rowsBelow.map .obj))) row) := by
  refine Run.bind_known fun l plans => ?_
  rw [← level_whole plans (Nat.le_succ e.nestingDepth),Run.level]
  refine bind_congr fun rows => mapM_each fun row _ => foldlM_each (fun nested member row => ?_) row
  refine Run.bind_known fun bound binds => ?_
  rw [Run.whole,bind_assoc]
  refine Run.bind_known fun below plansBelow => ?_
  have shallower := Level.bind_shallower plans member binds
  rw [level_whole plansBelow (by omega)]

theorem execute_whole (dataset : Dataset) (e : Expr) (answers : List Answer) :
    execute dataset e answers false = (planLevel dataset e).map fun _ =>
      let (result,session) := (Run.whole dataset e).run.run { answers }
      { issued := session.issued,result } := by
  unfold execute Run.whole
  cases planLevel dataset e with
  | error error => rfl
  | ok root => rfl

end Levels

theorem Expr.single_base {e : Expr} (single : e.isDatasetOp = false) : e.chainBase ≠ .ply := by
  intro base
  cases e with
  | unary op e => cases op <;> first | cases base | cases single
  | binary op e x => cases op <;> first | cases base | cases single
  | split e keys dataName => cases single
  | ply => cases single
  | _ => cases base

theorem Step.written_none (value? : Step → Option (String × Expr)) (earlier steps : List Step) :
    written value? earlier steps = [] ↔ ∀ step ∈ steps, value? step = none := by
  induction steps generalizing earlier with
  | nil => simp [written]
  | cons step rest ih => simp [written,ih]

theorem settle_none {definitions : List Apply} : settle definitions = [] ↔ definitions = [] := by
  have names := settle_names definitions
  cases definitions with
  | nil => simp [settle]
  | cons a rest =>
      refine ⟨fun none => ?_,fun none => by cases none⟩
      rw [none,List.map_cons,List.eraseDups_cons] at names
      cases names

theorem fold_asks {dataset : Dataset} {e : Expr} {folded : FoldedQuery}
    (ran : fold dataset e = .ok folded) : folded.asks = !e.asksNothing := by
  rcases fold_cases ran with ⟨single,value⟩ | ⟨-,base,totals⟩ | ⟨-,root,base,rows⟩
  · obtain ⟨_,_,-,rfl⟩ := Fold.value_parts value
    have based := Expr.single_base single
    unfold Expr.asksNothing
    split
    · contradiction
    · rfl
  · obtain ⟨t,run,rfl⟩ := Fold.totals_parts totals
    obtain ⟨definitions,settled,each⟩ := Fold.totals_defined run
    have none : t.applies = [] ↔ ∀ step ∈ e.chainSteps, step.total? = none := by
      rw [← written_none total? [],settled,settle_none]
      constructor
      · rintro rfl; exact List.forall₂_nil_right_iff.mp each
      · intro none; rw [none] at each; exact List.forall₂_nil_left_iff.mp each
    rw [Expr.asksNothing,base]
    change (!(List.map _ t.applies).isEmpty) = _
    refine congrArg not (Bool.eq_iff_iff.mpr ?_)
    rw [List.isEmpty_iff,List.map_eq_nil_iff,none,List.all_eq_true]
    simp only [Option.isNone_iff_eq_none]
  · obtain ⟨q,run,rfl⟩ := Fold.rows_parts rows
    rw [Expr.asksNothing,base]
    cases q.split <;> rfl

theorem planLevel_shape {dataset : Dataset} {e : Expr} {level : Level}
    (ran : planLevel dataset e = .ok level) :
    ∃ folded, fold dataset e = .ok folded ∧ level.nested = folded.nested ∧
      level.splitKeys = folded.splitKeys ∧ level.query.isSome = folded.asks := by
  obtain ⟨folded,folds,rest⟩ := bind_ok.mp ran
  refine ⟨folded,folds,?_⟩
  dsimp only at rest
  split at rest
  · rename_i asks
    obtain ⟨_,_,rest⟩ := bind_ok.mp rest
    cases pure_ok.mp rest
    exact ⟨rfl,rfl,asks.symm⟩
  · rename_i none
    cases pure_ok.mp rest
    exact ⟨rfl,rfl,by simpa using none⟩

theorem maps_equal {f : α → γ} {g : β → γ} {as : List α} {bs : List β}
    (each : List.Forall₂ (fun a b => f a = g b) as bs) : as.map f = bs.map g := by
  rw [← List.forall₂_eq_eq_eq,List.forall₂_map_left_iff,List.forall₂_map_right_iff]
  exact each

theorem compile_count {dataset : Dataset} {e : Expr} {queries : List NativeQuery}
    (compiled : compile dataset e = .ok queries) :
    queries.length = e.nestedSplits + if e.asksNothing then 0 else 1 := by
  induction deep : e.nestingDepth using Nat.strongRecOn generalizing e queries with
  | ind depth ih =>
      subst deep
      rw [compile_levels] at compiled
      obtain ⟨level,plans,rest⟩ := bind_ok.mp compiled
      obtain ⟨folded,folds,nested,-,asks⟩ := planLevel_shape plans
      have each := fold_templates folds
      rw [← nested] at each
      have own : level.query.toList.length = if e.asksNothing then 0 else 1 := by
        rw [fold_asks folds] at asks
        cases query : level.query <;> simp_all
      rw [e.nestedSplits_nested]
      split at rest
      · rename_i none
        cases pure_ok.mp rest
        rw [List.isEmpty_iff.mp none,List.forall₂_nil_right_iff] at each
        rw [own,each]; simp
      · obtain ⟨row,-,rest⟩ := bind_ok.mp rest
        obtain ⟨below,lists,rest⟩ := bind_ok.mp rest
        cases pure_ok.mp rest
        have counts : List.Forall₂ (fun n qs => n.expression.nestedSplits + 1 = qs.length)
            level.nested below := by
          refine Expr.forall_related (mapM_ok lists) fun n member qs listed => ?_
          obtain ⟨bound,binds,listed⟩ := bind_ok.mp listed
          obtain ⟨w,-,template⟩ := Expr.related_source each member
          have lowered : Lowered n.expression bound :=
            Lowered.bound ⟨rfl,template.lowered.base⟩ binds
          rw [ih _ (Level.bind_shallower plans member binds) listed rfl,lowered.asks,lowered.splits]
          rfl
        have same : List.Forall₂ (fun w n => w.expression.nestedSplits + 1
            = n.expression.nestedSplits + 1) (e.chainSteps.filterMap nested?) level.nested :=
          each.imp fun w n template => by rw [template.lowered.splits]
        rw [List.length_append,own,List.length_flatten,maps_equal same,maps_equal counts,
          Nat.add_comm]

-- Every level below lies less deep, however its filters have grown, so that the queries of an
-- expression and its run come down to those of the levels below it; and no query is missing or
-- made twice.
theorem nested_levels_end (dataset : Dataset) (e : Expr) :
    (∀ folded, fold dataset e = .ok folded → ∀ nested ∈ folded.nested, ∀ keys row bound,
      Binding.bind dataset nested.expression keys row = .ok bound →
        bound.nestingDepth < e.nestingDepth) ∧
    (compile dataset e = do
      let level ← planLevel dataset e
      if level.nested.isEmpty then return level.query.toList
      else
        let row ← simulatedRow dataset level.splitKeys
        let below ← level.nested.mapM fun nested => do
          compile dataset (← level.bind dataset row nested)
        return level.query.toList ++ below.flatten) ∧
    (Run.whole dataset e = do
      let level ← Run.ofCompiled (planLevel dataset e)
      let rows ← Run.ownRows level
      rows.mapM fun row =>
        level.nested.foldlM (fun row nested => do
          let rowsBelow ← Run.whole dataset (← Run.ofCompiled (level.bind dataset row nested))
          return row.insert nested.name (.arr (rowsBelow.map .obj))) row) ∧
    (∀ answers, execute dataset e answers false = (planLevel dataset e).map fun _ =>
      let (result,session) := (Run.whole dataset e).run.run { answers }
      { issued := session.issued,result }) ∧
    ∀ queries, compile dataset e = .ok queries →
      queries.length = e.nestedSplits + if e.asksNothing then 0 else 1 :=
  ⟨fun _ ran _ member _ _ _ binds => bound_shallower ran member binds,compile_levels dataset e,
    whole_levels dataset e,execute_whole dataset e,fun _ compiled => compile_count compiled⟩

namespace Visits

def oslo : Row :=
  [("City",.str "Oslo")]

-- The users of one city, out of all visits of one country.
theorem users_of_oslo_lower :
    ∃ folded nested bound queries, fold visits byCity = .ok folded ∧ nested ∈ folded.nested ∧
      Binding.bind visits nested.expression folded.splitKeys oslo = .ok bound ∧
      bound.nestingDepth < byCity.nestingDepth ∧
      compile visits report = .ok queries ∧ queries.length = 2 := by
  obtain ⟨folded,nested,bound,folds,member,binds⟩ : ∃ folded nested bound,
      fold visits byCity = .ok folded ∧ nested ∈ folded.nested ∧
        Binding.bind visits nested.expression folded.splitKeys oslo = .ok bound :=
    ⟨_,_,_,rfl,List.mem_singleton_self _,rfl⟩
  have compiles : (compile visits report).toOption.isSome = true := by decide +kernel
  obtain ⟨queries,compiled⟩ : ∃ queries, compile visits report = .ok queries := by
    cases compiled : compile visits report with
    | ok queries => exact ⟨queries,rfl⟩
    | error e => rw [compiled] at compiles; cases compiles
  have lower := (nested_levels_end visits byCity).1 folded folds nested member _ oslo bound binds
  have count := (nested_levels_end visits report).2.2.2.2 queries compiled
  exact ⟨folded,nested,bound,queries,folds,member,binds,lower,compiled,count⟩

end Visits

end OlapQuery
