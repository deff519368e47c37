import OlapQuery.Plan
import OlapQuery.Proofs.Aliases

-- Splits nested in splits. A level is folded, one of its nested splits is bound to one of its
-- rows, and what comes out is the next level. The restrictions on a level are the filters
-- written on the way down and the keys of the rows chosen there, whatever the changes to the
-- chain that carry them.

namespace OlapQuery

open Compiled Step Binding
open Fold (Rows rowsStep templateOver)

universe u

-- Two lists of conditions that hold of the same rows, in whatever way conditions are read.
def Equivalent (left right : List Expr) : Prop :=
  ∀ (ρ : Type u) (S : Reading ρ) (row : ρ),
    (∀ f ∈ left, S.holds row f) ↔ ∀ f ∈ right, S.holds row f

namespace Equivalent

theorem refl (conditions : List Expr) : Equivalent.{u} conditions conditions :=
  fun _ _ _ => Iff.rfl

theorem trans {left middle right : List Expr} (first : Equivalent.{u} left middle)
    (second : Equivalent.{u} middle right) : Equivalent.{u} left right :=
  fun ρ S row => (first ρ S row).trans (second ρ S row)

theorem append {left right later last : List Expr} (early : Equivalent.{u} left right)
    (late : Equivalent.{u} later last) : Equivalent.{u} (left ++ later) (right ++ last) := by
  intro ρ S row
  rw [List.forall_mem_append,List.forall_mem_append,early ρ S row,late ρ S row]

theorem of_mem {left right : List Expr} (same : ∀ f, f ∈ left ↔ f ∈ right) :
    Equivalent.{u} left right := by
  intro ρ S row
  simp only [same]

theorem andAll (conditions : List Expr) : Equivalent.{u} [Expr.andAll conditions] conditions := by
  intro ρ S row
  simp [S.holds_andAll]

theorem of_true {conditions : List Expr} (truth : (Expr.andAll conditions).isTrue = true) :
    Equivalent.{u} [] conditions := by
  refine trans ?_ (andAll conditions)
  intro ρ S row
  simp [Expr.isTrue_exact.mp truth,S.holds_bool]

end Equivalent

-- A step down: which of the nested splits, and which row of the level above it.
structure Descent where
  index : Nat
  row : Row

-- The levels below an expression, each folded and bound in turn.
inductive Reaches (dataset : Dataset) : Expr → List Descent → Expr → Prop where
  | here : Reaches dataset e [] e
  | down (folds : fold dataset e = .ok folded) (chosen : folded.nested[d.index]? = some nested)
      (binds : Binding.bind dataset nested.expression folded.splitKeys d.row = .ok next)
      (below : Reaches dataset next path last) : Reaches dataset e (d :: path) last

-- The conditions that folding collects for a chain over the dataset.
def Collects (dataset : Dataset) (e : Expr) (filters : List Expr) : Prop :=
  ∃ root q, e.chainBase = .ref root ∧
    e.chainSteps.foldlM (rowsStep root) { scope := { dataset,datasets := e.datasets } } = .ok q ∧
    q.filters = filters

def Step.splitKeys (steps : List Step) : List (String × Expr) :=
  ((steps.findSome? split?).map (·.keys)).getD []

-- What is written from a split down: its filters, the keys of the row chosen there, and so on.
def restrictionsBelow (dataset : Dataset) (e : Expr) : List Descent → Option (List Expr)
  | [] => some (rowFilters e.chainSteps)
  | d :: path => do
      let nested ← (e.chainSteps.filterMap nested?)[d.index]?
      let keys ← (rowPredicates dataset (splitKeys e.chainSteps) d.row).toOption
      let below ← restrictionsBelow dataset nested.expression path
      return rowFilters e.chainSteps ++ keys ++ below

-- The same from the top, where the nested splits may be over names for filtered datasets.
def restrictions (dataset : Dataset) (e : Expr) (path : List Descent) : Option (List Expr) :=
  match e.chainBase,path with
  | .ply,d :: path => do
      let (source,nested) ← (nestedInForce [] e.chainSteps)[d.index]?
      let below ← restrictionsBelow dataset nested.expression path
      return source.2 ++ below
  | _,path => restrictionsBelow dataset e path

-- A level as it is run beside the split it was written as, under what is carried down to it.
structure Under (carried : List Expr) (written run : Expr) : Prop where
  chain : run.isDatasetOp = true
  base : ∃ root, run.chainBase = .ref root
  split : run.chainSteps.findSome? split? = written.chainSteps.findSome? split?
  nested : run.chainSteps.filterMap nested? = written.chainSteps.filterMap nested?
  filters : Equivalent.{u} (rowFilters run.chainSteps) (carried ++ rowFilters written.chainSteps)

namespace Step

theorem filters_unsplit (conditions : List Expr) : Unsplit (conditions.map Step.filter) := by
  intro step member
  obtain ⟨condition,-,rfl⟩ := List.mem_map.mp member
  rfl

theorem rowFilters_filters (conditions : List Expr) :
    rowFilters (conditions.map Step.filter) = conditions := by
  induction conditions with
  | nil => rfl
  | cons condition rest ih => simp [rowFilters,ih]

-- Conditions put into a chain before its split are filters like those written there, and change
-- nothing else.
theorem rowFilters_inserted {early : List Step} (unsplit : Unsplit early) (late : List Step)
    (conditions : List Expr) :
    Equivalent.{u} (rowFilters (early ++ conditions.map Step.filter ++ late))
      (conditions ++ rowFilters (early ++ late)) := by
  have before := unsplit_append.mpr ⟨unsplit,filters_unsplit conditions⟩
  rw [rowFilters_unsplit before,rowFilters_unsplit unsplit,rowFilters_unsplit unsplit,
    rowFilters_filters]
  refine .of_mem fun f => ?_
  simp only [List.mem_append,or_left_comm,or_assoc]

theorem split_inserted (early late : List Step) (conditions : List Expr) :
    (early ++ conditions.map Step.filter ++ late).findSome? split?
      = (early ++ late).findSome? split? := by
  simp [List.findSome?_append,unsplit_exact.mpr (filters_unsplit conditions)]

theorem nested_inserted (early late : List Step) (conditions : List Expr) :
    (early ++ conditions.map Step.filter ++ late).filterMap nested?
      = (early ++ late).filterMap nested? := by
  have flat : (conditions.map Step.filter).filterMap nested? = [] := by
    simp [List.filterMap_map,Function.comp_def,nested?]
  simp [List.filterMap_append,flat]

end Step

namespace Expr

theorem filteredDataset_base (root : String) (filters : List Expr) :
    (filteredDataset root filters).chainBase = .ref root := by
  unfold filteredDataset
  dsimp only
  split <;> rfl

theorem filteredDataset_steps (root : String) (filters : List Expr) :
    ∃ conditions, (filteredDataset root filters).chainSteps = conditions.map Step.filter ∧
      Equivalent.{u} conditions filters := by
  unfold filteredDataset
  dsimp only
  split
  · rename_i truth; exact ⟨[],rfl,.of_true truth⟩
  · exact ⟨[andAll filters],rfl,.andAll filters⟩

theorem hasSplit_found {e : Expr} :
    e.hasSplit = true ↔ ¬ e.chainSteps.findSome? split? = none := by
  rw [unsplit_exact]
  simp [hasSplit,Unsplit]

theorem hasSplit_chain {e : Expr} (inner : e.hasSplit = true) : e.isDatasetOp = true := by
  cases single : e.isDatasetOp with
  | true => rfl
  | false => rw [hasSplit,single_steps single] at inner; cases inner

end Expr

theorem FoldedQuery.splitKeys_found (q : FoldedQuery) :
    q.splitKeys = (q.split.map (·.keys)).getD [] := by
  unfold FoldedQuery.splitKeys
  cases q.split <;> rfl

theorem fold_over {dataset : Dataset} {e : Expr} {root : String} {folded : FoldedQuery}
    (ran : fold dataset e = .ok folded) (chain : e.isDatasetOp = true)
    (base : e.chainBase = .ref root) :
    Collects dataset e (rowFilters e.chainSteps) ∧
      folded.filter = queryFilter dataset (rowFilters e.chainSteps) ∧
      folded.splitKeys = splitKeys e.chainSteps ∧
      folded.nested = (e.chainSteps.filterMap nested?).map
        (templateOver root (rowFilters e.chainSteps)) := by
  rcases fold_cases ran with ⟨single,-⟩ | ⟨-,ply,-⟩ | ⟨-,other,same,rows⟩
  · rw [chain] at single; cases single
  · rw [base] at ply; cases ply
  · rw [base] at same; cases same
    obtain ⟨q,run,rfl⟩ := Fold.rows_parts rows
    have reached := Fold.rows_reached run
    refine ⟨⟨root,q,base,run,reached.filters⟩,?_,?_,?_⟩
    · rw [← reached.filters]
    · rw [FoldedQuery.splitKeys_found,splitKeys,reached.split]
    · rw [← reached.filters]; exact reached.nested

theorem bind_parts {dataset : Dataset} {e next : Expr} {keys : List (String × Expr)} {row : Row}
    (binds : Binding.bind dataset e keys row = .ok next) :
    ∃ predicates, rowPredicates dataset keys row = .ok predicates ∧
      ((Expr.andAll predicates).isTrue = true ∧ next = e ∨
        next = narrow (Expr.andAll predicates) e) := by
  obtain ⟨predicates,found,rest⟩ := bind_ok.mp binds
  refine ⟨predicates,found,?_⟩
  dsimp only at rest
  split at rest
  · rename_i truth; exact .inl ⟨truth,(pure_ok.mp rest).symm⟩
  · exact .inr (pure_ok.mp rest).symm

namespace Under
open OlapQuery.Expr

theorem carry {carried other : List Expr} {written run : Expr}
    (under : Under.{u} carried written run) (same : Equivalent.{u} carried other) :
    Under.{u} other written run :=
  ⟨under.chain,under.base,under.split,under.nested,
    under.filters.trans (same.append (.refl _))⟩

theorem top {e : Expr} {root : String} (chain : e.isDatasetOp = true)
    (base : e.chainBase = .ref root) : Under.{u} [] e e :=
  ⟨chain,⟨root,base⟩,rfl,rfl,.refl _⟩

theorem template (root : String) (filters : List Expr) {n : Nested}
    (inner : n.expression.hasSplit = true) :
    Under.{u} filters n.expression (templateOver root filters n).expression := by
  obtain ⟨conditions,steps,same⟩ := filteredDataset_steps.{u} root filters
  have run : (templateOver root filters n).expression.chainSteps
      = [] ++ conditions.map Step.filter ++ n.expression.chainSteps := by
    simp [templateOver,chainSteps_withChainBase,steps]
  have split := split_inserted [] n.expression.chainSteps conditions
  rw [← run] at split
  refine ⟨?_,⟨root,?_⟩,split,?_,?_⟩
  · apply hasSplit_chain
    rw [hasSplit_found,split]; exact hasSplit_found.mp inner
  · simp [templateOver,chainBase_withChainBase,filteredDataset_base]
  · rw [run]; exact nested_inserted [] _ conditions
  · rw [run]
    exact (rowFilters_inserted (by simp [Unsplit]) _ conditions).trans (same.append (.refl _))

theorem narrowed {carried : List Expr} {written run : Expr} {p : Expr}
    (under : Under.{u} carried written run) (inner : written.hasSplit = true)
    (once : (narrow p run).chainSteps.countP Step.isSplit ≤ 1) :
    Under.{u} (carried ++ [p]) written (narrow p run) := by
  have found : ¬ run.chainSteps.findSome? split? = none := by
    rw [under.split]; exact hasSplit_found.mp inner
  rcases narrow_parts p run with unsplit | ⟨before,split,after,isSplit,-,steps,narrow⟩
  · exact absurd (unsplit_exact.mpr unsplit) found
  have shape : (Binding.narrow p run).chainSteps
      = before ++ [p].map Step.filter ++ split :: after := by simp [narrow]
  have early : Unsplit before := by
    rw [narrow,List.countP_append,List.countP_cons,List.countP_cons,if_pos isSplit] at once
    exact unsplit_count.mp (by omega)
  have sameSplit := split_inserted before (split :: after) [p]
  rw [← shape,← steps] at sameSplit
  refine ⟨?_,?_,sameSplit.trans under.split,?_,?_⟩
  · apply hasSplit_chain
    rw [hasSplit_found,sameSplit]; exact found
  · rw [chainBase_narrow]; exact under.base
  · rw [shape,nested_inserted,← steps]; exact under.nested
  · rw [shape]
    have added := rowFilters_inserted.{u} early (split :: after) [p]
    rw [← steps] at added
    refine added.trans (((Equivalent.refl [p]).append under.filters).trans (.of_mem fun f => ?_))
    simp only [List.mem_append,or_left_comm,or_assoc]

theorem bound {dataset : Dataset} {carried : List Expr} {written run next : Expr}
    {keys : List (String × Expr)} {row : Row} (under : Under.{u} carried written run)
    (inner : written.hasSplit = true) (binds : Binding.bind dataset run keys row = .ok next)
    (once : next.chainSteps.countP Step.isSplit ≤ 1) :
    ∃ predicates, rowPredicates dataset keys row = .ok predicates ∧
      Under.{u} (carried ++ predicates) written next := by
  obtain ⟨predicates,found,⟨truth,rfl⟩ | rfl⟩ := bind_parts binds
  · refine ⟨predicates,found,under.carry ?_⟩
    simpa using (Equivalent.refl.{u} carried).append (.of_true truth)
  · refine ⟨predicates,found,(under.narrowed inner once).carry ?_⟩
    exact (Equivalent.refl carried).append (.andAll predicates)

end Under

theorem Step.nested_inner {step : Step} {n : Nested} (found : step.nested? = some n) :
    n.expression.hasSplit = true := by
  cases step with
  | apply name e =>
      simp only [nested?,Option.ite_none_right_eq_some,Option.some.injEq] at found
      obtain ⟨inner,rfl⟩ := found
      exact inner
  | _ => cases found

theorem Step.nestedInForce_inner {earlier steps : List Step} {source : String × List Expr} {n : Nested}
    (member : (source,n) ∈ nestedInForce earlier steps) : n.expression.hasSplit = true := by
  induction steps generalizing earlier with
  | nil => cases member
  | cons step rest ih =>
      rcases List.mem_append.mp member with first | later
      · simp only [nestedAfter?,Option.mem_toList,Option.bind_eq_bind,Option.bind_eq_some_iff,
          Option.pure_def,Option.some.injEq,Prod.mk.injEq] at first
        obtain ⟨inner,found,root,-,-,rfl⟩ := first
        exact nested_inner found
      · exact ih later

-- One step down: the nested split that was chosen, under all that was carried so far, what the
-- level itself asks and the keys of the row.
theorem under_down {dataset : Dataset} {carried : List Expr} {written run next : Expr}
    {folded below : FoldedQuery} {nested : Nested} {d : Descent}
    (under : Under.{u} carried written run) (folds : fold dataset run = .ok folded)
    (chosen : folded.nested[d.index]? = some nested)
    (binds : Binding.bind dataset nested.expression folded.splitKeys d.row = .ok next)
    (further : fold dataset next = .ok below) :
    ∃ inner predicates, (written.chainSteps.filterMap nested?)[d.index]? = some inner ∧
      rowPredicates dataset (splitKeys written.chainSteps) d.row = .ok predicates ∧
      Under.{u} (carried ++ rowFilters written.chainSteps ++ predicates) inner.expression next := by
  obtain ⟨root,base⟩ := under.base
  obtain ⟨-,-,keys,templates⟩ := fold_over folds under.chain base
  rw [templates,under.nested,List.getElem?_map] at chosen
  obtain ⟨inner,place,rfl⟩ := Option.map_eq_some_iff.mp chosen
  obtain ⟨step,-,isNested⟩ := List.mem_filterMap.mp (List.mem_of_getElem? place)
  have split := nested_inner isNested
  have started := (Under.template root _ split).carry under.filters
  obtain ⟨predicates,found,bound⟩ := started.bound split binds (fold_once further)
  rw [keys,splitKeys,under.split] at found
  exact ⟨inner,predicates,place,found,bound⟩

theorem Reaches.folds {dataset : Dataset} {e last : Expr} {path : List Descent}
    {folded : FoldedQuery} (reached : Reaches dataset e path last)
    (ran : fold dataset last = .ok folded) : ∃ first, fold dataset e = .ok first := by
  cases reached with
  | here => exact ⟨folded,ran⟩
  | down folds => exact ⟨_,folds⟩

theorem Reaches.under {dataset : Dataset} {run last : Expr} {path : List Descent}
    {folded : FoldedQuery} (reached : Reaches dataset run path last)
    (ran : fold dataset last = .ok folded) {carried : List Expr} {written : Expr}
    (under : Under.{u} carried written run) :
    ∃ filters asked, Collects dataset last filters ∧ folded.filter = queryFilter dataset filters ∧
      restrictionsBelow dataset written path = some asked ∧
      Equivalent.{u} filters (carried ++ asked) := by
  -- Along the path; what is carried grows by what the level asks and the keys of the row.
  induction reached generalizing carried written with
  | here =>
      obtain ⟨root,base⟩ := under.base
      obtain ⟨collects,filter,-,-⟩ := fold_over ran under.chain base
      exact ⟨_,_,collects,filter,rfl,under.filters⟩
  | @down e folded d nested next path last folds chosen binds below ih =>
      obtain ⟨first,further⟩ := below.folds ran
      obtain ⟨inner,predicates,place,keyed,lower⟩ := under_down under folds chosen binds further
      obtain ⟨filters,asked,collects,filter,found,same⟩ := ih ran lower
      refine ⟨filters,_,collects,filter,?_,by simpa using same⟩
      simp [restrictionsBelow,place,keyed,found,Except.toOption]

-- One step down from totals, which have no keys: the nested split over what its name stands for.
theorem named_down {dataset : Dataset} {e next : Expr} {folded below : FoldedQuery}
    {nested : Nested} {d : Descent}
    (folds : Fold.totals { dataset,datasets := e.datasets } e.chainSteps = .ok folded)
    (chosen : folded.nested[d.index]? = some nested)
    (binds : Binding.bind dataset nested.expression folded.splitKeys d.row = .ok next)
    (further : fold dataset next = .ok below) :
    ∃ source inner, (nestedInForce [] e.chainSteps)[d.index]? = some (source,inner) ∧
      Under.{u} source.2 inner.expression next := by
  obtain ⟨t,run,rfl⟩ := Fold.totals_parts folds
  dsimp only at chosen
  rw [(Fold.totals_reached run).nested,List.getElem?_map] at chosen
  obtain ⟨⟨source,inner⟩,place,rfl⟩ := Option.map_eq_some_iff.mp chosen
  have split := nestedInForce_inner (List.mem_of_getElem? place)
  obtain ⟨predicates,found,bound⟩ :=
    (Under.template source.1 source.2 split).bound split binds (fold_once further)
  cases found
  exact ⟨source,inner,place,by simpa using bound⟩

-- At every depth, the filters that folding collects are what the levels above and the level
-- itself ask, and the keys of the rows chosen on the way.
theorem nested_restrictions_exact {dataset : Dataset} {e last : Expr} {d : Descent}
    {path : List Descent} {folded : FoldedQuery} (reached : Reaches dataset e (d :: path) last)
    (ran : fold dataset last = .ok folded) :
    ∃ filters asked, Collects dataset last filters ∧ folded.filter = queryFilter dataset filters ∧
      restrictions dataset e (d :: path) = some asked ∧ Equivalent.{u} filters asked := by
  cases reached with
  | down folds chosen binds below =>
      rcases fold_cases folds with ⟨-,value⟩ | ⟨-,base,totals⟩ | ⟨chain,root,base,-⟩
      · obtain ⟨resolved,expanded,-,rfl⟩ := Fold.value_parts value
        cases chosen
      · obtain ⟨first,further⟩ := below.folds ran
        obtain ⟨source,inner,place,under⟩ := named_down totals chosen binds further
        obtain ⟨filters,asked,collects,filter,found,same⟩ := below.under ran under
        refine ⟨filters,source.2 ++ asked,collects,filter,?_,same⟩
        simp [restrictions,base,place,found]
      · obtain ⟨filters,asked,collects,filter,found,same⟩ :=
          (Reaches.down folds chosen binds below).under ran (Under.top chain base)
        refine ⟨filters,asked,collects,filter,?_,same⟩
        simp only [restrictions,base,found]

namespace Visits

def visits : Dataset :=
  { engine := .postgres,source := "visits",
    attributes := ["country","city","user","page"].map fun name => { name,type := .string } }

def is (column text : String) : Expr :=
  .is (.ref column) (.literal (.string text))

def byUser : Expr :=
  .split (.filter (.ref "part") (is "page" "home")) [("User",.ref "user")] "own"

def byCity : Expr :=
  .apply (.split (.ref "local") [("City",.ref "city")] "part") "Users" byUser

def report : Expr :=
  .apply (.apply .ply "local" (.filter (.ref "main") (is "country" "no"))) "Cities" byCity

def path : List Descent :=
  [{ index := 0,row := [] },{ index := 0,row := [("City",.str "Oslo")] }]

theorem users_of_a_city :
    ∃ last folded filters, Reaches visits report path last ∧ fold visits last = .ok folded ∧
      Collects visits last filters ∧ folded.filter = queryFilter visits filters ∧
      Equivalent.{0} filters [is "country" "no",is "city" "Oslo",is "page" "home"] := by
  have reached : Reaches visits report path _ := .down rfl rfl rfl (.down rfl rfl rfl .here)
  obtain ⟨filters,asked,collects,filter,found,same⟩ := nested_restrictions_exact reached rfl
  cases found
  exact ⟨_,_,filters,reached,rfl,collects,filter,same⟩

end Visits

end OlapQuery
