import OlapQuery.Proofs.Clauses
import OlapQuery.Proofs.FoldedFilter
import OlapQuery.Proofs.Hoisting
import OlapQuery.Proofs.SplitChains

-- What has been checked of the filter of a folded query. Its clauses come from the base filter of
-- the dataset and from the filters of the query. The patterns of the query are all tried before
-- anything else; its types are inferred step by step, in the scope of each step. The base filter
-- is put in front of the rest as it is.

namespace OlapQuery

open OlapQuery.Expr

namespace Expr

variable {resolve : String → Option DataType}

theorem patterns_clausewise (good : String → Prop) :
    Clausewise fun e => ∀ pattern ∈ e.patterns, good pattern := by
  refine ⟨fun es => ?_,fun b => nofun⟩
  have all : (Expr.and es).patterns = es.flatMap patterns := by
    rw [patterns,nodes,nodesAll_flatMap,List.filterMap_cons_none rfl,List.filterMap_flatMap]
    rfl
  rw [all,List.forall_mem_flatMap]

-- The nodes that inferring a type comes to.
mutual
def inferredNodes : Expr → List Expr
  | .literal v => [.literal v]
  | .ref name => [.ref name]
  | .ply => [.ply]
  | .unary op e => .unary op e :: inferredNodes e
  | .binary op e x => .binary op e x ::
      (inferredNodes e ++ if op.ignoresExpression then [] else inferredNodes x)
  | .junction op es => .junction op es :: inferredNodesAll es
  | .split e keys dataName => .split e keys dataName :: inferredNodes e

def inferredNodesAll : List Expr → List Expr
  | [] => []
  | e :: rest => inferredNodes e ++ inferredNodesAll rest
end

@[simp] theorem inferredNodesAll_flatMap (es : List Expr) :
    inferredNodesAll es = es.flatMap inferredNodes := by
  induction es with
  | nil => simp [inferredNodesAll]
  | cons e rest ih => simp [inferredNodesAll,ih]

theorem inferred_typed {e : Expr} {type : DataType} (typed : e.inferType resolve = .ok type) :
    ∀ n ∈ e.inferredNodes, ∃ type, n.inferType resolve = .ok type := by
  induction e using Expr.structural generalizing type with
  | literal v => simp [inferredNodes,inferType]
  | ref name => simpa [inferredNodes] using ⟨type,typed⟩
  | ply => simp [inferredNodes,inferType]
  | unary op e ih =>
      rw [inferredNodes,List.forall_mem_cons]
      refine ⟨⟨type,typed⟩,?_⟩
      rw [inferType,result_bind] at typed
      obtain ⟨operand,inner,-⟩ := typed
      exact ih inner
  | binary op e x left right =>
      rw [inferredNodes,List.forall_mem_cons,List.forall_mem_append]
      refine ⟨⟨type,typed⟩,?_⟩
      rw [inferType,result_bind] at typed
      obtain ⟨operand,inner,typed⟩ := typed
      refine ⟨left inner,?_⟩
      obtain ⟨_,_,typed⟩ := result_bind.mp typed
      split
      · exact List.forall_mem_nil _
      · rename_i looked
        rw [if_neg looked,result_bind] at typed
        obtain ⟨expression,second,-⟩ := typed
        exact right second
  | junction op es each =>
      rw [inferredNodes,List.forall_mem_cons,inferredNodesAll_flatMap,List.forall_mem_flatMap]
      refine ⟨⟨type,typed⟩,fun e listed => ?_⟩
      rw [inferType,result_bind] at typed
      obtain ⟨_,checked,_⟩ := typed
      obtain ⟨own,inner,-⟩ := (expectBooleans_ok op.name).mp checked e listed
      exact each e listed inner
  | split e keys dataName ih others =>
      rw [inferredNodes,List.forall_mem_cons]
      refine ⟨⟨type,typed⟩,?_⟩
      rw [inferType,result_bind] at typed
      obtain ⟨operand,inner,-⟩ := typed
      exact ih inner

def filterCondition? : Expr → Option Expr
  | .filter _ condition => some condition
  | _ => none

def inspected (e : Expr) : List Expr :=
  e.inferredNodes.filterMap filterCondition?

theorem filter_condition {e condition : Expr} {type : DataType}
    (typed : (Expr.filter e condition).inferType resolve = .ok type) :
    IsCondition resolve condition := by
  rw [inferType,result_bind] at typed
  obtain ⟨_,_,typed⟩ := typed
  obtain ⟨_,_,typed⟩ := result_bind.mp typed
  obtain ⟨own,inner,typed⟩ := result_bind.mp typed
  refine ⟨own,inner,?_⟩
  cases own <;> first | exact .inl rfl | exact .inr rfl | cases typed

theorem inspected_conditions {e : Expr} {type : DataType} (typed : e.inferType resolve = .ok type) :
    ∀ f ∈ e.inspected, IsCondition resolve f := by
  intro f found
  obtain ⟨n,visited,is⟩ := List.mem_filterMap.mp found
  obtain ⟨own,typed⟩ := inferred_typed typed n visited
  unfold filterCondition? at is
  split at is
  · cases is
    exact filter_condition typed
  · cases is

theorem inspected_chain {e : Expr} {root : String} {own : List Expr}
    (chain : e.datasetChain? = some (root,own)) (conditions : ∀ f ∈ own, IsCondition resolve f) :
    ∀ f ∈ e.inspected, IsCondition resolve f := by
  induction e using Expr.structural generalizing own with
  | ref name => nofun
  | binary op e condition ih nested =>
      cases op with
      | filter =>
          obtain ⟨⟨inner,before⟩,found,is⟩ := Option.map_eq_some_iff.mp chain
          cases is
          obtain ⟨early,last⟩ := List.forall_mem_append.mp conditions
          have here := last condition (List.mem_singleton_self condition)
          have parts : (Expr.filter e condition).inspected
              = condition :: (e.inspected ++ condition.inspected) := by
            simp [inspected,inferredNodes,filterCondition?,BinaryOp.ignoresExpression]
          rw [parts,List.forall_mem_cons,List.forall_mem_append]
          have ⟨type,typed,_⟩ := here
          exact ⟨here,ih found early,inspected_conditions typed⟩
      | _ => cases chain
  | _ => cases chain

end Expr

-- A scope in which all names but the given ones stand for columns.
def Scope.ReadsColumns (s : Scope) (dataset : Dataset) (given : List String) : Prop :=
  ∀ name, name ∉ given → s.resolve name = dataset.attributeType? name

theorem Scope.ReadsColumns.condition {s : Scope} {dataset : Dataset} {given : List String}
    (reads : s.ReadsColumns dataset given) {f : Expr} (checked : IsCondition s.resolve f)
    (apart : ∀ name ∈ given, ¬ Mentions name f) : IsCondition dataset.attributeType? f := by
  unfold IsCondition at checked ⊢
  rwa [← inferType_congr fun name mentioned => reads name fun named => apart name named mentioned]

namespace Fold
open Compiled

-- The names that a query gives to datasets and, among totals, to values and to nested splits.
def namesGiven (datasets : List String) (steps : List Step) : List String :=
  datasets ++ (steps.filter fun step => step.alias?.isNone).flatMap Step.declares

-- The conditions that folding comes to: those on the rows, or else those inside of the values and
-- of the filtered datasets with a name.
def inspected (e : Expr) : List Expr :=
  if !e.isDatasetOp then e.inspected
  else
    match e.chainBase with
    | .ply => (e.chainSteps.filterMap Step.value?).flatMap fun value => value.2.inspected
    | _ => Step.rowFilters e.chainSteps

-- The names that do not stand for columns where the conditions are written.
def given (e : Expr) : List String :=
  match e.chainBase with
  | .ply => namesGiven e.datasets e.chainSteps
  | _ => e.datasets

theorem start_columns (dataset : Dataset) (datasets : List String) :
    ({ dataset,datasets } : Scope).ReadsColumns dataset datasets := by
  intro name unnamed
  simp [Scope.resolve,Table.get?,unnamed]

theorem namesGiven_append (datasets : List String) (taken : List Step) (step : Step) :
    namesGiven datasets (taken ++ [step])
      = namesGiven datasets taken ++ if step.alias?.isNone then step.declares else [] := by
  unfold namesGiven
  cases unnamed : step.alias?.isNone <;> simp [unnamed]

theorem infer_typed {s : Scope} {e : Expr} {type : DataType} (ran : s.infer e = .ok type) :
    e.inferType s.resolve = .ok type := by
  unfold Scope.infer at ran
  cases inferred : e.inferType s.resolve with
  | error fault => rw [inferred] at ran; cases ran
  | ok found => rw [inferred] at ran; cases ran; rfl

theorem forM_ok {f : α → Compiled Unit} {xs : List α} :
    xs.forM f = .ok () ↔ ∀ x ∈ xs, f x = .ok () := by
  induction xs with
  | nil => exact ⟨fun _ => nofun,fun _ => rfl⟩
  | cons x rest ih =>
      rw [List.forall_mem_cons,← ih]
      refine bind_ok.trans ⟨?_,fun ⟨first,later⟩ => ⟨(),first,later⟩⟩
      rintro ⟨_,first,later⟩
      exact ⟨first,later⟩

-- What the state owes to the steps taken.
structure TotalsInspected (scope : Scope) (taken : List Step) (t : Totals) : Prop where
  columns : t.scope.ReadsColumns scope.dataset (namesGiven scope.datasets taken)
  conditions : ∀ value ∈ taken.filterMap Step.value?, ∀ f ∈ value.2.inspected,
    (∀ name ∈ namesGiven scope.datasets taken, ¬ Mentions name f) →
      IsCondition scope.dataset.attributeType? f

section
variable {scope : Scope} {taken : List Step} {t next : Totals} {step : Step}

theorem totals_looked (ran : TotalsTaken t step next) {value : String × Expr}
    (written : step.value? = some value) : ∀ f ∈ value.2.inspected, IsCondition t.scope.resolve f := by
  cases ran with
  | aliased chain checked resolves =>
      simp only [Step.value?,Expr.datasetChain_flat chain,Bool.false_eq_true,if_false] at written
      cases written
      exact inspected_chain chain fun f own => checkBoolean_exact.mp (forM_ok.mp checked f own)
  | nested unchained inner based resolves => simp [Step.value?,inner] at written
  | applied unchained flat typed resolves =>
      simp only [Step.value?,flat,Bool.false_eq_true,if_false] at written
      cases written
      exact inspected_conditions (infer_typed typed)

theorem totals_columns (ran : TotalsTaken t step next)
    (before : t.scope.ReadsColumns scope.dataset (namesGiven scope.datasets taken)) :
    next.scope.ReadsColumns scope.dataset (namesGiven scope.datasets (taken ++ [step])) := by
  intro name unnamed
  rw [namesGiven_append,List.mem_append,not_or] at unnamed
  have kept := before name unnamed.1
  cases ran with
  | aliased chain checked resolves => exact kept
  | @nested root origin filters own e unchained inner based resolves =>
      have apart : name ≠ own := by simpa [Step.alias?,unchained,Step.declares] using unnamed.2
      exact (Scope.resolve_declare apart _).trans kept
  | @applied e type resolved expanded own unchained flat typed resolves =>
      have apart : name ≠ own := by simpa [Step.alias?,unchained,Step.declares] using unnamed.2
      exact (Scope.resolve_declare apart _).trans kept

theorem totalsInspected_step (before : TotalsInspected scope taken t) (ran : TotalsTaken t step next) :
    TotalsInspected scope (taken ++ [step]) next := by
  refine ⟨totals_columns ran before.columns,?_⟩
  rw [List.filterMap_append,namesGiven_append]
  refine List.forall_mem_append.mpr ⟨fun value early f found apart => ?_,
    fun value last f found apart => ?_⟩
  · exact before.conditions value early f found (List.forall_mem_append.mp apart).1
  · obtain ⟨s,only,written⟩ := List.mem_filterMap.mp last
    cases List.mem_singleton.mp only
    exact before.columns.condition (totals_looked ran written f found)
      (List.forall_mem_append.mp apart).1

end

theorem totals_inspected {dataset : Dataset} {datasets : List String} {steps : List Step} {t : Totals}
    (ran : steps.foldlM totalsStep { scope := { dataset,datasets } } = .ok t) :
    TotalsInspected { dataset,datasets } steps t := by
  refine run_keeps (TotalsInspected { dataset,datasets })
    (fun _ _ _ _ before step => totalsInspected_step before (totalsStep_taken step)) ⟨?_,by simp⟩ ran
  have columns := start_columns dataset datasets
  simpa [namesGiven] using columns

-- The filters of rows are checked before anything is declared.
theorem rows_checked {scope : Scope} {root : String} {steps : List Step} {q : Rows}
    (ran : steps.foldlM (rowsStep root) { scope } = .ok q) :
    ∀ f ∈ Step.rowFilters steps, IsCondition scope.resolve f := by
  rw [← (rows_reached ran).filters]
  refine (run_keeps (fun _ (q : Rows) => (q.split = none → q.scope = scope) ∧
    ∀ f ∈ q.filters, IsCondition scope.resolve f) ?_ ⟨fun _ => rfl,by simp⟩ ran).2
  rintro taken q step next ⟨unsplit,checked⟩ ran
  cases rowsStep_taken ran with
  | filtered passes before unsorted unlimited =>
      refine ⟨unsplit,List.forall_mem_append.mpr ⟨checked,?_⟩⟩
      rw [List.forall_mem_singleton,← unsplit before]
      exact checkBoolean_exact.mp passes
  | split before unsorted unlimited keyed declared => exact ⟨nofun,checked⟩
  | nested already inner => exact ⟨fun none => by simp [already] at none,checked⟩
  | applied already flat typed resolves => exact ⟨fun none => by simp [already] at none,checked⟩
  | _ => exact ⟨unsplit,checked⟩

theorem value_typed {scope : Scope} {e : Expr} {folded : FoldedQuery}
    (ran : value scope e = .ok folded) : ∃ type, scope.infer e = .ok type := by
  obtain ⟨type,typed,-⟩ := bind_ok.mp ran
  exact ⟨type,typed⟩

theorem datasets_given (e : Expr) : ∀ name ∈ e.datasets, name ∈ given e := by
  intro name listed
  unfold given
  split
  · exact List.mem_append_left _ listed
  · exact listed

theorem inspected_typed {dataset : Dataset} {e : Expr} {folded : FoldedQuery}
    (ran : fold dataset e = .ok folded) : ∀ f ∈ inspected e, (∀ name ∈ given e, ¬ Mentions name f) →
      IsCondition dataset.attributeType? f := by
  rcases fold_cases ran with ⟨single,value⟩ | ⟨chain,base,totals⟩ | ⟨chain,root,base,rows⟩
  · obtain ⟨type,typed⟩ := value_typed value
    rw [inspected,if_pos (by simp [single])]
    intro f found apart
    exact (start_columns dataset e.datasets).condition
      (inspected_conditions (infer_typed typed) f found)
      fun name listed => apart name (datasets_given e name listed)
  · obtain ⟨t,run,-⟩ := totals_parts totals
    rw [inspected,if_neg (by simp [chain]),given,base]
    intro f found apart
    obtain ⟨value,written,inside⟩ := List.mem_flatMap.mp found
    exact (totals_inspected run).conditions value written f inside apart
  · obtain ⟨q,run,-⟩ := rows_parts rows
    rw [inspected,if_neg (by simp [chain]),base]
    intro f found apart
    exact (start_columns dataset e.datasets).condition (rows_checked run f found)
      fun name listed => apart name (datasets_given e name listed)

end Fold

namespace Expr

theorem chain_nodes {e : Expr} {root : String} {own : List Expr}
    (chain : e.datasetChain? = some (root,own)) : ∀ f ∈ own, f ∈ e.nodes := by
  induction e using Expr.structural generalizing own with
  | ref name => cases chain; nofun
  | binary op e condition ih nested =>
      cases op with
      | filter =>
          obtain ⟨⟨inner,before⟩,found,is⟩ := Option.map_eq_some_iff.mp chain
          cases is
          refine List.forall_mem_append.mpr ⟨fun f early => ?_,?_⟩
          · exact child_node (by simp [children]) f (ih found f early)
          · rw [List.forall_mem_singleton]
            exact child_inside (by simp [children])
      | _ => cases chain
  | _ => cases chain

theorem aggregateChain_nodes {a : Expr} {name : String} {own : List Expr}
    (chain : a.aggregateChain? = some (name,own)) : ∀ f ∈ own, f ∈ a.nodes := by
  obtain ⟨operand,taken,chain⟩ := Option.bind_eq_some_iff.mp chain
  have part : operand ∈ a.children := by
    cases a with
    | unary op e => cases (Option.ite_none_right_eq_some.mp taken).2; simp [children]
    | binary op e x => cases (Option.ite_none_right_eq_some.mp taken).2; simp [children]
    | _ => cases taken
  exact fun f own => child_node part f (chain_nodes chain f own)

theorem part_nodes {e x : Expr} {step : Step} (listed : step ∈ e.chainSteps) (part : x ∈ step.parts) :
    x ∈ e.nodes := by
  induction e using chain_induction with
  | base e isBase => rw [isBase.steps] at listed; cases listed
  | step s e ih =>
      rw [chainSteps_after] at listed
      rw [nodes_after]
      refine List.mem_cons_of_mem _ ?_
      rcases List.mem_append.mp listed with early | last
      · exact List.mem_append_left _ (ih early)
      · cases List.mem_singleton.mp last
        exact List.mem_append_right _ (List.mem_flatMap.mpr ⟨x,part,self_node x⟩)

theorem commonFilters_source {es : List Expr} {f : Expr} (common : f ∈ commonFilters es) :
    ∃ a ∈ es.flatMap aggregates, ∃ filters, a.aggregateFilters? = some filters ∧ f ∈ filters := by
  unfold commonFilters at common
  split at common
  · cases common
  · rename_i first others found
    have listed : first ∈ (es.flatMap aggregates).filterMap aggregateFilters? :=
      found ▸ List.mem_cons_self
    obtain ⟨a,member,own⟩ := List.mem_filterMap.mp listed
    exact ⟨a,member,first,own,(List.mem_filter.mp common).1⟩

end Expr

namespace Step

theorem rowFilters_source {steps : List Step} {f : Expr} (found : f ∈ rowFilters steps) :
    .filter f ∈ steps := by
  induction steps with
  | nil => cases found
  | cons step rest ih =>
      cases step with
      | filter condition =>
          rcases List.mem_cons.mp found with rfl | later
          · exact List.mem_cons_self
          · exact List.mem_cons_of_mem _ (ih later)
      | split keys dataName => cases found
      | apply name e => exact List.mem_cons_of_mem _ (ih found)
      | sort key direction => exact List.mem_cons_of_mem _ (ih found)
      | limit count => exact List.mem_cons_of_mem _ (ih found)

theorem inForce_nodes {e : Expr} {earlier : List Step} (steps : ∀ s ∈ earlier, s ∈ e.chainSteps)
    (name : String) : ∀ f ∈ (inForce earlier name).2, f ∈ e.nodes := by
  induction earlier generalizing name with
  | nil => nofun
  | cons step earlier ih =>
      obtain ⟨here,before⟩ := List.forall_mem_cons.mp steps
      cases named : step.alias? with
      | none => rw [inForce_unnamed named]; exact ih before name
      | some given =>
          simp only [inForce,named]
          split
          · refine List.forall_mem_append.mpr ⟨ih before given.root,?_⟩
            cases step with
            | apply own x =>
                obtain ⟨⟨root,filters⟩,chain,rfl⟩ := Option.map_eq_some_iff.mp named
                have inside : x ∈ e.nodes := part_nodes here (List.mem_singleton_self x)
                exact fun f own => node_nodes inside f (chain_nodes chain f own)
            | _ => cases named
          · exact ih before name

theorem value_source {step : Step} {value : String × Expr} (found : step.value? = some value) :
    step = .apply value.1 value.2 := by
  cases step with
  | apply name e =>
      obtain ⟨-,is⟩ := Option.ite_none_left_eq_some.mp found
      cases is
      rfl
  | _ => cases found

theorem total_source {step : Step} {value : String × Expr} (found : step.total? = some value) :
    step = .apply value.1 value.2 :=
  value_source (Option.ite_none_left_eq_some.mp found).2

theorem written_source {value? : Step → Option (String × Expr)}
    (source : ∀ {step value}, value? step = some value → step = .apply value.1 value.2)
    {earlier steps : List Step} {w : Written} (member : w ∈ written value? earlier steps) :
    .apply w.name w.expression ∈ steps ∧ ∀ s ∈ w.earlier, s ∈ earlier ∨ s ∈ steps := by
  induction steps generalizing earlier with
  | nil => cases member
  | cons step rest ih =>
      rcases List.mem_append.mp member with here | later
      · obtain ⟨value,found,rfl⟩ := Option.map_eq_some_iff.mp (Option.mem_toList.mp here)
        rw [source found]
        exact ⟨List.mem_cons_self,fun s early => .inl early⟩
      · obtain ⟨listed,before⟩ := ih later
        refine ⟨List.mem_cons_of_mem _ listed,fun s early => ?_⟩
        rcases before s early with known | own
        · exact (List.mem_cons.mp known).elim (fun same => .inr (same ▸ List.mem_cons_self)) .inl
        · exact .inr (List.mem_cons_of_mem _ own)

end Step

namespace Fold
open Compiled

theorem writtenValues_nodes {e : Expr} {w : Written} (member : w ∈ writtenValues e) :
    w.expression ∈ e.nodes ∧ ∀ s ∈ w.earlier, s ∈ e.chainSteps := by
  unfold writtenValues at member
  split at member
  · obtain ⟨listed,before⟩ := Step.written_source Step.total_source member
    refine ⟨part_nodes listed (List.mem_singleton_self _),fun s early => ?_⟩
    exact (before s early).resolve_left nofun
  · cases List.mem_singleton.mp member
    exact ⟨self_node e,nofun⟩

theorem ownFilters_resolved {dataset : Dataset} {e : Expr} {resolved : List Apply}
    (ran : resolvedApplies dataset e = .ok resolved)
    (totals : e.isDatasetOp = true → e.chainBase = .ply) :
    ownFilters dataset e = .ok (commonFilters (resolved.map (·.expression))) := by
  unfold resolvedApplies at ran
  unfold ownFilters
  cases chain : e.isDatasetOp with
  | true =>
      rw [if_pos chain] at ran
      obtain ⟨t,run,last⟩ := bind_ok.mp ran
      cases pure_ok.mp last
      rw [totals chain]
      exact bind_ok.mpr ⟨t,run,rfl⟩
  | false =>
      rw [if_neg (by simp [chain])] at ran
      obtain ⟨⟨image,expanded⟩,resolves,last⟩ := bind_ok.mp ran
      cases pure_ok.mp last
      exact bind_ok.mpr ⟨(image,expanded),resolves,rfl⟩

-- What an aggregate has been put under is written in the query, if what the names of datasets
-- stand for is.
theorem attached_nodes {e value resolved : Expr} {expanded : Bool}
    {roots : String → Compiled (String × List Expr)} (written : value ∈ e.nodes)
    (given : ∀ name root filters, roots name = .ok (root,filters) → ∀ f ∈ filters, f ∈ e.nodes)
    (resolves : value.resolveAggregates roots = .ok (resolved,expanded)) {b : Expr}
    (inside : b ∈ resolved.aggregates) {filters : List Expr}
    (own : b.aggregateFilters? = some filters) : ∀ f ∈ filters, f ∈ e.nodes := by
  obtain ⟨c,found,name,conditions,root,named,chain,stands,taken⟩ :=
    resolveAggregates_chain resolves b inside
  cases (aggregateFilters_chain taken).symm.trans own
  refine List.forall_mem_append.mpr ⟨given name root named stands,fun f condition => ?_⟩
  have aggregate := node_nodes written c (aggregates_nodes found).1
  exact node_nodes aggregate f (aggregateChain_nodes chain f condition)

theorem totalsRoot_nodes {e : Expr} {earlier : List Step} (steps : ∀ s ∈ earlier, s ∈ e.chainSteps)
    (name root : String) (filters : List Expr) (stands : totalsRoot earlier name = .ok (root,filters)) :
    ∀ f ∈ filters, f ∈ e.nodes := by
  have inForce := Step.inForce_nodes steps name
  rwa [show Step.inForce earlier name = (root,filters) from Except.ok.inj stands] at inForce

theorem resolved_nodes {e : Expr} {w : Written} (member : w ∈ writtenValues e) {a : Apply}
    (defines : w.Defines totalsRoot id a) {b : Expr} (inside : b ∈ a.expression.aggregates)
    {filters : List Expr} (own : b.aggregateFilters? = some filters) : ∀ f ∈ filters, f ∈ e.nodes := by
  obtain ⟨written,before⟩ := writtenValues_nodes member
  obtain ⟨-,image,resolves,equal⟩ := defines
  rw [equal] at inside
  exact attached_nodes written (totalsRoot_nodes before) resolves inside own

theorem ownFilters_nodes {dataset : Dataset} {e : Expr} {folded : FoldedQuery} {filters : List Expr}
    (ran : fold dataset e = .ok folded) (own : ownFilters dataset e = .ok filters) :
    ∀ f ∈ filters, f ∈ e.nodes := by
  have single (single : folded.mode = .value ∨ folded.mode = .total)
      (totals : e.isDatasetOp = true → e.chainBase = .ply) : ∀ f ∈ filters, f ∈ e.nodes := by
    obtain ⟨resolved,resolves,-,origins⟩ := fold_resolved ran single
    rw [ownFilters_resolved resolves totals] at own
    cases own
    intro f common
    obtain ⟨b,member,filters,own,listed⟩ := commonFilters_source common
    obtain ⟨x,written,inside⟩ := List.mem_flatMap.mp member
    obtain ⟨a,applied,rfl⟩ := List.mem_map.mp written
    obtain ⟨w,origin,defines⟩ := origins a applied
    exact resolved_nodes origin defines inside own f listed
  rcases fold_cases ran with ⟨flat,value⟩ | ⟨chain,base,totals⟩ | ⟨chain,root,base,rows⟩
  · obtain ⟨_,_,-,rfl⟩ := value_parts value
    exact single (.inl rfl) (by simp [flat])
  · obtain ⟨_,-,rfl⟩ := totals_parts totals
    exact single (.inr rfl) fun _ => base
  · rw [ownFilters,if_neg (by simp [chain]),base] at own
    cases own
    intro f found
    exact part_nodes (Step.rowFilters_source found) (List.mem_singleton_self f)

theorem ownFilters_patterns {dataset : Dataset} {e : Expr} {folded : FoldedQuery}
    {filters : List Expr} (ran : fold dataset e = .ok folded)
    (own : ownFilters dataset e = .ok filters) :
    ∀ f ∈ filters, ∀ pattern ∈ f.patterns, Regex.isWellFormed pattern = true := by
  intro f listed pattern found
  obtain ⟨_,valid,-⟩ := bind_ok.mp ran
  obtain ⟨n,inside,carried⟩ := List.mem_filterMap.mp found
  have node := node_nodes (ownFilters_nodes ran own f listed) n inside
  exact validatePatterns_ok.mp valid pattern (List.mem_filterMap.mpr ⟨n,node,carried⟩)

end Fold

-- A filter that a planner can rely on.
structure Dataset.Admits (d : Dataset) (e : Expr) : Prop where
  condition : IsCondition d.attributeType? e
  patterns : ∀ pattern ∈ e.patterns, Regex.isWellFormed pattern = true

theorem Dataset.admits_clausewise (d : Dataset) : Clausewise d.Admits := by
  have conditions := condition_clausewise d.attributeType?
  have valid := patterns_clausewise fun pattern => Regex.isWellFormed pattern = true
  refine ⟨fun es => ⟨fun whole e listed => ⟨?_,?_⟩,fun each => ⟨?_,?_⟩⟩,fun b => ⟨?_,?_⟩⟩
  · exact (conditions.conjunction es).mp whole.condition e listed
  · exact (valid.conjunction es).mp whole.patterns e listed
  · exact (conditions.conjunction es).mpr fun e listed => (each e listed).condition
  · exact (valid.conjunction es).mpr fun e listed => (each e listed).patterns
  · exact conditions.truth b
  · exact valid.truth b

-- A filter of the query that folding does not come to, or that reads a name which is no column
-- where it is written.
def Fold.Unchecked (e f : Expr) : Prop :=
  f ∉ inspected e ∨ ∃ name ∈ given e, Mentions name f

open Fold

theorem checked_admitted {dataset : Dataset} {e : Expr} {folded : FoldedQuery} {filters : List Expr}
    (ran : fold dataset e = .ok folded) (own : ownFilters dataset e = .ok filters) {f : Expr}
    (listed : f ∈ filters) (checked : ¬ Unchecked e f) : dataset.Admits f := by
  simp only [Unchecked,not_or,not_not,not_exists,not_and] at checked
  exact ⟨inspected_typed ran f checked.1 checked.2,ownFilters_patterns ran own f listed⟩

-- The filter of a folded query is fit for a planner just if those of its clauses are that nobody
-- has looked at: the ones from the base filter, and from filters of the query that folding does
-- not come to or takes for something else. A pattern can only be wrong in the base filter. So the
-- filter is fit if the base filter is and each of the others has been checked.
theorem folded_filter_checked_iff {dataset : Dataset} {e : Expr} {folded : FoldedQuery}
    (ran : fold dataset e = .ok folded) :
    ∃ filters, ownFilters dataset e = .ok filters ∧
      (∀ pattern ∈ folded.filter.patterns,
        pattern ∈ dataset.filter.patterns ∨ Regex.isWellFormed pattern = true) ∧
      (dataset.Admits folded.filter ↔
        ∀ f, (f = dataset.filter ∨ f ∈ filters ∧ Unchecked e f) →
          ∀ c ∈ folded.filter.clauses, c ∈ f.clauses → dataset.Admits c) ∧
      (dataset.Admits dataset.filter → (∀ f ∈ filters, ¬ Unchecked e f) →
        dataset.Admits folded.filter) := by
  obtain ⟨filters,own,whole⟩ := folded_filter ran
  have exactly : dataset.Admits folded.filter ↔
      ∀ f, (f = dataset.filter ∨ f ∈ filters ∧ Unchecked e f) →
        ∀ c ∈ folded.filter.clauses, c ∈ f.clauses → dataset.Admits c := by
    refine ⟨fun admitted f _ c part _ => dataset.admits_clausewise.clause admitted part,fun each => ?_⟩
    rw [whole,dataset.admits_clausewise.queryFilter_exact,← whole]
    intro c part
    rcases queryFilter_clause (whole ▸ part) with base | ⟨f,listed,inside⟩
    · exact each _ (.inl rfl) c part base
    · by_cases unchecked : Unchecked e f
      · exact each f (.inr ⟨listed,unchecked⟩) c part inside
      · exact dataset.admits_clausewise.clause (checked_admitted ran own listed unchecked) inside
  refine ⟨filters,own,?_,exactly,fun base checked => exactly.mpr ?_⟩
  · have clausewise := patterns_clausewise fun pattern =>
      pattern ∈ dataset.filter.patterns ∨ Regex.isWellFormed pattern = true
    rw [whole]
    refine (clausewise.queryFilter_exact dataset filters).mpr fun c part => ?_
    rcases queryFilter_clause part with base | ⟨f,listed,inside⟩
    · exact clausewise.clause (fun pattern found => .inl found) base
    · exact clausewise.clause (fun pattern found =>
        .inr (ownFilters_patterns ran own f listed pattern found)) inside
  · rintro f (rfl | ⟨listed,unchecked⟩) c - inside
    · exact dataset.admits_clausewise.clause base inside
    · exact absurd unchecked (checked f listed)

namespace Parcels

def under (filter : Expr) : Dataset :=
  { engine := .druid,source := "parcels",filter,
    attributes := [{ name := "weight",type := .number },{ name := "city",type := .string }] }

def matching (pattern : String) : Expr :=
  .regexMatch (.ref "city") pattern

def toMainz : Expr :=
  .is (.ref "city") (.literal (.string "Mainz"))

def count (filter : Expr) : Expr :=
  .count (.filter (.ref "data") filter)

def report : Expr :=
  .apply (.apply .ply "data" (.filter (.ref "data") toMainz)) "Parcels" (.count (.ref "data"))

theorem report_filter_checked : ∃ folded, fold (under (matching "^")) report = .ok folded ∧
    (under (matching "^")).Admits folded.filter := by
  refine ⟨_,rfl,?_⟩
  obtain ⟨filters,own,-,-,sound⟩ := folded_filter_checked_iff
    (show fold (under (matching "^")) report = .ok _ from rfl)
  have only : [toMainz] = filters := Except.ok.inj own
  subst only
  refine sound ⟨⟨.boolean,rfl,.inl rfl⟩,List.forall_mem_singleton.mpr (by decide)⟩ ?_
  rw [List.forall_mem_singleton]
  rintro (missed | ⟨name,named,mentioned⟩)
  · exact missed (List.mem_singleton_self toMainz)
  · have names : given report = ["data","Parcels"] := rfl
    rw [names] at named
    have city : name = "city" := by simpa [toMainz] using mentioned
    simp [city] at named

-- A column of numbers and a pattern that nobody can read pass as base filters; as filters of the
-- query they do not. There a text passes that has the name of a value, and so does a number in an
-- aggregate that no type is inferred for.
theorem base_filter_unchecked :
    (∃ folded, (under (.ref "weight")).validate = .ok (under (.ref "weight")) ∧
      fold (under (.ref "weight")) (.count (.ref "data")) = .ok folded ∧
      folded.filter.inferType (under (.ref "weight")).attributeType? = .ok .number) ∧
    (∃ folded, (under (matching "(M")).validate = .ok (under (matching "(M")) ∧
      fold (under (matching "(M")) (.count (.ref "data")) = .ok folded ∧
      "(M" ∈ folded.filter.patterns ∧ Regex.isWellFormed "(M" = false) ∧
    fold (under (.bool true)) (count (matching "(M")) = .error (.refused (.invalidRegex "(M")) ∧
    fold (under (.bool true)) (count (.ref "weight"))
      = .error (.refused (.type (.mismatch "filter" "BOOLEAN" .number))) ∧
    (∃ folded, fold (under (.bool true)) (.apply (.apply .ply "city" (.bool true)) "Parcels"
        (count (.ref "city"))) = .ok folded ∧
      folded.filter.inferType (under (.bool true)).attributeType? = .ok .string) ∧
    ∃ folded, fold (under (.bool true)) (.member (.ref "weight") (count (.ref "weight"))) = .ok folded ∧
      folded.filter.inferType (under (.bool true)).attributeType? = .ok .number := by
  exact ⟨⟨_,rfl,rfl,rfl⟩,⟨_,rfl,rfl,List.mem_singleton_self _,rfl⟩,rfl,rfl,⟨_,rfl,rfl⟩,_,rfl,rfl⟩

end Parcels

end OlapQuery
