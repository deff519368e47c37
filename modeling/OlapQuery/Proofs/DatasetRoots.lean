import OlapQuery.Proofs.Hoisting

-- Which dataset a value or totals are asked of. Each aggregate is written over a dataset, through
-- names given before it, but the query has one dataset, and folding puts every aggregate over
-- that one. It is the dataset that the first name or the first aggregate stands for, and for a
-- single value the first name in alphabetical order. The aggregates of a split are compared
-- with its own name for its rows.

namespace OlapQuery

-- The dataset that an aggregate of a value stands over, by the names given before the value.
def Written.rootOf? (w : Written) (a : Expr) : Option String :=
  a.aggregateChain?.map fun chain => (Step.inForce w.earlier chain.1).1

namespace Step

-- The dataset that a step among totals would give to the query: that of the name it gives, or
-- that of the first aggregate in its value.
def leads? (earlier : List Step) (step : Step) : Option String :=
  match step.alias? with
  | some given => some (inForce earlier given.root).1
  | none => do
      let (name,e) ← step.value?
      let first ← e.aggregates.head?
      Written.rootOf? { earlier,name,expression := e } first

def leading? (earlier : List Step) : List Step → Option String
  | [] => none
  | step :: rest => (leads? earlier step).or (leading? (step :: earlier) rest)

theorem leading_append (earlier taken : List Step) (step : Step) :
    leading? earlier (taken ++ [step])
      = (leading? earlier taken).or (leads? (taken.reverse ++ earlier) step) := by
  induction taken generalizing earlier with
  | nil => simp [leading?]
  | cons first rest ih => simp [leading?,ih,Option.or_assoc]

end Step

namespace Expr

theorem resolveAggregates_images {resolve : String → Compiled (String × List Expr)}
    {e resolved : Expr} {expanded : Bool}
    (ran : e.resolveAggregates resolve = .ok (resolved,expanded)) :
    ∃ images, List.Forall₂ (fun a image => resolveAggregate resolve a = .ok image) e.aggregates images ∧
      resolved.aggregates = images.flatMap aggregates := by
  obtain ⟨mapped,made,ran⟩ := Compiled.bind_ok.mp ran
  cases Compiled.pure_ok.mp ran
  obtain ⟨images,each,own,-⟩ := (mapAggregatesM_compiled made).brought
  simp only [List.flatMap_singleton] at each own
  exact ⟨images,each,own⟩

theorem resolveAggregate_some {resolve : String → Compiled (String × List Expr)} {a image : Expr}
    (ran : resolveAggregate resolve a = .ok image) : ∃ b rest, image.aggregates = b :: rest := by
  obtain ⟨name,own,root,filters,normal,-,-,outermost,-,rfl⟩ := resolveAggregate_parts ran
  unfold expandAggregate?
  split
  · exact ⟨_,_,rfl⟩
  · split
    · exact ⟨_,_,rfl⟩
    · exact ⟨_,_,aggregates_self outermost⟩
  · split
    · exact ⟨_,_,rfl⟩
    · exact ⟨_,_,aggregates_self outermost⟩
  · exact ⟨_,_,aggregates_self outermost⟩

theorem resolveAggregates_first {stands : String → String × List Expr} {e resolved : Expr}
    {expanded : Bool}
    (ran : e.resolveAggregates (fun name => .ok (stands name)) = .ok (resolved,expanded)) :
    resolved.firstAggregateRoot?
      = e.aggregates.head?.bind fun a => a.aggregateChain?.map fun chain => (stands chain.1).1 := by
  obtain ⟨images,each,own⟩ := resolveAggregates_images ran
  unfold firstAggregateRoot?
  rw [own]
  generalize e.aggregates = written at each ⊢
  cases each with
  | nil => rfl
  | @cons a image as images first rest =>
      obtain ⟨b,others,inside⟩ := resolveAggregate_some first
      obtain ⟨name,filters,root,given,chain,resolves,taken⟩ := resolveAggregate_chain first
      have moved := taken b (inside ▸ List.mem_cons_self)
      rw [aggregateChain?] at moved
      obtain ⟨operand,found,based⟩ := Option.bind_eq_some_iff.mp moved
      have stands : stands name = (root,given) := Except.ok.inj resolves
      simp [inside,found,based,chain,stands]

theorem resolveAggregates_each {resolve : String → Compiled (String × List Expr)}
    {e resolved : Expr} {expanded : Bool}
    (ran : e.resolveAggregates resolve = .ok (resolved,expanded)) :
    ∀ a ∈ e.aggregates, ∃ name own root filters,
      a.aggregateChain? = some (name,own) ∧ resolve name = .ok (root,filters) := by
  obtain ⟨images,each,-⟩ := resolveAggregates_images ran
  intro a member
  obtain ⟨image,-,ran⟩ := related_source each.flip member
  obtain ⟨name,own,root,filters,chain,resolves,-⟩ := resolveAggregate_chain ran
  exact ⟨name,own,root,filters,chain,resolves⟩

-- Whatever an aggregate was over, it is over the dataset of the query afterwards.
theorem collapseAggregates_chain (dataName : String) (common : List Expr) (e : Expr) :
    ∀ b ∈ (e.collapseAggregates dataName common).aggregates,
      ∃ filters, b.aggregateChain? = some (dataName,filters) := by
  intro b member
  rw [aggregates_collapse] at member
  obtain ⟨a,found,rfl⟩ := List.mem_map.mp member
  have outermost := (aggregates_nodes found).2
  obtain ⟨filters,chain,-⟩ := filteredDataset_chain.{0} dataName
    ((a.aggregateFilters?.getD []).filter fun condition => !hasClause common condition)
  refine ⟨filters,?_⟩
  rw [aggregateChain?,collapseAggregate,operand_withAggregateOperand outermost]
  exact chain

end Expr

namespace Fold
open Compiled

-- The dataset a query leads with: of totals the first that a name or a value gives, and else the
-- first of all names.
def leadingRoot (e : Expr) : String :=
  (if e.isDatasetOp then Step.leading? [] e.chainSteps else none).getD
    (e.datasets.head?.getD "data")

-- The datasets that the outermost aggregates of a value or of totals stand over.
def aggregateRoots (e : Expr) : List String :=
  (writtenValues e).flatMap fun w => w.expression.aggregates.filterMap w.rootOf?

structure Led (scope : Scope) (taken : List Step) (t : Totals) : Prop where
  reached : TotalsReached taken t
  dataName : t.dataName = Step.leading? [] taken
  datasets : t.scope.datasets = scope.datasets

theorem led_step {scope : Scope} {taken : List Step} {t next : Totals} {step : Step}
    (led : Led scope taken t) (ran : TotalsTaken t step next) :
    Led scope (taken ++ [step]) next := by
  refine ⟨totalsReached_step led.reached ran,?_,?_⟩
  · rw [Step.leading_append,← led.dataName,List.append_nil]
    cases ran with
    | @aliased root own origin filters name e chain checked resolves =>
        have stands := (led.reached.names root).symm.trans resolves
        cases t.dataName <;> simp [Step.leads?,Step.alias?,chain,stands]
    | nested unchained inner based resolves =>
        simp [Step.leads?,Step.alias?,Step.value?,unchained,inner]
    | @applied e type resolved expanded name unchained flat typed resolves =>
        have first := Expr.resolveAggregates_first resolves
        have names : ∀ asked, resolveAlias t.aliases asked = Step.inForce taken.reverse asked :=
          led.reached.names
        cases t.dataName with
        | some known => rfl
        | none => simp [Step.leads?,Step.alias?,Step.value?,unchained,flat,first,names,Written.rootOf?]
  · cases ran <;> exact led.datasets

theorem totals_led {scope : Scope} {steps : List Step} {t : Totals}
    (ran : steps.foldlM totalsStep { scope } = .ok t) : Led scope steps t :=
  run_keeps (Led scope) (fun _ _ _ _ led step => led_step led (totalsStep_taken step))
    ⟨totalsReached_start scope,rfl,rfl⟩ ran

theorem fold_leading {dataset : Dataset} {e : Expr} {folded : FoldedQuery}
    (ran : fold dataset e = .ok folded) (single : folded.mode = .value ∨ folded.mode = .total) :
    folded.dataName = leadingRoot e := by
  rcases fold_cases ran with ⟨flat,value⟩ | ⟨chain,-,totals⟩ | ⟨-,root,-,rows⟩
  · obtain ⟨resolved,expanded,-,rfl⟩ := value_parts value
    simp [leadingRoot,flat,Scope.firstDataset]
  · obtain ⟨t,run,rfl⟩ := totals_parts totals
    have led := totals_led run
    simp [leadingRoot,chain,Scope.firstDataset,led.dataName,led.datasets]
  · obtain ⟨q,-,rfl⟩ := rows_parts rows
    cases found : q.split <;> simp [found] at single

theorem written_resolves {dataset : Dataset} {e : Expr} {folded : FoldedQuery}
    (ran : fold dataset e = .ok folded) (single : folded.mode = .value ∨ folded.mode = .total)
    {w : Written} (member : w ∈ writtenValues e) :
    ∃ resolved expanded, w.expression.resolveAggregates (totalsRoot w.earlier)
      = .ok (resolved,expanded) := by
  unfold writtenValues at member
  rcases fold_cases ran with ⟨flat,value⟩ | ⟨chain,-,totals⟩ | ⟨-,root,-,rows⟩
  · obtain ⟨resolved,expanded,resolves,-⟩ := value_parts value
    simp only [flat,Bool.false_eq_true,if_false,List.mem_singleton] at member
    subst member
    exact ⟨resolved,expanded,resolves⟩
  · obtain ⟨t,run,-⟩ := totals_parts totals
    obtain ⟨definitions,-,each⟩ := totals_defined run
    rw [if_pos chain] at member
    obtain ⟨a,-,-,resolved,resolves,-⟩ := Expr.related_source each.flip member
    exact ⟨resolved,a.expanded,resolves⟩
  · obtain ⟨q,-,rfl⟩ := rows_parts rows
    cases found : q.split <;> simp [found] at single

theorem rootOf_resolved {w : Written} {resolved : Expr} {expanded : Bool}
    (resolves : w.expression.resolveAggregates (totalsRoot w.earlier) = .ok (resolved,expanded))
    {a : Expr} (member : a ∈ w.expression.aggregates) : ∃ root, w.rootOf? a = some root := by
  obtain ⟨name,own,-,-,chain,-⟩ := Expr.resolveAggregates_each resolves a member
  exact ⟨(Step.inForce w.earlier name).1,by simp [Written.rootOf?,chain]⟩

theorem split_over_rows {dataset : Dataset} {e : Expr} {folded : FoldedQuery}
    (ran : fold dataset e = .ok folded) (split : folded.mode = .split) :
    ∀ w ∈ chainValues e, ∀ a ∈ w.expression.aggregates,
      ∃ filters, a.aggregateChain? = some (folded.dataName,filters) := by
  rcases fold_cases ran with ⟨-,value⟩ | ⟨-,-,totals⟩ | ⟨-,root,base,rows⟩
  · obtain ⟨_,_,_,rfl⟩ := value_parts value
    cases split
  · obtain ⟨_,_,rfl⟩ := totals_parts totals
    cases split
  · obtain ⟨q,run,rfl⟩ := rows_parts rows
    intro w member a inside
    rw [chainValues,base] at member
    cases found : q.split with
    | none => simp [found] at split
    | some parts =>
        obtain ⟨definitions,-,each⟩ := (rows_defined run).2 parts found
        obtain ⟨_,-,-,resolved,resolves,-⟩ := Expr.related_source each.flip member
        obtain ⟨name,own,root,filters,chain,stands⟩ :=
          Expr.resolveAggregates_each resolves a inside
        unfold splitRoot at stands
        split at stands
        · rename_i same
          have same : name = parts.dataName := by simpa using same
          exact ⟨own,by rw [chain,same]⟩
        · exact absurd stands unsupported_ok

end Fold

open Fold

-- The dataset of a value or of totals is the one that leads, so the aggregates are over the
-- dataset of the query as written exactly when each of them stands over that one. Folded they
-- all are, whatever they stood over, and only a split refuses an aggregate over another dataset.
theorem fold_over_leading {dataset : Dataset} {e : Expr} {folded : FoldedQuery}
    (ran : fold dataset e = .ok folded) :
    (folded.mode = .value ∨ folded.mode = .total →
      folded.dataName = leadingRoot e ∧
      (∀ w ∈ writtenValues e, ∀ a ∈ w.expression.aggregates, ∃ root, w.rootOf? a = some root) ∧
      ((∀ w ∈ writtenValues e, ∀ a ∈ w.expression.aggregates,
          w.rootOf? a = some folded.dataName) ↔
        ∀ root ∈ aggregateRoots e, root = leadingRoot e) ∧
      ∀ apply ∈ folded.applies, ∀ a ∈ apply.expression.aggregates,
        ∃ filters, a.aggregateChain? = some (folded.dataName,filters)) ∧
    (folded.mode = .split → ∀ w ∈ chainValues e, ∀ a ∈ w.expression.aggregates,
      ∃ filters, a.aggregateChain? = some (folded.dataName,filters)) := by
  refine ⟨fun single => ?_,split_over_rows ran⟩
  have leading := fold_leading ran single
  have stands : ∀ w ∈ writtenValues e, ∀ a ∈ w.expression.aggregates,
      ∃ root, w.rootOf? a = some root := by
    intro w member a inside
    obtain ⟨resolved,expanded,resolves⟩ := written_resolves ran single member
    exact rootOf_resolved resolves inside
  refine ⟨leading,stands,⟨fun all root member => ?_,fun agree w member a inside => ?_⟩,?_⟩
  · obtain ⟨w,written,listed⟩ := List.mem_flatMap.mp member
    obtain ⟨a,inside,found⟩ := List.mem_filterMap.mp listed
    rw [all w written a inside] at found
    exact (Option.some.inj found).symm.trans leading
  · obtain ⟨root,found⟩ := stands w member a inside
    have listed : root ∈ aggregateRoots e :=
      List.mem_flatMap.mpr ⟨w,member,List.mem_filterMap.mpr ⟨a,inside,found⟩⟩
    rw [found,agree root listed,leading]
  · obtain ⟨resolved,-,collapsed,-⟩ := fold_resolved ran single
    intro apply member
    rw [collapsed.applies] at member
    obtain ⟨before,-,rfl⟩ := List.mem_map.mp member
    exact Expr.collapseAggregates_chain _ _ _

namespace Shop

def orders : Dataset :=
  { engine := .postgres,source := "orders",
    attributes := [{ name := "paid",type := .boolean },{ name := "amount",type := .number }] }

def takings : Expr :=
  .apply (.apply (.apply .ply "settled" (.filter (.ref "orders") (.ref "paid"))) "Taken"
    (.sum (.ref "settled") (.ref "amount"))) "Orders" (.count (.ref "orders"))

theorem takings_over_orders :
    ∃ folded, fold orders takings = .ok folded ∧ folded.dataName = "orders" ∧
      ∀ w ∈ writtenValues takings, ∀ a ∈ w.expression.aggregates,
        w.rootOf? a = some folded.dataName := by
  have ran : fold orders takings = .ok _ := rfl
  obtain ⟨leading,-,agrees,-⟩ := (fold_over_leading ran).1 (.inr rfl)
  refine ⟨_,ran,rfl,agrees.mpr ?_⟩
  decide

def traffic : Expr :=
  .add (.count (.ref "orders")) (.count (.ref "returns"))

theorem returns_counted_as_orders :
    aggregateRoots traffic = ["orders","returns"] ∧
    ∃ folded, fold orders traffic = .ok folded ∧ folded.mode = .value ∧
      folded.dataName = "orders" ∧
      folded.applies.map (·.expression) = [.add (.count (.ref "orders")) (.count (.ref "orders"))] :=
  ⟨rfl,_,rfl,rfl,rfl,rfl⟩

end Shop

end OlapQuery
