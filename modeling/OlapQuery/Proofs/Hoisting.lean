import OlapQuery.Proofs.Definitions
import OlapQuery.Proofs.Nesting
import OlapQuery.Proofs.PlainRows

-- Filters that all aggregates of a query have are taken out of them and become filters of the
-- query. Each aggregate is then over the rows it was over before: those that its own filters
-- choose, which are the filters of the name it was written with and those written with it.

namespace OlapQuery

namespace Expr

-- The dataset an aggregate is over: a name and the filters in the order written.
def aggregateChain? (a : Expr) : Option (String × List Expr) :=
  a.aggregateOperand?.bind datasetChain?

theorem aggregateFilters_chain {a : Expr} {chain : String × List Expr}
    (found : a.aggregateChain? = some chain) : a.aggregateFilters? = some chain.2 := by
  rw [aggregateChain?] at found
  simp [aggregateFilters?,found]

theorem datasetChain_underFilters (root : String) (filters : List Expr) :
    (underFilters root filters).datasetChain? = some (root,filters) := by
  induction filters using List.reverseRecOn with
  | nil => rfl
  | append_singleton before condition ih =>
      have last : underFilters root (before ++ [condition])
          = .filter (underFilters root before) condition := by
        simp [underFilters]
      simp [last,datasetChain?,ih]

theorem isAggregate_withAggregateOperand (a dataset : Expr) :
    (a.withAggregateOperand dataset).isAggregate = a.isAggregate := by
  unfold withAggregateOperand
  split
  · split <;> rfl
  · split <;> rfl
  · rfl

theorem operand_withAggregateOperand {a : Expr} (outermost : a.isAggregate = true) (dataset : Expr) :
    (a.withAggregateOperand dataset).aggregateOperand? = some dataset := by
  cases a with
  | unary op e =>
      have aggregate : op.isAggregate = true := outermost
      simp [withAggregateOperand,aggregateOperand?,aggregate]
  | binary op e x =>
      have aggregate : op.isAggregate = true := outermost
      simp [withAggregateOperand,aggregateOperand?,aggregate]
  | _ => cases outermost

theorem expanded_operand {a expansion dataset : Expr} (expands : a.expandAggregate? = some expansion)
    (taken : a.aggregateOperand? = some dataset) :
    ∀ b ∈ expansion.aggregates, b.aggregateOperand? = some dataset := by
  have columns : ∀ {op : BinaryOp} {e x y : Expr}, op.isAggregate = false →
      ∀ b ∈ (Expr.binary op (.sum e x) (.sum e y)).aggregates, b.aggregateOperand? = some e := by
    intro op e x y plain b member
    have sums : b = .sum e x ∨ b = .sum e y := by
      have aggregate : BinaryOp.sum.isAggregate = true := rfl
      simpa [aggregates,plain,aggregate] using member
    rcases sums with rfl | rfl <;> rfl
  unfold expandAggregate? at expands
  split at expands
  · rename_i x
    cases expands; cases taken
    intro b member
    have parts : b = .sum dataset x ∨ b = .count dataset := by
      simpa [aggregates,BinaryOp.isAggregate,UnaryOp.isAggregate] using member
    rcases parts with rfl | rfl <;> rfl
  · split at expands
    · cases expands; cases taken; exact columns rfl
    · cases expands
  · split at expands
    · cases expands; cases taken; exact columns rfl
    · cases expands
  · cases expands

-- One aggregate resolved: put over its root dataset, where the filters of the name come first and
-- then its own, and turned into arithmetic if it can be.
theorem resolveAggregate_normal {resolve : String → Compiled (String × List Expr)} {a image : Expr}
    (ran : resolveAggregate resolve a = .ok image) :
    ∃ name own root filters, a.isAggregate = true ∧ a.aggregateChain? = some (name,own) ∧
      resolve name = .ok (root,filters) ∧
      image = (a.withAggregateOperand (underFilters root (filters ++ own))).expandAggregate?.getD
        (a.withAggregateOperand (underFilters root (filters ++ own))) := by
  unfold resolveAggregate at ran
  split at ran
  · exact absurd ran Compiled.unsupported_ok
  · rename_i operand taken
    split at ran
    · exact absurd ran Compiled.unsupported_ok
    · rename_i name own chain
      obtain ⟨⟨root,filters⟩,resolves,ran⟩ := Compiled.bind_ok.mp ran
      have outermost : a.isAggregate = true := by
        cases a with
        | unary op e => exact (Option.ite_none_right_eq_some.mp taken).1
        | binary op e x => exact (Option.ite_none_right_eq_some.mp taken).1
        | _ => cases taken
      exact ⟨name,own,root,filters,outermost,by simp [aggregateChain?,taken,chain],resolves,
        (Compiled.pure_ok.mp ran).symm⟩

theorem resolveAggregate_parts {resolve : String → Compiled (String × List Expr)} {a image : Expr}
    (ran : resolveAggregate resolve a = .ok image) :
    ∃ (name : String) (own : List Expr) (root : String) (filters : List Expr) (normal : Expr),
      a.aggregateChain? = some (name,own) ∧
      resolve name = .ok (root,filters) ∧ normal.isAggregate = true ∧
      normal.aggregateOperand? = some (underFilters root (filters ++ own)) ∧
      image = normal.expandAggregate?.getD normal := by
  obtain ⟨name,own,root,filters,outermost,chain,resolves,whole⟩ := resolveAggregate_normal ran
  refine ⟨name,own,root,filters,_,chain,resolves,?_,?_,whole⟩
  · rw [isAggregate_withAggregateOperand]; exact outermost
  · exact operand_withAggregateOperand outermost _

theorem resolveAggregate_chain {resolve : String → Compiled (String × List Expr)} {a image : Expr}
    (ran : resolveAggregate resolve a = .ok image) :
    ∃ name own root filters, a.aggregateChain? = some (name,own) ∧
      resolve name = .ok (root,filters) ∧
      ∀ b ∈ image.aggregates, b.aggregateChain? = some (root,filters ++ own) := by
  obtain ⟨name,own,root,filters,normal,chain,resolves,outermost,taken,rfl⟩ :=
    resolveAggregate_parts ran
  refine ⟨name,own,root,filters,chain,resolves,fun b member => ?_⟩
  have same : b.aggregateOperand? = some (underFilters root (filters ++ own)) := by
    cases expands : normal.expandAggregate? with
    | some expansion =>
        rw [expands] at member
        exact expanded_operand expands taken b member
    | none =>
        rw [expands,Option.getD_none,aggregates_self outermost] at member
        cases List.mem_singleton.mp member
        exact taken
  rw [aggregateChain?,same]
  exact datasetChain_underFilters _ _

theorem resolveAggregates_chain {resolve : String → Compiled (String × List Expr)}
    {e resolved : Expr} {expanded : Bool}
    (ran : e.resolveAggregates resolve = .ok (resolved,expanded)) :
    ∀ b ∈ resolved.aggregates, ∃ a ∈ e.aggregates, ∃ name own root filters,
      a.aggregateChain? = some (name,own) ∧ resolve name = .ok (root,filters) ∧
      b.aggregateChain? = some (root,filters ++ own) := by
  obtain ⟨e',mapped,ran⟩ := Compiled.bind_ok.mp ran
  cases Compiled.pure_ok.mp ran
  obtain ⟨images,each,own,-⟩ := (mapAggregatesM_compiled mapped).brought
  simp only [List.flatMap_singleton] at each own
  intro b member
  rw [own] at member
  obtain ⟨image,later,inside⟩ := List.mem_flatMap.mp member
  obtain ⟨a,found,ran⟩ := related_source each later
  obtain ⟨name,own,root,filters,chain,resolves,taken⟩ := resolveAggregate_chain ran
  exact ⟨a,found,name,own,root,filters,chain,resolves,taken b inside⟩

theorem aggregates_collapse (dataName : String) (common : List Expr) (e : Expr) :
    (e.collapseAggregates dataName common).aggregates
      = e.aggregates.map (collapseAggregate dataName common) := by
  obtain ⟨images,each,own,-⟩ := (mapAggregates_upTo (collapseAggregate dataName common) e).brought
  simp only [List.flatMap_singleton] at each own
  have whole : images = e.aggregates.map (collapseAggregate dataName common) := by
    have pointwise := List.forall₂_map_left_iff.mpr (each.imp fun _ _ equal => equal.symm)
    exact (List.forall₂_eq_eq_eq ▸ pointwise).symm
  have single : ∀ b ∈ images, b.aggregates = [b] := by
    intro b member
    obtain ⟨a,found,rfl⟩ := related_source each member
    apply aggregates_self
    rw [collapseAggregate,isAggregate_withAggregateOperand]
    exact (aggregates_nodes found).2
  rw [collapseAggregates,own,List.flatMap_congr single,List.flatMap_singleton',whole]

theorem commonFilters_own {es : List Expr} {a : Expr} {filters : List Expr}
    (member : a ∈ es.flatMap aggregates) (own : a.aggregateFilters? = some filters) :
    ∀ c ∈ commonFilters es, ∃ f ∈ filters, f = c ∨ f.same c = true := by
  have listed : filters ∈ (es.flatMap aggregates).filterMap aggregateFilters? :=
    List.mem_filterMap.mpr ⟨a,member,own⟩
  intro c common
  unfold commonFilters at common
  split at common
  · cases common
  · rename_i first others found
    obtain ⟨early,all⟩ := List.mem_filter.mp common
    rw [found] at listed
    rcases List.mem_cons.mp listed with rfl | later
    · exact ⟨c,early,.inl rfl⟩
    · obtain ⟨f,inside,alike⟩ := List.any_eq_true.mp (List.all_eq_true.mp all filters later)
      exact ⟨f,inside,.inr alike⟩

-- One aggregate before and after the common filters are taken out of it. The rows that all its
-- filters choose are those that the common filters and the kept ones choose; the kept ones are
-- what stands over its dataset then, and nothing else about it has changed.
structure Hoisted (holds : ρ → Expr → Prop) (dataName : String) (common : List Expr)
    (a b : Expr) (own kept : List Expr) : Prop where
  attached : a.aggregateFilters? = some own
  taken : b = a.withAggregateOperand (filteredDataset dataName kept)
  left : ∃ filters, b.aggregateFilters? = some filters ∧ Equivalent.{u} filters kept
  rows : ∀ row, (∀ f ∈ own, holds row f) ↔
    (∀ f ∈ common, holds row f) ∧ ∀ f ∈ kept, holds row f

theorem filteredDataset_chain (name : String) (filters : List Expr) :
    ∃ conditions, (filteredDataset name filters).datasetChain? = some (name,conditions) ∧
      Equivalent.{u} conditions filters := by
  unfold filteredDataset
  dsimp only
  split
  · rename_i truth; exact ⟨[],rfl,.of_true truth⟩
  · exact ⟨[andAll filters],rfl,.andAll filters⟩

theorem collapseAggregate_hoisted {holds : ρ → Expr → Prop}
    (alike : ∀ row a b, Expr.same a b = true → (holds row a ↔ holds row b)) (dataName : String)
    {es : List Expr} {a : Expr} {own : List Expr} (member : a ∈ es.flatMap aggregates)
    (attached : a.aggregateFilters? = some own) :
    Hoisted.{u} holds dataName (commonFilters es) a
      (collapseAggregate dataName (commonFilters es) a) own
      (own.filter fun f => !hasClause (commonFilters es) f) := by
  have outermost : a.isAggregate = true := by
    obtain ⟨e,-,inside⟩ := List.mem_flatMap.mp member
    exact (aggregates_nodes inside).2
  have taken : collapseAggregate dataName (commonFilters es) a = a.withAggregateOperand
      (filteredDataset dataName (own.filter fun f => !hasClause (commonFilters es) f)) := by
    simp [collapseAggregate,attached]
  refine ⟨attached,taken,?_,fun row => ⟨fun all => ⟨?_,?_⟩,?_⟩⟩
  · obtain ⟨conditions,chain,same⟩ := filteredDataset_chain.{u} dataName
      (own.filter fun f => !hasClause (commonFilters es) f)
    refine ⟨conditions,?_,same⟩
    rw [taken,aggregateFilters?,operand_withAggregateOperand outermost]
    simp [chain]
  · intro c common
    obtain ⟨f,inside,rfl | same⟩ := commonFilters_own member attached c common
    · exact all f inside
    · exact (alike row f c same).mp (all f inside)
  · intro f kept; exact all f (List.mem_filter.mp kept).1
  -- A filter that is not kept is there among the common ones.
  · rintro ⟨common,kept⟩ f inside
    cases dropped : hasClause (commonFilters es) f with
    | true =>
        obtain ⟨c,member,same⟩ := List.any_eq_true.mp dropped
        exact (alike row c f same).mp (common c member)
    | false => exact kept f (List.mem_filter.mpr ⟨inside,by simp [dropped]⟩)

end Expr

namespace Fold
open Compiled

def writtenValues (e : Expr) : List Written :=
  if e.isDatasetOp then Step.written Step.total? [] e.chainSteps
  else [{ earlier := [],name := valueName,expression := e }]

-- The same with the aggregates resolved, before the filters they share are taken out.
def resolvedApplies (dataset : Dataset) (e : Expr) : Compiled (List Apply) :=
  if e.isDatasetOp then do
    let t ← e.chainSteps.foldlM totalsStep { scope := { dataset,datasets := e.datasets } }
    return t.applies
  else do
    let (resolved,expanded) ← e.resolveAggregates (fun root => .ok (root,[]))
    return [{ name := valueName,expression := resolved,expanded }]

-- The folded query is made from the resolved values.
structure Collapsed (dataset : Dataset) (resolved : List Apply) (folded : FoldedQuery) : Prop where
  filter : folded.filter
    = queryFilter dataset (Expr.commonFilters (resolved.map (·.expression)))
  applies : folded.applies = resolved.map fun a => { a with
    expression := a.expression.collapseAggregates folded.dataName
      (Expr.commonFilters (resolved.map (·.expression))) }

theorem fold_resolved {dataset : Dataset} {e : Expr} {folded : FoldedQuery}
    (ran : fold dataset e = .ok folded) (single : folded.mode = .value ∨ folded.mode = .total) :
    ∃ resolved, resolvedApplies dataset e = .ok resolved ∧ Collapsed dataset resolved folded ∧
      ∀ a ∈ resolved, ∃ w ∈ writtenValues e, w.Defines totalsRoot id a := by
  rcases fold_cases ran with ⟨flat,value⟩ | ⟨chain,base,totals⟩ | ⟨chain,root,base,rows⟩
  · obtain ⟨resolved,expanded,resolves,rfl⟩ := value_parts value
    refine ⟨[{ name := valueName,expression := resolved,expanded }],?_,⟨rfl,rfl⟩,?_⟩
    · rw [resolvedApplies,if_neg (by simp [flat])]
      exact bind_ok.mpr ⟨(resolved,expanded),resolves,rfl⟩
    · intro a member
      cases List.mem_singleton.mp member
      have whole : writtenValues e = [{ earlier := [],name := valueName,expression := e }] := by
        rw [writtenValues,if_neg (by simp [flat])]
      rw [whole]
      exact ⟨_,List.mem_singleton_self _,rfl,resolved,resolves,rfl⟩
  · obtain ⟨t,run,rfl⟩ := totals_parts totals
    refine ⟨t.applies,?_,⟨rfl,rfl⟩,?_⟩
    · rw [resolvedApplies,if_pos chain]
      exact bind_ok.mpr ⟨t,run,rfl⟩
    · obtain ⟨definitions,settled,each⟩ := totals_defined run
      intro a member
      rw [settled] at member
      rw [writtenValues,if_pos chain]
      exact Expr.related_source each (settle_source member)
  · obtain ⟨q,run,rfl⟩ := rows_parts rows
    cases found : q.split <;> simp [found] at single

end Fold

open OlapQuery.Expr

-- Taking shared filters out of the aggregates of a value or of totals changes the rows of none of
-- them. What an aggregate starts with are the filters of the name it is written over, as that
-- name stands there, and then its own.
theorem hoisting_keeps_rows {holds : ρ → Expr → Prop}
    (alike : ∀ row a b, Expr.same a b = true → (holds row a ↔ holds row b))
    {dataset : Dataset} {e : Expr} {folded : FoldedQuery} (ran : fold dataset e = .ok folded)
    (single : folded.mode = .value ∨ folded.mode = .total) :
    ∃ resolved, Fold.resolvedApplies dataset e = .ok resolved ∧
      (∀ apply ∈ resolved, ∃ w ∈ Fold.writtenValues e, w.name = apply.name ∧
        ∀ a ∈ apply.expression.aggregates, ∃ b ∈ w.expression.aggregates, ∃ name own,
          b.aggregateChain? = some (name,own) ∧
          a.aggregateFilters? = some ((Step.inForce w.earlier name).2 ++ own)) ∧
      folded.filter = queryFilter dataset (commonFilters (resolved.map (·.expression))) ∧
      List.Forall₂
        (fun a b => ∃ own kept, Hoisted.{u} holds folded.dataName
          (commonFilters (resolved.map (·.expression))) a b own kept)
        ((resolved.map (·.expression)).flatMap aggregates)
        ((folded.applies.map (·.expression)).flatMap aggregates) := by
  obtain ⟨resolved,resolves,collapsed,origins⟩ := Fold.fold_resolved ran single
  have attached : ∀ apply ∈ resolved, ∃ w ∈ Fold.writtenValues e, w.name = apply.name ∧
      ∀ a ∈ apply.expression.aggregates, ∃ b ∈ w.expression.aggregates, ∃ name own,
        b.aggregateChain? = some (name,own) ∧
        a.aggregateFilters? = some ((Step.inForce w.earlier name).2 ++ own) := by
    intro apply member
    obtain ⟨w,written,named,e',ran,equal⟩ := origins apply member
    refine ⟨w,written,named.symm,?_⟩
    rw [equal]
    intro a inside
    obtain ⟨b,found,name,own,root,filters,chain,stands,taken⟩ := resolveAggregates_chain ran a inside
    have stands : Step.inForce w.earlier name = (root,filters) := Except.ok.inj stands
    exact ⟨b,found,name,own,chain,stands ▸ aggregateFilters_chain taken⟩
  refine ⟨resolved,resolves,attached,collapsed.filter,?_⟩
  have images : (folded.applies.map (·.expression)).flatMap aggregates
      = ((resolved.map (·.expression)).flatMap aggregates).map
        (collapseAggregate folded.dataName (commonFilters (resolved.map (·.expression)))) := by
    rw [collapsed.applies]
    simp only [List.flatMap_map,List.map_flatMap,List.map_map,Function.comp_apply,
      aggregates_collapse]
  rw [images,List.forall₂_map_right_iff]
  refine List.forall₂_same.mpr fun a member => ?_
  obtain ⟨value,listed,inside⟩ := List.mem_flatMap.mp member
  obtain ⟨apply,written,rfl⟩ := List.mem_map.mp listed
  obtain ⟨w,-,-,chains⟩ := attached apply written
  obtain ⟨b,-,name,own,-,filters⟩ := chains a inside
  exact ⟨_,_,collapseAggregate_hoisted alike folded.dataName member filters⟩

namespace Pages

def edits : Dataset :=
  { engine := .druid,source := "edits",
    attributes := [{ name := "tenant",type := .string },{ name := "page",type := .string },
      { name := "added",type := .number }] }

def is (column text : String) : Expr :=
  .is (.ref column) (.literal (.string text))

def ofTenant : Expr :=
  .apply .ply "data" (.filter (.ref "data") (is "tenant" "a"))

def report : Expr :=
  .apply (.apply ofTenant "Edits" (.count (.ref "data"))) "Added"
    (.sum (.filter (.ref "data") (is "page" "Main")) (.ref "added"))

theorem added_to_a_page :
    ∃ folded, fold edits report = .ok folded ∧ folded.mode = .total ∧
      folded.filter = is "tenant" "a" ∧
      ∃ own kept, Hoisted.{0} Plain.reading.holds "data" [is "tenant" "a"]
        (.sum (.filter (.filter (.ref "data") (is "tenant" "a")) (is "page" "Main")) (.ref "added"))
        (.sum (.filter (.ref "data") (is "page" "Main")) (.ref "added")) own kept := by
  have ran : fold edits report = .ok _ := rfl
  obtain ⟨resolved,resolves,-,-,each⟩ :=
    hoisting_keeps_rows.{0} Plain.reading.holds_same ran (.inr rfl)
  cases resolves
  cases each with
  | cons first rest =>
      cases rest with
      | cons second last => exact ⟨_,rfl,rfl,rfl,second⟩

end Pages

end OlapQuery
