import OlapQuery.Plan
import OlapQuery.Proofs.Checked
import OlapQuery.Proofs.FoldRun

-- What a plan asks of the engine, before it is written as text, and how many rows it lets the
-- engine return.

namespace OlapQuery

open Compiled

namespace Sql.Planner

def grouped (p : Planner) (keys : List (String × Expr)) : Compiled Select := do
  let keyColumns ← (keys.map p.groupedKey).mapM p.column
  let applyColumns ← (inlineApplies p.folded.applies keys).mapM p.column
  let base ← p.base
  return { base with
    columns := keyColumns ++ applyColumns
    groupBy := (List.range keys.length).map (fun i => toString (i + 1)) }

def splitStatement (p : Planner) (keys : List (String × Expr)) : Compiled Select := do
  let select ← p.grouped keys
  match keys.filterMap p.clientKey? with
  | [] =>
      let having ← p.havingText (inlineApplies p.folded.applies keys ++ keys)
      return { select with having,orderBy := orderBy p.folded.sort,limit := p.folded.limit }
  | _ => return select

def statement (p : Planner) : Compiled Select :=
  match p.folded.mode with
  | .raw => do
      let base ← p.base
      return { base with
        columns := p.dataset.attributes.map (fun a => { sql := p.renderer.identifier a.name })
        orderBy := orderBy p.folded.sort
        limit := p.folded.limit }
  | .split =>
      match p.folded.split with
      | none => Compiled.unsupported "split mode without keys"
      | some split => p.splitStatement split.keys
  | _ => do
      let columns ← (inlineApplies p.folded.applies []).mapM p.column
      let base ← p.base
      return { base with columns }

-- A plan that leaves keys, and with them merging, sorting and limiting, to the client.
structure Shared (p : Planner) (plan : Plan) (keys : List (String × Expr)) (select : Select) :
    Prop where
  grouped : p.grouped keys = .ok select
  keyed : keys.filterMap p.clientKey? ≠ []
  unfiltered : p.folded.having = none
  merges : ∃ merges, (p.folded.applies.mapM fun a => do return (a.name,← merge a.expression))
    = .ok merges ∧ plan.merges = .ofList merges
  clientKeys : plan.clientKeys = keys.filterMap p.clientKey?
  clientSort : plan.clientSort = p.folded.sort
  clientLimit : plan.clientLimit = p.folded.limit

structure Alone (plan : Plan) : Prop where
  clientKeys : plan.clientKeys = []
  clientSort : plan.clientSort = none

theorem split_cases {p : Planner} {plan : Plan} {keys : List (String × Expr)} {dataName : String}
    (keyed : p.folded.split = some { keys,dataName }) (ran : p.split = .ok plan) :
    ∃ select, p.splitStatement keys = .ok select ∧ plan.sql = p.text select ∧
      (Alone plan ∨ p.Shared plan keys select) := by
  unfold split at ran
  rw [keyed] at ran
  obtain ⟨keyColumns,first,ran⟩ := bind_ok.mp ran
  obtain ⟨applyColumns,second,ran⟩ := bind_ok.mp ran
  obtain ⟨base,third,ran⟩ := bind_ok.mp ran
  have select : p.grouped keys = .ok { base with
      columns := keyColumns ++ applyColumns
      groupBy := (List.range keys.length).map (fun i => toString (i + 1)) } := by
    refine bind_ok.mpr ⟨_,first,bind_ok.mpr ⟨_,second,bind_ok.mpr ⟨_,third,rfl⟩⟩⟩
  dsimp only at ran
  split at ran
  · rename_i none
    obtain ⟨having,filtered,ran⟩ := bind_ok.mp ran
    cases pure_ok.mp ran
    refine ⟨_,bind_ok.mpr ⟨_,select,?_⟩,rfl,.inl ⟨rfl,rfl⟩⟩
    rw [none]
    exact bind_ok.mpr ⟨_,filtered,rfl⟩
  · rename_i found nonempty
    unfold clientSide at ran
    split at ran
    · obtain ⟨_,refused,-⟩ := bind_ok.mp ran
      exact absurd refused throw_ok
    · rename_i unfiltered
      obtain ⟨merges,merged,ran⟩ := bind_ok.mp ran
      cases pure_ok.mp ran
      refine ⟨_,bind_ok.mpr ⟨_,select,?_⟩,rfl,.inr ⟨select,nonempty,?_,⟨merges,merged,rfl⟩,rfl,rfl,rfl⟩⟩
      · split
        · rename_i none
          exact absurd none nonempty
        · rfl
      · simpa using unfiltered

theorem plan_cases {p : Planner} {plan : Plan} (ran : p.plan = .ok plan) :
    ∃ select, p.statement = .ok select ∧ plan.sql = p.text select ∧
      (Alone plan ∨ ∃ keys, p.folded.splitKeys = keys ∧ p.Shared plan keys select) := by
  unfold Planner.plan at ran
  split at ran
  · rename_i mode
    obtain ⟨base,found,ran⟩ := bind_ok.mp ran
    cases pure_ok.mp ran
    refine ⟨_,?_,rfl,.inl ⟨rfl,rfl⟩⟩
    simp only [statement,mode]
    exact bind_ok.mpr ⟨_,found,rfl⟩
  · rename_i mode
    cases keyed : p.folded.split with
    | none =>
        simp only [split,keyed] at ran
        exact absurd ran unsupported_ok
    | some s =>
        obtain ⟨select,written,text,rest⟩ := split_cases keyed ran
        refine ⟨select,?_,text,rest.imp_right fun shared => ⟨s.keys,?_,shared⟩⟩
        · simp only [statement,mode,keyed]
          exact written
        · rw [FoldedQuery.splitKeys,keyed]
  · rename_i raw split
    obtain ⟨columns,first,ran⟩ := bind_ok.mp ran
    obtain ⟨base,second,ran⟩ := bind_ok.mp ran
    cases pure_ok.mp ran
    refine ⟨_,?_,rfl,.inl ⟨rfl,rfl⟩⟩
    unfold statement
    split
    · rename_i mode
      exact absurd mode raw
    · rename_i mode
      exact absurd mode split
    · exact bind_ok.mpr ⟨_,first,bind_ok.mpr ⟨_,second,rfl⟩⟩

theorem base_only {p : Planner} {base : Select} (ran : p.base = .ok base) :
    ∃ condition, base = { source := some (.parse p.dataset.source),condition } := by
  obtain ⟨time,-,ran⟩ := bind_ok.mp ran
  dsimp only at ran
  split at ran
  · cases pure_ok.mp ran
    split <;> exact ⟨_,rfl⟩
  · obtain ⟨rest,-,ran⟩ := bind_ok.mp ran
    cases pure_ok.mp ran
    split <;> exact ⟨_,rfl⟩

theorem base_plain {p : Planner} {base : Select} (ran : p.base = .ok base) :
    base.orderBy = [] ∧ base.limit = none ∧ base.offset = none := by
  obtain ⟨condition,rfl⟩ := base_only ran
  exact ⟨rfl,rfl,rfl⟩

theorem grouped_plain {p : Planner} {keys : List (String × Expr)} {select : Select}
    (ran : p.grouped keys = .ok select) :
    select.orderBy = [] ∧ select.limit = none ∧ select.offset = none := by
  obtain ⟨keyColumns,-,ran⟩ := bind_ok.mp ran
  obtain ⟨applyColumns,-,ran⟩ := bind_ok.mp ran
  obtain ⟨base,found,ran⟩ := bind_ok.mp ran
  cases pure_ok.mp ran
  exact @base_plain p base found

end Sql.Planner

namespace Druid.Planner

-- The filter is taken apart first: ranges of time become the intervals, the rest is built.
theorem make_cases {dataset : Dataset} {folded : FoldedQuery} {p : Planner}
    (ran : make dataset folded = .ok p) :
    ∃ time filter, TimeFilter.lift folded.filter dataset.timeAttribute = .ok time ∧
      time = TimeFilter.split folded.filter dataset.timeAttribute ∧
      ({ dataset,place := .query } : FilterBuilder).build time.rest = .ok filter ∧
      p = { dataset,folded,intervals := .ofList (intervalTexts time.intervals),filter
            aggregates := .collect folded.applies } := by
  obtain ⟨time,lifted,ran⟩ := bind_ok.mp ran
  obtain ⟨filter,built,ran⟩ := bind_ok.mp ran
  have goes := Checked.raise_ok.mp lifted
  exact ⟨time,filter,goes,TimeFilter.lift_split goes,built,(pure_ok.mp ran).symm⟩

theorem make_parts {dataset : Dataset} {folded : FoldedQuery} {p : Planner}
    (ran : make dataset folded = .ok p) :
    p.dataset = dataset ∧ p.folded = folded ∧ p.aggregates = .collect folded.applies := by
  obtain ⟨_,_,-,-,-,rfl⟩ := make_cases ran
  exact ⟨rfl,rfl,rfl⟩

-- What a plan can be, and what it leaves to the client.
inductive Planned (p : Planner) (plan : Plan) : Prop where
  | selected (mode : p.folded.mode = .raw) (query : plan.query = .select q)
      (threshold : q.threshold = p.folded.limit.getD selectThreshold)
      (clientSort : plan.clientSort = p.folded.sort) (clientLimit : plan.clientLimit = none)
  | bucketed (mode : p.folded.mode = .split) (query : plan.query = .timeseries q)
      (clientSort : plan.clientSort = p.folded.sort) (clientLimit : plan.clientLimit = p.folded.limit)
  | ranked (mode : p.folded.mode = .split) (query : plan.query = .topN q)
      (threshold : q.threshold = p.folded.limit.getD topNThreshold)
      (clientSort : plan.clientSort = none) (clientLimit : plan.clientLimit = none)
  | grouped (mode : p.folded.mode = .split) (query : plan.query = .groupBy q)
      (limit : q.limitSpec.limit = p.folded.limit.getD groupByLimit)
      (clientSort : plan.clientSort = none) (clientLimit : plan.clientLimit = none)
  | bounded (rows : p.folded.mode ≠ .raw) (split : p.folded.mode ≠ .split)
      (found : p.timeBoundary? = some plan)
  | totalled (rows : p.folded.mode ≠ .raw) (split : p.folded.mode ≠ .split)
      (query : plan.query = .timeseries q)
      (clientSort : plan.clientSort = none) (clientLimit : plan.clientLimit = none)

section Made

variable {p : Planner} {plan : Plan}

theorem totals_made (ran : p.totals = .ok plan) :
    ∃ found posts, aggregations p.dataset p.aggregates = .ok found ∧
      postAggregations p.aggregates = .ok posts ∧
      plan = { query := .timeseries {
        scan := p.scan .all,aggregations := found,postAggregations := posts
        context := p.context } } := by
  obtain ⟨found,first,ran⟩ := bind_ok.mp ran
  obtain ⟨posts,second,ran⟩ := bind_ok.mp ran
  exact ⟨found,posts,first,second,(pure_ok.mp ran).symm⟩

theorem timeseries_made {name : String} {duration : Time.Duration} {zone : Option Time.Zone}
    (ran : p.timeseries name duration zone = .ok plan) :
    ∃ found posts granularity, aggregations p.dataset p.aggregates = .ok found ∧
      postAggregations p.aggregates = .ok posts ∧ period duration zone = .ok granularity ∧
      plan = { query := .timeseries {
                 scan := p.scan granularity,aggregations := found,postAggregations := posts
                 context := some p.bucketContext }
               timestampKey := some name,clientSort := p.folded.sort
               clientLimit := p.folded.limit } := by
  obtain ⟨found,first,ran⟩ := bind_ok.mp ran
  obtain ⟨posts,second,ran⟩ := bind_ok.mp ran
  obtain ⟨granularity,third,ran⟩ := bind_ok.mp ran
  exact ⟨found,posts,granularity,first,second,third,(pure_ok.mp ran).symm⟩

theorem topN_made {name : String} {key : Expr} (ran : p.topN name key = .ok plan) :
    ∃ found posts source, aggregations p.dataset p.aggregates = .ok found ∧
      postAggregations p.aggregates = .ok posts ∧ DimensionSource.ofExpr p.dataset key = .ok source ∧
      plan = { query := .topN {
        scan := p.scan .all,dimension := source.named name,metric := p.topNMetric name key
        threshold := p.folded.limit.getD topNThreshold,aggregations := found
        postAggregations := posts,context := p.context } } := by
  obtain ⟨found,first,ran⟩ := bind_ok.mp ran
  obtain ⟨posts,second,ran⟩ := bind_ok.mp ran
  obtain ⟨source,third,ran⟩ := bind_ok.mp ran
  exact ⟨found,posts,source,first,second,third,(pure_ok.mp ran).symm⟩

theorem groupBy_made {keys : List (String × Expr)} {having : Option HavingSpec}
    (ran : p.groupBy keys having = .ok plan) :
    ∃ found posts granularity dimensions, aggregations p.dataset p.aggregates = .ok found ∧
      postAggregations p.aggregates = .ok posts ∧ p.liftedGranularity keys = .ok granularity ∧
      p.dimensions (keys.filter fun key => (p.liftedBucket? keys).map (·.1) != some key.1)
        = .ok dimensions ∧
      plan = { query := .groupBy {
                 scan := p.scan granularity,dimensions,aggregations := found
                 postAggregations := posts,having
                 limitSpec := { limit := p.folded.limit.getD groupByLimit
                                columns := p.orderColumns keys dimensions }
                 context := p.context }
               timestampKey := (p.liftedBucket? keys).map (·.1) } := by
  obtain ⟨found,first,ran⟩ := bind_ok.mp ran
  obtain ⟨posts,second,ran⟩ := bind_ok.mp ran
  obtain ⟨granularity,third,ran⟩ := bind_ok.mp ran
  obtain ⟨dimensions,fourth,ran⟩ := bind_ok.mp ran
  exact ⟨found,posts,granularity,dimensions,first,second,third,fourth,(pure_ok.mp ran).symm⟩

end Made

theorem topN_planned {p : Planner} {plan : Plan} {name : String} {key : Expr}
    (mode : p.folded.mode = .split) (ran : p.topN name key = .ok plan) : p.Planned plan := by
  obtain ⟨_,_,_,-,-,-,rfl⟩ := topN_made ran
  exact .ranked mode rfl rfl rfl rfl

theorem groupBy_planned {p : Planner} {plan : Plan} {keys : List (String × Expr)}
    {having : Option HavingSpec} (mode : p.folded.mode = .split)
    (ran : p.groupBy keys having = .ok plan) : p.Planned plan := by
  obtain ⟨_,_,_,_,-,-,-,-,rfl⟩ := groupBy_made ran
  exact .grouped mode rfl rfl rfl rfl

theorem plan_planned {p : Planner} {plan : Plan} (ran : p.plan = .ok plan) : p.Planned plan := by
  unfold Planner.plan at ran
  split at ran
  · rename_i mode
    unfold select at ran
    split at ran
    · exact absurd ran unsupported_ok
    · cases ran
      exact .selected mode rfl rfl rfl rfl
  · rename_i mode
    unfold Planner.split at ran
    split at ran
    · exact absurd ran unsupported_ok
    · obtain ⟨having,-,ran⟩ := bind_ok.mp ran
      unfold splitWith at ran
      split at ran
      · exact groupBy_planned mode ran
      · split at ran
        · split at ran
          · cases ran
          · obtain ⟨_,_,_,-,-,-,rfl⟩ := timeseries_made ran
            exact .bucketed mode rfl rfl rfl
        · split at ran
          · exact topN_planned mode ran
          · exact groupBy_planned mode ran
  · rename_i rows split
    split at ran
    · rename_i found
      cases ran
      exact .bounded rows split found
    · obtain ⟨_,_,-,-,rfl⟩ := totals_made ran
      exact .totalled rows split rfl rfl rfl

theorem timeBoundary_made {p : Planner} {plan : Plan} (found : p.timeBoundary? = some plan) :
    ∃ q renames, boundaryRenames? p.dataset p.folded.applies [] = some renames ∧
      plan = { query := .timeBoundary q,renames } := by
  unfold timeBoundary? at found
  split at found
  · cases found
  · obtain ⟨renames,named,made⟩ := Option.bind_eq_some_iff.mp found
    cases made
    exact ⟨_,renames,named,rfl⟩

end Druid.Planner

inductive Statement where
  | druid (query : Druid.Query)
  | sql (dialect : Sql.Dialect) (select : Sql.Select)

namespace Statement

def native : Statement → NativeQuery
  | .druid query => .druid query
  | .sql dialect select => .sql (select.text dialect)

def cap : Statement → Option UInt64
  | .druid (.timeseries _) => none
  | .druid (.topN q) => some q.threshold
  | .druid (.groupBy q) => some q.limitSpec.limit
  | .druid (.select q) => some q.threshold
  | .druid (.timeBoundary _) => none
  | .sql _ select => select.limit

def isSelect : Statement → Bool
  | .druid (.select _) => true
  | _ => false

end Statement

def planStatement (dataset : Dataset) (folded : FoldedQuery) : Compiled Statement :=
  match dataset.engine with
  | .druid => do return .druid (← Druid.plan dataset folded).query
  | _ =>
      match dataset.sqlDialect? with
      | none => .error (.refused (.invalidConfig (dataset.engine.name ++ " has no SQL dialect")))
      | some dialect => do
          let planner : Sql.Planner := { renderer := { dialect,dataset },folded }
          return .sql dialect (← planner.statement)

end OlapQuery
