import OlapQuery.Proofs.ArithmeticNames
import OlapQuery.Proofs.NestedRows
import OlapQuery.Proofs.Statements

-- The names that a Druid query refers to, and those it computes something under. A query is
-- closed if it refers to the latter only. The planner takes names as folding resolved them, where
-- a column of the dataset is as good as an apply, so a query is closed exactly if the names in the
-- arithmetic, in the condition on the rows and in the order of the rows are those of applies, or
-- of keys where these are dimensions of the query.

namespace OlapQuery.Druid

open OlapQuery.Expr AggregateSet

def Aggregation.name? : Aggregation → Option String
  | .count name => some name
  | .field _ name _ => some name
  | .cardinality name _ _ => some name
  | .javascript name _ _ _ _ => some name
  | .filtered name _ _ => some name
  | .custom json => (json.get? "name").bind Json.str?

namespace PostAggregation

def name? : PostAggregation → Option String
  | .arithmetic name _ _ => name
  | .fieldAccess name _ => name
  | .hyperUniqueCardinality name _ => name
  | .constant name _ => name
  | .javascript name _ _ => name

-- The aggregators that it reads.
mutual
def fieldNames : PostAggregation → List String
  | .arithmetic _ _ fields => fieldNamesAll fields
  | .fieldAccess _ fieldName => [fieldName]
  | .hyperUniqueCardinality _ fieldName => [fieldName]
  | .constant _ _ => []
  | .javascript _ fieldNames _ => fieldNames

def fieldNamesAll : List PostAggregation → List String
  | [] => []
  | p :: rest => fieldNames p ++ fieldNamesAll rest
end

@[simp] theorem name_withName (name : String) (p : PostAggregation) :
    (p.withName name).name? = some name := by
  cases p <;> rfl

@[simp] theorem fieldNames_withName (name : String) (p : PostAggregation) :
    (p.withName name).fieldNames = p.fieldNames := by
  cases p <;> simp [withName,fieldNames]

end PostAggregation

-- The aggregators that a condition compares.
mutual
def HavingSpec.names : HavingSpec → List String
  | .greaterThan aggregation _ => [aggregation]
  | .lessThan aggregation _ => [aggregation]
  | .equalTo aggregation _ => [aggregation]
  | .and specs => HavingSpec.namesAll specs
  | .or specs => HavingSpec.namesAll specs
  | .not spec => HavingSpec.names spec

def HavingSpec.namesAll : List HavingSpec → List String
  | [] => []
  | h :: rest => HavingSpec.names h ++ HavingSpec.namesAll rest
end

def TopNMetric.names : TopNMetric → List String
  | .name metric => [metric]
  | .inverted metric => metric.names
  | .alphaNumeric => []
  | .lexicographic => []

def OrderByColumn.column : OrderByColumn → String
  | .name output => output
  | .spec dimension _ _ => dimension

namespace Query

def aggregations : Query → List Aggregation
  | .timeseries q => q.aggregations
  | .topN q => q.aggregations
  | .groupBy q => q.aggregations
  | _ => []

def postAggregations : Query → List PostAggregation
  | .timeseries q => q.postAggregations
  | .topN q => q.postAggregations
  | .groupBy q => q.postAggregations
  | _ => []

def dimensions : Query → List Dimension
  | .topN q => [q.dimension]
  | .groupBy q => q.dimensions
  | _ => []

def ranks : Query → List String
  | .topN q => q.metric.names
  | _ => []

def compared : Query → List String
  | .groupBy q => (q.having.map HavingSpec.names).getD []
  | _ => []

def sorted : Query → List String
  | .groupBy q => q.limitSpec.columns.map OrderByColumn.column
  | _ => []

def aggregated (q : Query) : List String :=
  q.aggregations.filterMap Aggregation.name?

def computed (q : Query) : List String :=
  q.aggregated ++ q.postAggregations.filterMap PostAggregation.name?

structure Closed (q : Query) : Prop where
  fields : ∀ p ∈ q.postAggregations, ∀ name ∈ p.fieldNames, name ∈ q.aggregated
  ranks : ∀ name ∈ q.ranks, name ∈ q.computed
  compared : ∀ name ∈ q.compared, name ∈ q.computed
  sorted : ∀ name ∈ q.sorted, name ∈ q.computed ∨ name ∈ q.dimensions.map (·.outputName)

end Query

-- Names that were made up for a query.
def MadeUp (applies : List Apply) (name : String) : Prop :=
  (∃ k ∈ (collect applies).aggregates, k.synthetic = true ∧ k.name = name) ∨
    ((collect applies).aggregates = [] ∧ name = placeholderName)

def Aggregated (applies : List Apply) (name : String) : Prop :=
  (∃ a ∈ applies, a.expression.isAggregate = true ∧ a.name = name) ∨ MadeUp applies name

-- Names of aggregates and of arithmetic over them.
def Computed (applies : List Apply) (name : String) : Prop :=
  name ∈ applies.map (·.name) ∨ MadeUp applies name

-- What has to hold of the names in a query: those in derived applies are names of aggregates or
-- of earlier derived applies; those in the condition on the rows are names of applies; and so is
-- what the rows are sorted by, unless it is a key other than the timestamp or the client sorts.
structure Covered (q : FoldedQuery) (clientSort : Option SortBy) (timestampKey : Option String) :
    Prop where
  derived : ∀ before a after, derivedOrder q.applies = before ++ a :: after →
    ∀ name ∈ a.expression.namesOutside, Aggregated q.applies name ∨ name ∈ before.map (·.name)
  having : ∀ h, q.having = some h → ∀ name, Mentions name h.expression → Computed q.applies name
  sort : ∀ s, q.sort = some s → clientSort = none → Computed q.applies s.name ∨
    (s.name ∈ q.splitKeys.map (·.1) ∧ timestampKey ≠ some s.name)

theorem ScriptFold.aggregation_name {f : ScriptFold} {name : String} {measure : Expr}
    {x : Aggregation} (ran : f.aggregation name measure = .ok x) : x.name? = some name := by
  obtain ⟨_,_,rest⟩ := Compiled.bind_ok.mp ran
  cases Compiled.pure_ok.mp rest; rfl

namespace Aggregation

theorem ofCustom_name {dataset : Dataset} {name customName : String} {x : Aggregation}
    (ran : ofCustom dataset name customName = .ok x) : x.name? = some name := by
  unfold ofCustom at ran
  split at ran
  · cases ran
  · rename_i fields _
    cases ran
    have found : (Json.obj (Table.insert "name" (.str name) fields)).get? "name"
        = some (.str name) := by
      have inserted := Table.get_insert "name" "name" (Json.str name) fields
      rwa [if_pos rfl] at inserted
    simp [name?,found,Json.str?]
  · cases ran

theorem unfiltered_name {dataset : Dataset} {name : String} {e : Expr} {x : Aggregation}
    (ran : unfiltered dataset name e = .ok x) : x.name? = some name := by
  unfold unfiltered at ran
  split at ran
  · cases ran; rfl
  · obtain ⟨measure,-,rest⟩ := Compiled.bind_ok.mp ran
    cases measure with
    | column column => cases Compiled.pure_ok.mp rest; rfl
    | timestamps => cases rest
    | derived => exact ScriptFold.aggregation_name rest
  · obtain ⟨measure,-,rest⟩ := Compiled.bind_ok.mp ran
    cases measure with
    | column column => cases Compiled.pure_ok.mp rest; rfl
    | timestamps => cases Compiled.pure_ok.mp rest; rfl
    | derived => exact ScriptFold.aggregation_name rest
  · obtain ⟨measure,-,rest⟩ := Compiled.bind_ok.mp ran
    cases measure with
    | column column => cases Compiled.pure_ok.mp rest; rfl
    | timestamps => cases Compiled.pure_ok.mp rest; rfl
    | derived => exact ScriptFold.aggregation_name rest
  · unfold ofCountDistinct at ran
    split at ran
    · split at ran
      · cases ran
      · cases ran
        split <;> rfl
    · cases ran
  · exact ofCustom_name ran
  · cases ran

theorem ofAggregate_name {dataset : Dataset} {a : NamedAggregate} {x : Aggregation}
    (ran : ofAggregate dataset a = .ok x) : x.name? = some a.name := by
  unfold ofAggregate at ran
  split at ran
  · cases ran
  · obtain ⟨aggregator,plain,rest⟩ := Compiled.bind_ok.mp ran
    have named := unfiltered_name plain
    split at rest
    · cases Compiled.pure_ok.mp rest; exact named
    · obtain ⟨filter,-,rest⟩ := Compiled.bind_ok.mp rest
      cases filter with
      | none => cases Compiled.pure_ok.mp rest; exact named
      | some filter => cases Compiled.pure_ok.mp rest; rfl

end Aggregation

theorem names_related {name : α → String} {name? : β → Option String} {as : List α} {bs : List β}
    (each : List.Forall₂ (fun a b => name? b = some (name a)) as bs) :
    bs.filterMap name? = as.map name := by
  induction each with
  | nil => rfl
  | cons first rest ih => simp [first,ih]

theorem aggregations_names {dataset : Dataset} {applies : List Apply} {found : List Aggregation}
    (ran : aggregations dataset (collect applies) = .ok found) (name : String) :
    name ∈ found.filterMap Aggregation.name? ↔ Aggregated applies name := by
  have named := collect_aggregates applies name
  unfold aggregations at ran
  split at ran
  · rename_i none
    cases ran
    rw [none] at named
    have plain : ¬ ∃ a ∈ applies, a.expression.isAggregate = true ∧ a.name = name :=
      fun found => nomatch named.mpr (.inl found)
    simp [Aggregated,MadeUp,none,plain,Aggregation.name?]
  · rename_i some
    have names := names_related ((mapM_ok ran).imp fun _ _ => Aggregation.ofAggregate_name)
    have asks : (collect applies).aggregates ≠ [] := some
    rw [names,named]
    simp [Aggregated,MadeUp,asks]

namespace PostAggregation

theorem script_fields {e : Expr} {p : PostAggregation} (ran : script e = .ok p) (name : String) :
    name ∈ p.fieldNames ↔ Mentions name e := by
  obtain ⟨_,_,rest⟩ := Compiled.bind_ok.mp ran
  cases Compiled.pure_ok.mp rest
  rw [fieldNames,mem_references]

theorem access_fields (set : AggregateSet) (name other : String) :
    other ∈ (access set name).fieldNames ↔ other = name := by
  unfold access
  split <;> simp [fieldNames]

theorem ofExpr_fields {set : AggregateSet} {e : Expr} {p : PostAggregation}
    (ran : ofExpr set e = .ok p) (name : String) : name ∈ p.fieldNames ↔ Mentions name e := by
  induction e using Expr.structural generalizing p with
  | ref other => cases ran; simp [access_fields]
  | literal v =>
      unfold ofExpr at ran
      split at ran
      any_goals (rename_i same; cases same)
      · cases ran; simp [fieldNames]
      · exact script_fields ran name
  | ply => exact script_fields ran name
  | unary op e ih => exact script_fields ran name
  | junction op es ih => exact script_fields ran name
  | split e keys dataName ih others => exact script_fields ran name
  | binary op e x left right =>
      unfold ofExpr at ran
      cases sign : arithmeticSign op with
      | none => rw [sign] at ran; exact script_fields ran name
      | some sign' =>
          rw [sign] at ran
          obtain ⟨l,first,ran⟩ := Compiled.bind_ok.mp ran
          obtain ⟨r,second,ran⟩ := Compiled.bind_ok.mp ran
          cases Compiled.pure_ok.mp ran
          simp [fieldNames,fieldNamesAll,left first,right second]

end PostAggregation

-- The arithmetic that is collected has no aggregates in it, so it reads the names outside of them.
theorem postAggregations_related {applies : List Apply} {posts : List PostAggregation}
    (ran : postAggregations (collect applies) = .ok posts) :
    List.Forall₂ (fun post p => p.name? = some post.name ∧
      ∀ name, name ∈ p.fieldNames ↔ name ∈ post.expression.namesOutside)
      (collect applies).postAggregates posts := by
  have plain := (collect_arithmetic applies).2
  refine forall_related (mapM_ok ran) fun post member p made => ?_
  obtain ⟨bare,ran,made⟩ := Compiled.bind_ok.mp made
  cases Compiled.pure_ok.mp made
  refine ⟨by simp,fun name => ?_⟩
  rw [PostAggregation.fieldNames_withName,PostAggregation.ofExpr_fields ran,
    mentions_outside (plain post member)]

theorem forall_exact {related : α → β → Prop} {left : α → Prop} {right : β → Prop} {as : List α}
    {bs : List β} (each : List.Forall₂ related as bs)
    (same : ∀ a b, related a b → (left a ↔ right b)) : (∀ a ∈ as, left a) ↔ ∀ b ∈ bs, right b := by
  induction each with
  | nil => simp
  | cons first rest ih => rw [List.forall_mem_cons,List.forall_mem_cons,ih,same _ _ first]

theorem exists_exact {related : α → β → Prop} {left : α → Prop} {right : β → Prop} {as : List α}
    {bs : List β} (each : List.Forall₂ related as bs)
    (same : ∀ a b, related a b → (left a ↔ right b)) : (∃ a ∈ as, left a) ↔ ∃ b ∈ bs, right b := by
  induction each with
  | nil => simp
  | cons first rest ih => rw [List.exists_mem_cons_iff,List.exists_mem_cons_iff,ih,same _ _ first]

-- Post-aggregators read aggregators only exactly if names in derived applies are those of
-- aggregates or of derived applies before them.
theorem fields_exact {dataset : Dataset} {applies : List Apply} {found : List Aggregation}
    {posts : List PostAggregation} (aggregates : aggregations dataset (collect applies) = .ok found)
    (arithmetic : postAggregations (collect applies) = .ok posts) :
    (∀ p ∈ posts, ∀ name ∈ p.fieldNames, name ∈ found.filterMap Aggregation.name?) ↔
      ∀ before a after, derivedOrder applies = before ++ a :: after →
        ∀ name ∈ a.expression.namesOutside, Aggregated applies name ∨
          name ∈ before.map (·.name) := by
  have known : ∀ k ∈ (collect applies).aggregates, Aggregated applies k.name := fun k member =>
    ((collect_aggregates applies k.name).mp (List.mem_map_of_mem member)).imp_right .inl
  rw [← collect_settled known,Settled,forall_exact (postAggregations_related arithmetic)]
  rintro post p ⟨-,fields⟩
  simp only [fields,aggregations_names aggregates]

theorem computed_exact {dataset : Dataset} {applies : List Apply} {found : List Aggregation}
    {posts : List PostAggregation} (aggregates : aggregations dataset (collect applies) = .ok found)
    (arithmetic : postAggregations (collect applies) = .ok posts) (name : String) :
    name ∈ found.filterMap Aggregation.name? ++ posts.filterMap PostAggregation.name? ↔
      Computed applies name := by
  have names := names_related ((postAggregations_related arithmetic).imp fun _ _ => And.left)
  rw [List.mem_append,aggregations_names aggregates,names,(collect_arithmetic applies).1]
  constructor
  · rintro ((⟨a,member,-,rfl⟩ | made) | derived)
    · exact .inl (List.mem_map_of_mem member)
    · exact .inr made
    · obtain ⟨a,member,rfl⟩ := List.mem_map.mp derived
      exact .inl (List.mem_map_of_mem (derivedOrder_source member).1)
  · rintro (listed | made)
    · obtain ⟨a,member,rfl⟩ := List.mem_map.mp listed
      cases aggregate : a.expression.isAggregate with
      | true => exact .inl (.inl ⟨a,member,aggregate,rfl⟩)
      | false => exact .inr (List.mem_map_of_mem (derivedOrder_all member aggregate))
    · exact .inl (.inr made)

namespace HavingSpec

theorem comparison_names {e x : Expr} {spec : String → Json → HavingSpec} {h : HavingSpec}
    (ran : comparison e x spec = .ok h) (own : ∀ name value, (spec name value).names = [name])
    (name : String) : name ∈ h.names ↔ Mentions name e ∨ Mentions name x := by
  unfold comparison at ran
  split at ran
  · split at ran
    · cases ran; simp [own]
    · cases ran
  · cases ran

theorem ofComparison_names {op : BinaryOp} {e x : Expr} {h : HavingSpec}
    (ran : ofComparison op e x = .ok h) (name : String) :
    name ∈ h.names ↔ Mentions name (.binary op e x) := by
  rw [mentions_binary]
  unfold ofComparison at ran
  split at ran
  case h_6 => cases ran
  all_goals exact comparison_names ran (fun _ _ => by simp [names]) name

theorem ofExprs_names {es : List Expr} {specs : List HavingSpec} (ran : ofExprs es = .ok specs)
    (name : String) (each : ∀ e ∈ es, ∀ h, ofExpr e = .ok h → (name ∈ h.names ↔ Mentions name e)) :
    name ∈ namesAll specs ↔ ∃ e ∈ es, Mentions name e := by
  induction es generalizing specs with
  | nil => cases ran; simp [namesAll]
  | cons e rest ih =>
      obtain ⟨here,later⟩ := List.forall_mem_cons.mp each
      obtain ⟨first,one,ran⟩ := Compiled.bind_ok.mp ran
      obtain ⟨others,more,ran⟩ := Compiled.bind_ok.mp ran
      cases Compiled.pure_ok.mp ran
      rw [namesAll,List.mem_append,here first one,ih more later]
      simp

theorem ofExpr_names {e : Expr} {h : HavingSpec} (ran : ofExpr e = .ok h) (name : String) :
    name ∈ h.names ↔ Mentions name e := by
  induction e using Expr.children_induction generalizing h with
  | step e parts =>
  unfold ofExpr at ran
  split at ran
  · exact ofComparison_names ran name
  · obtain ⟨specs,inside,ran⟩ := Compiled.bind_ok.mp ran
    cases Compiled.pure_ok.mp ran
    rw [names,mentions_junction,ofExprs_names inside name fun e listed h => parts e listed]
  · obtain ⟨specs,inside,ran⟩ := Compiled.bind_ok.mp ran
    cases Compiled.pure_ok.mp ran
    rw [names,mentions_junction,ofExprs_names inside name fun e listed h => parts e listed]
  · obtain ⟨spec,inside,ran⟩ := Compiled.bind_ok.mp ran
    cases Compiled.pure_ok.mp ran
    rw [names,mentions_unary,parts _ List.mem_cons_self inside]
  · cases ran

end HavingSpec

namespace Planner

theorem topNMetric_names (p : Planner) (name : String) (key : Expr) (other : String) :
    other ∈ (p.topNMetric name key).names ↔
      ∃ s, p.folded.sort = some s ∧ s.name ≠ name ∧ other = s.name := by
  unfold topNMetric
  cases p.folded.sort with
  | none => simp [TopNMetric.names]
  | some s =>
      obtain ⟨sorted,direction⟩ := s
      by_cases own : sorted = name
      · cases direction <;> cases p.keyType? key == some .number <;> simp [own,TopNMetric.names]
      · cases direction <;> simp [own,TopNMetric.names]

theorem dimensions_names {p : Planner} {keys : List (String × Expr)} {found : List Dimension}
    (ran : p.dimensions keys = .ok found) : found.map (·.outputName) = keys.map (·.1) := by
  have each := (mapM_ok ran).imp fun key d made => by
    obtain ⟨source,-,made⟩ := Compiled.bind_ok.mp made
    exact (show d.outputName = key.1 by cases Compiled.pure_ok.mp made; rfl)
  clear ran
  induction each with
  | nil => rfl
  | cons first rest ih => simp [first,ih]

theorem names_filter (keep : String → Bool) (keys : List (String × Expr)) (name : String) :
    name ∈ (keys.filter fun key => keep key.1).map (·.1) ↔
      name ∈ keys.map (·.1) ∧ keep name = true := by
  simp only [List.mem_map,List.mem_filter]
  constructor
  · rintro ⟨key,⟨member,kept⟩,rfl⟩
    exact ⟨⟨key,member,rfl⟩,kept⟩
  · rintro ⟨⟨key,member,rfl⟩,kept⟩
    exact ⟨key,⟨member,kept⟩,rfl⟩

theorem orderColumns_known (p : Planner) (keys : List (String × Expr)) (dimensions : List Dimension)
    (known : String → Prop) (listed : ∀ d ∈ dimensions, known d.outputName) :
    (∀ name ∈ (p.orderColumns keys dimensions).map OrderByColumn.column, known name) ↔
      ∀ s, p.folded.sort = some s → known s.name := by
  unfold orderColumns
  cases p.folded.sort with
  | some s => simp [OrderByColumn.column]
  | none =>
      cases dimensions with
      | nil => simp
      | cons d rest => simpa [OrderByColumn.column] using listed d List.mem_cons_self

theorem havingSpec_names {p : Planner} {having : Option HavingSpec} (ran : p.havingSpec = .ok having)
    (name : String) : name ∈ (having.map HavingSpec.names).getD [] ↔
      ∃ h, p.folded.having = some h ∧ Mentions name h.expression := by
  cases filtered : p.folded.having with
  | none =>
      simp only [havingSpec,filtered] at ran
      cases ran; simp
  | some h =>
      simp only [havingSpec,filtered] at ran
      split at ran
      · cases ran
      · cases spec : HavingSpec.ofExpr h.expression with
        | error e => rw [spec] at ran; cases ran
        | ok found =>
            rw [spec] at ran
            cases ran
            simpa using HavingSpec.ofExpr_names spec name

-- Which queries with aggregators there are, and from what.
inductive Makes (p : Planner) (plan : Plan) : Prop where
  | totals (unsplit : p.folded.mode ≠ .raw ∧ p.folded.mode ≠ .split) (ran : p.totals = .ok plan)
  | timeseries (unfiltered : p.havingSpec = .ok none)
      (ran : p.timeseries name duration zone = .ok plan)
  | topN (unfiltered : p.havingSpec = .ok none) (single : p.folded.splitKeys = [(name,key)])
      (ran : p.topN name key = .ok plan)
  | groupBy (filtered : p.havingSpec = .ok having)
      (ran : p.groupBy p.folded.splitKeys having = .ok plan)

-- Which queries there are at all, and from what.
inductive Chosen (p : Planner) (plan : Plan) : Prop where
  | select (raw : p.folded.mode = .raw) (ran : p.select = .ok plan)
  | timeBoundary (unsplit : p.folded.mode ≠ .raw ∧ p.folded.mode ≠ .split)
      (bounds : p.timeBoundary? = some plan)
  | totals (unsplit : p.folded.mode ≠ .raw ∧ p.folded.mode ≠ .split) (ran : p.totals = .ok plan)
  | timeseries (unfiltered : p.havingSpec = .ok none) (single : p.folded.splitKeys = [(name,key)])
      (bucket : p.timeBucket? key = some (duration,zone))
      (ran : p.timeseries name duration zone = .ok plan)
  | topN (unfiltered : p.havingSpec = .ok none) (single : p.folded.splitKeys = [(name,key)])
      (ran : p.topN name key = .ok plan)
  | groupBy (filtered : p.havingSpec = .ok having)
      (ran : p.groupBy p.folded.splitKeys having = .ok plan)

theorem splitWith_chosen {p : Planner} {plan : Plan} {s : Split} {having : Option HavingSpec}
    (filtered : p.havingSpec = .ok having) (keys : p.folded.splitKeys = s.keys)
    (ran : p.splitWith s having = .ok plan) : p.Chosen plan := by
  unfold splitWith at ran
  split at ran
  · exact .groupBy filtered (keys ▸ ran)
  · rename_i name key single
    have only : s.keys = [(name,key)] := by
      unfold Split.singleKey? at single
      split at single
      · rename_i only
        cases single; exact only
      · cases single
    split at ran
    · rename_i bucket
      split at ran
      · cases ran
      · rename_i unfiltered
        have none : having = none := by simpa using unfiltered
        exact .timeseries (none ▸ filtered) (keys.trans only) bucket ran
    · split at ran
      · rename_i small
        have none : having = none := by simpa using (Bool.and_eq_true_iff.mp small).1
        exact .topN (none ▸ filtered) (keys.trans only) ran
      · exact .groupBy filtered (keys ▸ ran)

theorem plan_chosen {p : Planner} {plan : Plan} (ran : p.plan = .ok plan) : p.Chosen plan := by
  unfold Planner.plan at ran
  split at ran
  · rename_i raw
    exact .select raw ran
  · unfold Planner.split at ran
    split at ran
    · cases ran
    · rename_i s keyed
      obtain ⟨having,filtered,ran⟩ := Compiled.bind_ok.mp ran
      have keys : p.folded.splitKeys = s.keys := by rw [FoldedQuery.splitKeys,keyed]
      exact splitWith_chosen filtered keys ran
  · rename_i unsplit grouped
    split at ran
    · rename_i bounds
      cases ran; exact .timeBoundary ⟨unsplit,grouped⟩ bounds
    · exact .totals ⟨unsplit,grouped⟩ ran

theorem timeBoundary_shape {p : Planner} {plan : Plan} (bounds : p.timeBoundary? = some plan) :
    plan.query.queryType = "timeBoundary" := by
  unfold timeBoundary? at bounds
  split at bounds
  · cases bounds
  · obtain ⟨renames,-,made⟩ := Option.bind_eq_some_iff.mp bounds
    cases made; rfl

theorem plan_makes {p : Planner} {plan : Plan} (ran : p.plan = .ok plan)
    (shape : plan.query.queryType ∈ ["timeseries","topN","groupBy"]) : p.Makes plan := by
  cases plan_chosen ran with
  | select raw ran =>
      unfold Planner.select at ran
      split at ran
      · cases ran
      · cases ran; simp [Query.queryType] at shape
  | timeBoundary unsplit bounds => simp [timeBoundary_shape bounds] at shape
  | totals unsplit ran => exact .totals unsplit ran
  | timeseries unfiltered single bucket ran => exact .timeseries unfiltered ran
  | topN unfiltered single ran => exact .topN unfiltered single ran
  | groupBy filtered ran => exact .groupBy filtered ran

end Planner

theorem closed_parts {dataset : Dataset} {folded : FoldedQuery} {clientSort : Option SortBy}
    {timestampKey : Option String} {q : Query}
    (aggregates : aggregations dataset (collect folded.applies) = .ok q.aggregations)
    (arithmetic : postAggregations (collect folded.applies) = .ok q.postAggregations)
    (compared : ∀ name, name ∈ q.compared ↔ ∃ h, folded.having = some h ∧ Mentions name h.expression)
    (order : ((∀ name ∈ q.ranks, Computed folded.applies name) ∧ ∀ name ∈ q.sorted,
        Computed folded.applies name ∨ name ∈ q.dimensions.map (·.outputName)) ↔
      ∀ s, folded.sort = some s → clientSort = none → Computed folded.applies s.name ∨
        (s.name ∈ folded.splitKeys.map (·.1) ∧ timestampKey ≠ some s.name)) :
    q.Closed ↔ Covered folded clientSort timestampKey := by
  have computed : ∀ name, name ∈ q.computed ↔ Computed folded.applies name :=
    computed_exact aggregates arithmetic
  have fields := fields_exact aggregates arithmetic
  have condition : (∀ name ∈ q.compared, Computed folded.applies name) ↔
      ∀ h, folded.having = some h →
        ∀ name, Mentions name h.expression → Computed folded.applies name := by
    simp only [compared]
    exact ⟨fun each h filtered name mentioned => each name ⟨h,filtered,mentioned⟩,
      fun each name ⟨h,filtered,mentioned⟩ => each h filtered name mentioned⟩
  constructor
  · rintro ⟨own,ranks,having,sorted⟩
    simp only [computed] at ranks having sorted
    exact ⟨fields.mp own,condition.mp having,order.mp ⟨ranks,sorted⟩⟩
  · rintro ⟨derived,having,sort⟩
    obtain ⟨ranks,sorted⟩ := order.mpr sort
    refine ⟨fields.mpr derived,?_,?_,?_⟩ <;> simp only [computed]
    exacts [ranks,condition.mpr having,sorted]

section
variable {p : Planner} {plan : Plan} (known : p.aggregates = collect p.folded.applies)
include known

theorem totals_closed (unfiltered : p.folded.having = none) (unsorted : p.folded.sort = none)
    (ran : p.totals = .ok plan) :
    plan.query.Closed ↔ Covered p.folded plan.clientSort plan.timestampKey := by
  obtain ⟨aggregates,arithmetic,first,second,rfl⟩ := Planner.totals_made ran
  rw [known] at first second
  exact closed_parts first second (by simp [Query.compared,unfiltered])
    (by simp [Query.ranks,Query.sorted,unsorted])

theorem timeseries_closed {name : String} {duration : Time.Duration} {zone : Option Time.Zone}
    (unfiltered : p.havingSpec = .ok none) (ran : p.timeseries name duration zone = .ok plan) :
    plan.query.Closed ↔ Covered p.folded plan.clientSort plan.timestampKey := by
  obtain ⟨aggregates,arithmetic,granularity,first,second,-,rfl⟩ := Planner.timeseries_made ran
  rw [known] at first second
  refine closed_parts first second (Planner.havingSpec_names unfiltered) ?_
  -- The client sorts what is to be sorted.
  simp +contextual [Query.ranks,Query.sorted]

theorem topN_closed {name : String} {key : Expr} (unfiltered : p.havingSpec = .ok none)
    (single : p.folded.splitKeys = [(name,key)]) (ran : p.topN name key = .ok plan) :
    plan.query.Closed ↔ Covered p.folded plan.clientSort plan.timestampKey := by
  obtain ⟨aggregates,arithmetic,source,first,second,-,rfl⟩ := Planner.topN_made ran
  rw [known] at first second
  refine closed_parts first second (Planner.havingSpec_names unfiltered) ?_
  simp only [Query.ranks,Planner.topNMetric_names,Query.sorted,single]
  constructor
  · rintro ⟨ranks,-⟩ s sorted -
    by_cases own : s.name = name
    · exact .inr (by simp [own])
    · exact .inl (ranks s.name ⟨s,sorted,own,rfl⟩)
  · intro each
    refine ⟨?_,fun name none => nomatch none⟩
    rintro _ ⟨s,sorted,other,rfl⟩
    exact (each s sorted trivial).resolve_right fun own => other (by simpa using own.1)

theorem groupBy_closed {having : Option HavingSpec} (filtered : p.havingSpec = .ok having)
    (ran : p.groupBy p.folded.splitKeys having = .ok plan) :
    plan.query.Closed ↔ Covered p.folded plan.clientSort plan.timestampKey := by
  obtain ⟨aggregates,arithmetic,granularity,dimensions,first,second,-,third,rfl⟩ := Planner.groupBy_made ran
  rw [known] at first second
  refine closed_parts first second (Planner.havingSpec_names filtered) ?_
  have dimension : ∀ name, name ∈ dimensions.map (·.outputName) ↔
      name ∈ p.folded.splitKeys.map (·.1) ∧
        (p.liftedBucket? p.folded.splitKeys).map (·.1) ≠ some name := by
    intro name
    rw [Planner.dimensions_names third,Planner.names_filter (fun name => _ != some name)]
    simp
  have order := p.orderColumns_known p.folded.splitKeys dimensions
    (fun name => Computed p.folded.applies name ∨ name ∈ dimensions.map (·.outputName))
    fun d member => .inr (List.mem_map_of_mem member)
  constructor
  · rintro ⟨-,columns⟩ s sorted -
    exact (order.mp columns s sorted).imp_right (dimension s.name).mp
  · intro each
    refine ⟨fun name none => (nomatch none),order.mpr fun s sorted => ?_⟩
    exact (each s sorted rfl).imp_right (dimension s.name).mpr

end

theorem fold_unsplit {dataset : Dataset} {e : Expr} {folded : FoldedQuery}
    (ran : fold dataset e = .ok folded) (unsplit : folded.mode ≠ .raw ∧ folded.mode ≠ .split) :
    folded.having = none ∧ folded.sort = none := by
  rcases fold_cases ran with ⟨-,single⟩ | ⟨-,-,totals⟩ | ⟨-,root,-,rows⟩
  · obtain ⟨_,_,_,rfl⟩ := Fold.value_parts single
    exact ⟨rfl,rfl⟩
  · obtain ⟨_,_,rfl⟩ := Fold.totals_parts totals
    exact ⟨rfl,rfl⟩
  · obtain ⟨q,_,rfl⟩ := Fold.rows_parts rows
    cases keyed : q.split.isSome <;> simp [keyed] at unsplit

theorem planLevel_druid {dataset : Dataset} {e : Expr} {level : Level} {q : Query}
    (plans : planLevel dataset e = .ok level) (asked : level.query = some (.druid q)) :
    ∃ folded planned, fold dataset e = .ok folded ∧ plan dataset folded = .ok planned ∧
      planned.query = q ∧ level.post.sort = planned.clientSort ∧
      level.post.timestampKey = planned.timestampKey := by
  obtain ⟨folded,folds,rest⟩ := Compiled.bind_ok.mp plans
  dsimp only at rest
  split at rest
  · obtain ⟨⟨query,post⟩,made,rest⟩ := Compiled.bind_ok.mp rest
    cases Compiled.pure_ok.mp rest
    cases asked
    unfold planQuery at made
    split at made
    · obtain ⟨planned,ran,made⟩ := Compiled.bind_ok.mp made
      cases Compiled.pure_ok.mp made
      exact ⟨folded,planned,folds,ran,rfl,rfl,rfl⟩
    · obtain ⟨_,_,made⟩ := Compiled.bind_ok.mp made
      cases Compiled.pure_ok.mp made
  · cases Compiled.pure_ok.mp rest
    cases asked

-- A query with aggregators is closed exactly if the names of the level are covered.
theorem closed_when_covered {dataset : Dataset} {e : Expr} {level : Level} {q : Query}
    (plans : planLevel dataset e = .ok level) (asked : level.query = some (.druid q))
    (shape : q.queryType ∈ ["timeseries","topN","groupBy"]) :
    ∃ folded, fold dataset e = .ok folded ∧
      (q.Closed ↔ Covered folded level.post.sort level.post.timestampKey) := by
  obtain ⟨folded,planned,folds,ran,rfl,sorts,stamped⟩ := planLevel_druid plans asked
  obtain ⟨p,made,chosen⟩ := Compiled.bind_ok.mp ran
  obtain ⟨-,rfl,known⟩ := Planner.make_parts made
  refine ⟨p.folded,folds,?_⟩
  rw [sorts,stamped]
  cases Planner.plan_makes chosen shape with
  | totals unsplit ran =>
      obtain ⟨unfiltered,unsorted⟩ := fold_unsplit folds unsplit
      exact totals_closed known unfiltered unsorted ran
  | timeseries unfiltered ran => exact timeseries_closed known unfiltered ran
  | topN unfiltered single ran => exact topN_closed known unfiltered single ran
  | groupBy filtered ran => exact groupBy_closed known filtered ran

namespace Days

def edits : Dataset :=
  { engine := .druid,source := "edits",timeAttribute := some "time"
    attributes := [{ name := "time",type := .time },{ name := "page",type := .string },
      { name := "added",type := .number }] }

def ofPages : Expr :=
  .apply (.split (.ref "data") [("Page",.ref "page")] "data") "Edits" (.count (.ref "data"))

def ofDays : Expr :=
  .apply (.split (.ref "data") [("Day",.timeBucket (.ref "time") { days := 1 } none),
    ("Page",.ref "page")] "data") "Edits" (.count (.ref "data"))

def share : Expr :=
  .divide (.ref "Edits") (.add (.ref "Edits") (.sum (.ref "data") (.ref "added")))

def busy : Expr :=
  .greaterThan (.ref "Edits") (.number 5)

def busiest : Expr :=
  .sort (.filter (.apply ofDays "Share" share) busy) (.ref "Share") .descending

def planned? (e : Expr) : Option Query :=
  (planLevel edits e).toOption.bind fun level =>
    match level.query with
    | some (.druid q) => some q
    | _ => none

theorem planned_level {e : Expr} {q : Query} (planned : planned? e = some q) :
    ∃ level, planLevel edits e = .ok level ∧ level.query = some (.druid q) := by
  obtain ⟨level,plans,asked⟩ := Option.bind_eq_some_iff.mp planned
  refine ⟨level,toOption_ok.mp plans,?_⟩
  split at asked
  · rename_i same
    cases asked; exact same
  · cases asked

theorem busiest_closed : ∃ level q, planLevel edits busiest = .ok level ∧
    level.query = some (.druid q) ∧ q.queryType = "groupBy" ∧ q.sorted = ["Share"] ∧ q.Closed := by
  have planned : (planned? busiest).map (fun q => (q.queryType,q.sorted))
      = some ("groupBy",["Share"]) := by decide +kernel
  obtain ⟨q,planned,same⟩ := Option.map_eq_some_iff.mp planned
  obtain ⟨shape,sorted⟩ := Prod.mk.inj same
  obtain ⟨level,plans,asked⟩ := planned_level planned
  refine ⟨level,q,plans,asked,shape,sorted,?_⟩
  obtain ⟨folded,ran,exactly⟩ := closed_when_covered plans asked (by simp [shape])
  obtain ⟨other,folds,applies,having,sort⟩ : ∃ folded, fold edits busiest = .ok folded ∧
      folded.applies = [{ name := "Edits",expression := .count (.ref "data") },
        { name := "Share",expression := share }] ∧
      folded.having = some { expression := busy,afterLimit := false } ∧
      folded.sort = some { name := "Share",direction := .descending } := ⟨_,rfl,rfl,rfl,rfl⟩
  cases folds.symm.trans ran
  refine exactly.mpr ⟨?_,?_,?_⟩
  · intro before a after place name outside
    rw [applies] at place ⊢
    have only : a = { name := "Share",expression := share } := by
      match before with
      | [] => cases place; rfl
      | _ :: _ =>
          simp [derivedOrder,derivedFrom,share,UnaryOp.isAggregate,BinaryOp.isAggregate] at place
    rw [only] at outside
    have known : name = "Edits" := by
      simpa [share,namesOutside,BinaryOp.isAggregate] using outside
    exact .inl (.inl ⟨_,List.mem_cons_self,rfl,known.symm⟩)
  · intro h filtered name mentioned
    cases having.symm.trans filtered
    have known : name = "Edits" := by simpa [busy] using mentioned
    exact .inl (by simp [applies,known])
  · intro s sorts _
    cases sort.symm.trans sorts
    exact .inl (.inl (by simp [applies]))

def Unclosed (e : Expr) : Prop :=
  ∃ level q, planLevel edits e = .ok level ∧ level.query = some (.druid q) ∧
    q.queryType ∈ ["timeseries","topN","groupBy"] ∧ ¬ q.Closed

def mentioned (q : Query) : List String :=
  q.ranks ++ q.compared ++ q.sorted ++ q.postAggregations.flatMap (·.fieldNames)

def known (q : Query) : List String :=
  q.computed ++ q.dimensions.map (·.outputName)

theorem mentioned_known {q : Query} (closed : q.Closed) : ∀ name ∈ mentioned q, name ∈ known q := by
  intro name refers
  simp only [mentioned,List.mem_append,List.mem_flatMap] at refers
  refine List.mem_append.mpr ?_
  rcases refers with ((rank | compared) | sorted) | ⟨p,member,read⟩
  · exact .inl (closed.ranks name rank)
  · exact .inl (closed.compared name compared)
  · exact closed.sorted name sorted
  · exact .inl (List.mem_append_left _ (closed.fields p member name read))

theorem unclosed_missing {e : Expr} (missing : (planned? e).map (fun q =>
    ["timeseries","topN","groupBy"].contains q.queryType &&
      (mentioned q).any fun name => !(known q).contains name) = some true) : Unclosed e := by
  obtain ⟨q,planned,holds⟩ := Option.map_eq_some_iff.mp missing
  obtain ⟨shape,refers⟩ := Bool.and_eq_true_iff.mp holds
  obtain ⟨level,plans,asked⟩ := planned_level planned
  refine ⟨level,q,plans,asked,by simpa using shape,fun closed => ?_⟩
  obtain ⟨name,member,unknown⟩ := List.any_eq_true.mp refers
  rw [List.contains_iff_mem.mpr (mentioned_known closed name member)] at unknown
  cases unknown

-- Ranked by a column, chosen by one, computed from one, and sorted by the timestamp.
theorem columns_not_computed :
    Unclosed (.limit (.sort ofPages (.ref "added") .descending) 5) ∧
    Unclosed (.filter ofPages (.greaterThan (.ref "added") (.number 5))) ∧
    Unclosed (.apply ofPages "Twice" (.multiply (.ref "added") (.number 2))) ∧
    Unclosed (.sort ofDays (.ref "Day") .ascending) :=
  ⟨unclosed_missing (by decide +kernel),unclosed_missing (by decide +kernel),
    unclosed_missing (by decide +kernel),unclosed_missing (by decide +kernel)⟩

end Days

end OlapQuery.Druid
