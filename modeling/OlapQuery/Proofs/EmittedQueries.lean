import OlapQuery.Proofs.NativeAggregators

-- The Druid queries that an expression comes to. Each is read back from its JSON, and comes to the
-- same JSON again, unless an aggregator that the dataset has in the engine's own form names a
-- native kind and has other members than the kind has: those are lost.

namespace OlapQuery

open Compiled (bind_ok pure_ok)
open Druid

theorem queriesWithin_levels {dataset : Dataset} {depth : Nat} {e : Expr} {queries : List NativeQuery}
    (lists : queriesWithin dataset depth e = .ok queries) {q : NativeQuery} (emitted : q ∈ queries) :
    ∃ f level, planLevel dataset f = .ok level ∧ level.query = some q := by
  induction depth generalizing e queries with
  | zero =>
      obtain ⟨level,plans,rest⟩ := bind_ok.mp lists
      cases pure_ok.mp rest
      exact ⟨e,level,plans,Option.mem_toList.mp emitted⟩
  | succ depth ih =>
      obtain ⟨level,plans,rest⟩ := bind_ok.mp lists
      split at rest
      · cases pure_ok.mp rest
        exact ⟨e,level,plans,Option.mem_toList.mp emitted⟩
      · obtain ⟨row,-,rest⟩ := bind_ok.mp rest
        obtain ⟨below,each,rest⟩ := bind_ok.mp rest
        cases pure_ok.mp rest
        rcases List.mem_append.mp emitted with own | nested
        · exact ⟨e,level,plans,Option.mem_toList.mp own⟩
        · obtain ⟨lower,member,emitted⟩ := List.mem_flatten.mp nested
          obtain ⟨_,-,ran⟩ := Expr.related_source (mapM_ok each) member
          obtain ⟨bound,-,lists⟩ := bind_ok.mp ran
          exact ih lists emitted

def Dataset.Configures (dataset : Dataset) (json : Json) : Prop :=
  ∃ custom fields name, dataset.customAggregations.get? custom = some (.obj fields) ∧
    json = .obj (Table.insert "name" (.str name) fields)

namespace Druid

theorem ScriptFold.aggregation_customs {f : ScriptFold} {name : String} {measure : Expr}
    {x : Aggregation} (ran : f.aggregation name measure = .ok x) : x.customs = [] := by
  obtain ⟨_,_,rest⟩ := bind_ok.mp ran
  cases pure_ok.mp rest; rfl

namespace Aggregation

variable {dataset : Dataset} {x : Aggregation}

theorem ofCustom_configured {name customName : String}
    (ran : ofCustom dataset name customName = .ok x) : ∀ json ∈ x.customs, dataset.Configures json := by
  unfold ofCustom at ran
  split at ran
  · cases ran
  · rename_i fields found
    cases ran
    intro json listed
    cases List.mem_singleton.mp listed
    exact ⟨customName,fields,name,found,rfl⟩
  · cases ran

theorem unfiltered_configured {name : String} {e : Expr}
    (ran : unfiltered dataset name e = .ok x) : ∀ json ∈ x.customs, dataset.Configures json := by
  have none (native : x.customs = []) : ∀ json ∈ x.customs, dataset.Configures json := by
    rw [native]
    exact fun json listed => nomatch listed
  unfold unfiltered at ran
  split at ran
  · cases ran; exact none rfl
  · obtain ⟨measure,-,rest⟩ := bind_ok.mp ran
    cases measure with
    | column column => cases pure_ok.mp rest; exact none rfl
    | timestamps => cases rest
    | derived => exact none (ScriptFold.aggregation_customs rest)
  · obtain ⟨measure,-,rest⟩ := bind_ok.mp ran
    cases measure with
    | column column => cases pure_ok.mp rest; exact none rfl
    | timestamps => cases pure_ok.mp rest; exact none rfl
    | derived => exact none (ScriptFold.aggregation_customs rest)
  · obtain ⟨measure,-,rest⟩ := bind_ok.mp ran
    cases measure with
    | column column => cases pure_ok.mp rest; exact none rfl
    | timestamps => cases pure_ok.mp rest; exact none rfl
    | derived => exact none (ScriptFold.aggregation_customs rest)
  · unfold ofCountDistinct at ran
    split at ran
    · split at ran
      · cases ran
      · cases ran
        exact none (by split <;> rfl)
    · cases ran
  · exact ofCustom_configured ran
  · cases ran

theorem ofAggregate_configured {a : NamedAggregate} (ran : ofAggregate dataset a = .ok x) :
    ∀ json ∈ x.customs, dataset.Configures json := by
  unfold ofAggregate at ran
  split at ran
  · cases ran
  · obtain ⟨aggregator,plain,rest⟩ := bind_ok.mp ran
    have configured := unfiltered_configured plain
    split at rest
    · cases pure_ok.mp rest; exact configured
    · obtain ⟨filter,-,rest⟩ := bind_ok.mp rest
      cases filter with
      | none => cases pure_ok.mp rest; exact configured
      | some filter => cases pure_ok.mp rest; exact configured

end Aggregation

theorem aggregations_configured {dataset : Dataset} {set : AggregateSet} {found : List Aggregation}
    (ran : aggregations dataset set = .ok found) :
    ∀ a ∈ found, ∀ json ∈ a.customs, dataset.Configures json := by
  unfold aggregations at ran
  split at ran
  · cases ran
    intro a listed
    cases List.mem_singleton.mp listed
    exact fun json listed => nomatch listed
  · intro a listed
    obtain ⟨_,-,made⟩ := Expr.related_source (mapM_ok ran) listed
    exact Aggregation.ofAggregate_configured made

theorem plan_aggregations {dataset : Dataset} {folded : FoldedQuery} {planned : Plan}
    (ran : plan dataset folded = .ok planned) : planned.query.aggregations = [] ∨
      ∃ set, aggregations dataset set = .ok planned.query.aggregations := by
  obtain ⟨p,made,chosen⟩ := bind_ok.mp ran
  obtain ⟨rfl,-,-⟩ := Planner.make_parts made
  by_cases shape : planned.query.queryType ∈ ["timeseries","topN","groupBy"]
  · refine .inr ⟨p.aggregates,?_⟩
    cases Planner.plan_makes chosen shape with
    | totals unsplit ran =>
        obtain ⟨_,_,first,-,rfl⟩ := Planner.totals_made ran
        exact first
    | timeseries unfiltered ran =>
        obtain ⟨_,_,_,first,-,-,rfl⟩ := Planner.timeseries_made ran
        exact first
    | topN unfiltered single ran =>
        obtain ⟨_,_,_,first,-,-,rfl⟩ := Planner.topN_made ran
        exact first
    | groupBy filtered ran =>
        obtain ⟨_,_,_,_,first,-,-,-,rfl⟩ := Planner.groupBy_made ran
        exact first
  · left
    revert shape
    cases planned.query with
    | select q => exact fun _ => rfl
    | timeBoundary q => exact fun _ => rfl
    | _ => exact fun other => (other (by simp [Query.queryType])).elim

end Druid

-- A query that an expression comes to is read back from its JSON, and what is read comes to the
-- same JSON exactly if every aggregator in the engine's own form is kept. All of these are the
-- dataset's. One that names a native kind is kept if it is not read as a native one or has no
-- members but those of the kind.
theorem emitted_read_back {dataset : Dataset} {e : Expr} {queries : List NativeQuery}
    (compiled : compile dataset e = .ok queries) {q : Query} (emitted : .druid q ∈ queries) :
    ∃ read, Query.ofJson? q.toJson = some read ∧
      (read.toJson.ordered = q.toJson.ordered ↔
        ∀ json ∈ q.customs, (Aggregation.custom json).Kept) ∧
      (∀ json ∈ q.customs, dataset.Configures json) ∧
      ∀ fields kind, .obj fields ∈ q.customs → List.lookup "type" fields = some (.str kind) →
        kind ≠ "filtered" → ((Aggregation.custom (.obj fields)).Kept ↔
          Aggregation.ofParts? (.members (Json.readMembers reading fields)) = none ∨
            ∀ name ∈ fields.map (·.1), name ∈ Aggregation.members kind) := by
  refine ⟨q.reread,q.ofJson_toJson,q.same_iff,fun json listed => ?_,fun fields kind _ typed flat =>
    Aggregation.custom_kept_iff typed flat⟩
  obtain ⟨f,level,plans,asked⟩ := queriesWithin_levels compiled emitted
  obtain ⟨folded,planned,-,ran,rfl,-⟩ := planLevel_druid plans asked
  obtain ⟨a,member,inside⟩ := List.mem_flatMap.mp listed
  rcases plan_aggregations ran with none | ⟨set,made⟩
  · rw [none] at member
    cases member
  · exact aggregations_configured made a member json inside

namespace Edits

def wiki : Dataset :=
  { engine := .druid,source := "wiki",timeAttribute := some "time"
    attributes := [{ name := "time",type := .time },{ name := "page",type := .string }]
    customAggregations := [
      ("deltas",.obj [("expression",.str "delta * 2"),("fieldName",.str "delta"),
        ("type",.str "doubleSum")]),
      ("users",.obj [("fieldName",.str "user"),("size",.int 16384),("type",.str "thetaSketch")])] }

def total (custom : String) : Expr :=
  .apply .ply "Total" (.customAggregate (.ref "data") custom)

def totalQuery? (custom : String) : Option Query :=
  match compile wiki (total custom) with
  | .ok [.druid q] => some q
  | _ => none

theorem totalQuery_emitted {custom : String} {q : Query} (asked : totalQuery? custom = some q) :
    compile wiki (total custom) = .ok [.druid q] := by
  unfold totalQuery? at asked
  split at asked
  · rename_i compiled
    cases asked; exact compiled
  · cases asked

-- The expression of the sum is lost: what is read is the sum of the column.
theorem deltas_lose_expression : ∃ q read, compile wiki (total "deltas") = .ok [.druid q] ∧
    Query.ofJson? q.toJson = some read ∧ read.toJson.ordered ≠ q.toJson.ordered := by
  have differs : ((totalQuery? "deltas").bind fun q => (Query.ofJson? q.toJson).map fun read =>
      read.toJson.ordered.pretty != q.toJson.ordered.pretty) = some true := by decide +kernel
  obtain ⟨q,asked,again⟩ := Option.bind_eq_some_iff.mp differs
  obtain ⟨read,reads,texts⟩ := Option.map_eq_some_iff.mp again
  refine ⟨q,read,totalQuery_emitted asked,reads,fun same => ?_⟩
  rw [same,bne_self_eq_false] at texts
  cases texts

theorem users_read_back : ∃ q read, compile wiki (total "users") = .ok [.druid q] ∧
    q.customs ≠ [] ∧ Query.ofJson? q.toJson = some read ∧
    read.toJson.ordered = q.toJson.ordered := by
  have sketch : ((totalQuery? "users").map fun q =>
      q.customs.map fun json => (json.get? "type").bind Json.str?)
        = some [some "thetaSketch"] := by decide +kernel
  obtain ⟨q,asked,kinds⟩ := Option.map_eq_some_iff.mp sketch
  have compiled := totalQuery_emitted asked
  obtain ⟨read,reads,exactly,configured,kept⟩ :=
    emitted_read_back compiled (List.mem_singleton_self _)
  refine ⟨q,read,compiled,?_,reads,exactly.mpr fun json listed => ?_⟩
  · intro none
    rw [none] at kinds
    cases kinds
  · obtain ⟨_,fields,name,_,rfl⟩ := configured json listed
    have kind := kinds ▸ List.mem_map_of_mem listed
    obtain ⟨json,typed,text⟩ := Option.bind_eq_some_iff.mp (List.mem_singleton.mp kind)
    cases json with
    | str kind =>
        cases text
        exact (kept _ _ listed typed (by decide)).mpr
          (.inl (Aggregation.foreign_unread typed (by decide)))
    | _ => cases text

end Edits

end OlapQuery
