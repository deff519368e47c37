import OlapQuery.Proofs.OrderedRanges
import OlapQuery.Proofs.ReadColumns

-- The intervals in a Druid query: those that it scans, and those of the conditions on the time that
-- stay in its filter or stand in the filter of an aggregator. Ranges that are met with each other
-- leave nothing or a range in order. All others are written as they come, so that a range that ends
-- before it starts, or past what stands for an open bound, makes a text that is not well formed.

namespace OlapQuery.Druid

open OlapQuery.Expr AggregateSet

namespace Filter

mutual
def intervals : Filter → List String
  | .and fields => intervalsAll fields
  | .or fields => intervalsAll fields
  | .not field => intervals field
  | .interval _ texts => texts
  | _ => []

def intervalsAll : List Filter → List String
  | [] => []
  | f :: rest => intervals f ++ intervalsAll rest
end

theorem intervalsAll_flatMap (fields : List Filter) :
    intervalsAll fields = fields.flatMap intervals := by
  induction fields with
  | nil => rfl
  | cons f rest ih => rw [intervalsAll,ih,List.flatMap_cons]

@[simp] theorem intervals_constant (keep : Bool) : (constant keep).intervals = [] := by
  cases keep <;> rfl

end Filter

def isTimeRef (dataset : Dataset) : Expr → Bool
  | .ref name => dataset.isTimeAttribute name
  | _ => false

-- The ranges that a condition with a literal puts on the time, where it stands. Sets of anything
-- but ranges are compared one by one.
def placedRanges : BinaryOp → Value → List TimeRange
  | .is,.time t => [.instant t]
  | .greaterThan,.time t => [{ start := some (t.addMillis 1),finish := none }]
  | .greaterThanOrEqual,.time t => [{ start := some t,finish := none }]
  | .lessThan,.time t => [{ start := none,finish := some t }]
  | .lessThanOrEqual,.time t => [{ start := none,finish := some (t.addMillis 1) }]
  | .member,.timeRange r => [r]
  | .overlap,.timeRange r => [r]
  | .member,.set _ elements => (elements.mapM FilterBuilder.range?).getD []
  | .overlap,.set _ elements => (elements.mapM FilterBuilder.range?).getD []
  | _,_ => []

mutual
def timeRanges (dataset : Dataset) : Expr → List TimeRange
  | .not e => timeRanges dataset e
  | .binary op e (.literal v) => if isTimeRef dataset e then placedRanges op v else []
  | .junction _ es => timeRangesAll dataset es
  | _ => []

def timeRangesAll (dataset : Dataset) : List Expr → List TimeRange
  | [] => []
  | e :: rest => timeRanges dataset e ++ timeRangesAll dataset rest
end

namespace FilterBuilder

variable {b : FilterBuilder} {e x : Expr} {f : Filter}

theorem isTime_ref : b.isTime e = isTimeRef b.dataset e := by
  cases e <;> rfl

theorem matchesValue_intervals {v : Value} (ran : b.matchesValue e v = .ok f) : f.intervals = [] := by
  obtain ⟨s,-,made⟩ := Compiled.bind_ok.mp ran
  split at made <;> (cases Compiled.pure_ok.mp made; rfl)

theorem bound_intervals {lower upper : Option String} {lowerStrict upperStrict : Bool}
    {ordering : String} (ran : b.bound e lower lowerStrict upper upperStrict ordering = .ok f) :
    f.intervals = [] := by
  obtain ⟨dimension,-,made⟩ := Compiled.bind_ok.mp ran
  cases Compiled.pure_ok.mp made
  rfl

theorem script_intervals {predicate : Expr} (ran : b.script predicate e = .ok f) :
    f.intervals = [] := by
  unfold script at ran
  split at ran
  · exact absurd ran Compiled.unsupported_ok
  · obtain ⟨dimension,-,made⟩ := Compiled.bind_ok.mp ran
    obtain ⟨function,-,made⟩ := Compiled.bind_ok.mp made
    split at made <;> (cases Compiled.pure_ok.mp made; rfl)

theorem scripted_intervals (ran : b.scripted e = .ok f) : f.intervals = [] := by
  unfold scripted at ran
  split at ran
  · exact absurd ran Compiled.unsupported_ok
  · exact script_intervals ran

theorem search_intervals (ran : b.search e x = .ok f) : f.intervals = [] := by
  obtain ⟨dimension,-,made⟩ := Compiled.bind_ok.mp ran
  obtain ⟨v,-,made⟩ := Compiled.bind_ok.mp made
  split at made
  · cases Compiled.pure_ok.mp made; rfl
  · exact absurd made Compiled.unsupported_ok

theorem inSet_intervals {elements : List Value} (ran : b.inSet e elements = .ok f) :
    f.intervals = (if isTimeRef b.dataset e then (elements.mapM range?).getD [] else []).map
      intervalText := by
  rw [← isTime_ref]
  unfold inSet at ran
  split at ran
  · rename_i ranges time found
    cases ran
    rw [time,found]
    rfl
  · rename_i other
    have none : (if b.isTime e then (elements.mapM range?).getD [] else []) = [] := by
      cases time : b.isTime e with
      | false => rfl
      | true =>
          cases found : elements.mapM range? with
          | none => rfl
          | some ranges => exact absurd found (other ranges time)
    rw [none]
    obtain ⟨fields,each,made⟩ := Compiled.bind_ok.mp ran
    have plain : ∀ f ∈ fields, f.intervals = [] := by
      intro f member
      obtain ⟨v,-,ran⟩ := related_source (mapM_ok each) member
      exact matchesValue_intervals ran
    split at made
    · cases Compiled.pure_ok.mp made
      simp
    · cases Compiled.pure_ok.mp made
      simpa using plain
    · cases Compiled.pure_ok.mp made
      rw [Filter.intervals,Filter.intervalsAll_flatMap,List.flatMap_eq_nil_iff.mpr plain]
      rfl

theorem membership_intervals {op : BinaryOp} (member : op = .member ∨ op = .overlap)
    (ran : b.membership e x = .ok f) :
    f.intervals = (timeRanges b.dataset (.binary op e x)).map intervalText := by
  obtain ⟨v,read,made⟩ := Compiled.bind_ok.mp ran
  cases literal_parts read
  rw [timeRanges]
  split at made
  · rw [inSet_intervals made]
    rcases member with rfl | rfl <;> rfl
  · rename_i range
    rw [← isTime_ref]
    split at made
    · rename_i time
      cases Compiled.pure_ok.mp made
      rw [if_pos time]
      rcases member with rfl | rfl <;> rfl
    · rename_i other
      rw [if_neg other]
      exact matchesValue_intervals made
  · rw [bound_intervals made]
    rcases member with rfl | rfl <;> simp [placedRanges]
  · rename_i set range number
    rw [matchesValue_intervals made]
    have plain : placedRanges op v = [] := by
      rcases member with rfl | rfl <;> (unfold placedRanges; split <;> simp_all)
    simp [plain]

theorem textComparison_intervals {v : Value} {greater strict : Bool}
    (ran : b.textComparison e v greater strict = .ok f) : f.intervals = [] := by
  unfold textComparison at ran
  dsimp only at ran
  split at ran
  · exact absurd ran Compiled.unsupported_ok
  · split at ran <;> exact bound_intervals ran

def comparisonOp : Bool → Bool → BinaryOp
  | true,true => .greaterThan
  | true,false => .greaterThanOrEqual
  | false,true => .lessThan
  | false,false => .lessThanOrEqual

theorem comparedTimes_placed {t : Time.Instant} {greater strict : Bool} {range : TimeRange}
    (goes : comparedTimes t greater strict = .ok range) :
    placedRanges (comparisonOp greater strict) (.time t) = [range] := by
  unfold comparedTimes at goes
  cases next : t.next with
  | error =>
      rw [next] at goes
      split at goes <;> cases goes <;> rfl
  | ok u =>
      obtain ⟨-,rfl⟩ := Time.Instant.next_ok.mp next
      rw [next] at goes
      split at goes <;> cases goes <;> rfl

theorem comparison_intervals {greater strict : Bool}
    (ran : b.comparison e x greater strict = .ok f) : f.intervals
      = (timeRanges b.dataset (.binary (comparisonOp greater strict) e x)).map intervalText := by
  obtain ⟨v,read,made⟩ := Compiled.bind_ok.mp ran
  cases literal_parts read
  rw [timeRanges,← isTime_ref]
  split at made
  · rename_i t time
    obtain ⟨range,goes,made⟩ := Compiled.bind_ok.mp made
    cases Compiled.pure_ok.mp made
    rw [if_pos time,comparedTimes_placed (Checked.raise_ok.mp goes)]
    rfl
  · rename_i v _ _ other
    rw [textComparison_intervals made]
    cases time : b.isTime e with
    | false => rfl
    | true => cases greater <;> cases strict <;> cases v <;> first | rfl | exact (other _ time rfl).elim

theorem equality_intervals (ran : b.equality e x = .ok f) :
    f.intervals = (timeRanges b.dataset (.is e x)).map intervalText := by
  obtain ⟨v,read,made⟩ := Compiled.bind_ok.mp ran
  cases literal_parts read
  rw [timeRanges,← isTime_ref]
  split at made
  · rename_i time
    obtain ⟨next,goes,made⟩ := Compiled.bind_ok.mp made
    cases Compiled.pure_ok.mp made
    rw [if_pos time,(Time.Instant.next_ok.mp (Checked.raise_ok.mp goes)).2]
    rfl
  · rename_i v _ _ other
    rw [matchesValue_intervals made]
    cases time : b.isTime e with
    | false => rfl
    | true => cases v <;> first | rfl | exact (other _ time rfl).elim

theorem timeRanges_unplaced {dataset : Dataset} {op : BinaryOp}
    (unplaced : ∀ v, placedRanges op v = []) : timeRanges dataset (.binary op e x) = [] := by
  cases x <;> simp [timeRanges,unplaced]

theorem binary_intervals {op : BinaryOp} (ran : b.binary op e x = .ok f) :
    f.intervals = (timeRanges b.dataset (.binary op e x)).map intervalText := by
  unfold binary at ran
  split at ran
  case h_1 => exact equality_intervals ran
  case h_2 => exact membership_intervals (.inl rfl) ran
  case h_3 => exact membership_intervals (.inr rfl) ran
  case h_4 | h_5 | h_6 | h_7 =>
      exact comparison_intervals ran
  case h_8 =>
      rw [search_intervals ran,timeRanges_unplaced fun v => by cases v <;> rfl]
      rfl
  case h_9 =>
      rw [script_intervals ran,timeRanges_unplaced fun v => by cases v <;> rfl]
      rfl
  case h_10 =>
      rw [scripted_intervals ran,timeRanges_unplaced fun v => by
        unfold placedRanges
        split <;> simp_all]
      rfl

theorem filters_intervals {es : List Expr} {fields : List Filter} (ran : b.filters es = .ok fields)
    (each : ∀ e ∈ es, ∀ f, b.filter e = .ok f →
      f.intervals = (timeRanges b.dataset e).map intervalText) :
    Filter.intervalsAll fields = (timeRangesAll b.dataset es).map intervalText := by
  induction es generalizing fields with
  | nil => cases ran; rfl
  | cons e rest ih =>
      obtain ⟨here,later⟩ := List.forall_mem_cons.mp each
      obtain ⟨first,one,made⟩ := Compiled.bind_ok.mp ran
      obtain ⟨others,more,made⟩ := Compiled.bind_ok.mp made
      cases Compiled.pure_ok.mp made
      rw [Filter.intervalsAll,timeRangesAll,List.map_append,here first one,ih more later]

-- By the junctions and negations of the filter, down to its comparisons.
theorem filter_intervals {e : Expr} {f : Filter} (ran : b.filter e = .ok f) :
    f.intervals = (timeRanges b.dataset e).map intervalText := by
  induction e using Expr.children_induction generalizing f with
  | step e parts =>
  unfold filter at ran
  split at ran
  case h_1 =>
      cases ran
      simp [timeRanges]
  case h_3 =>
      split at ran
      · rename_i made
        cases ran
        exact matchesValue_intervals made
      · exact absurd ran Compiled.unsupported_ok
      · cases ran
  case h_5 =>
      obtain ⟨field,inside,made⟩ := Compiled.bind_ok.mp ran
      cases Compiled.pure_ok.mp made
      simpa [Filter.intervals,timeRanges] using parts _ List.mem_cons_self inside
  case h_6 =>
      split at ran
      · obtain ⟨dimension,-,made⟩ := Compiled.bind_ok.mp ran
        cases Compiled.pure_ok.mp made
        rfl
      · exact script_intervals ran
  case h_8 => exact binary_intervals ran
  case h_9 | h_10 =>
      obtain ⟨fields,inside,made⟩ := Compiled.bind_ok.mp ran
      cases Compiled.pure_ok.mp made
      simpa [Filter.intervals,timeRanges]
        using filters_intervals inside fun e listed f => parts e listed
  case h_7 =>
      rw [scripted_intervals ran]
      unfold timeRanges
      split <;> simp_all
  all_goals
    rw [scripted_intervals ran]
    simp [timeRanges]

end FilterBuilder

def AllWellFormed (texts : List String) : Prop :=
  ∀ text ∈ texts, WellFormed text

def AllOrdered (ranges : List TimeRange) : Prop :=
  ∀ r ∈ ranges, r.Ordered

theorem allWellFormed_map (ranges : List TimeRange) :
    AllWellFormed (ranges.map intervalText) ↔ AllOrdered ranges := by
  simp [AllWellFormed,AllOrdered,wellFormed_interval]

theorem timeRanges_true {dataset : Dataset} {e : Expr} (all : e.isTrue = true) :
    timeRanges dataset e = [] := by
  unfold Expr.isTrue at all
  split at all
  · rfl
  · cases all

theorem FilterBuilder.build_intervals {b : FilterBuilder} {e : Expr} {found : Option Filter}
    (ran : b.build e = .ok found) :
    (found.map Filter.intervals).getD [] = (timeRanges b.dataset e).map intervalText := by
  unfold build at ran
  split at ran
  · rename_i all
    cases ran
    rw [timeRanges_true all]
    rfl
  · cases made : b.filter e with
    | error e => rw [made] at ran; cases ran
    | ok f =>
        rw [made] at ran
        cases ran
        exact filter_intervals made

namespace Aggregation

def intervals : Aggregation → List String
  | .filtered _ condition aggregator => condition.intervals ++ intervals aggregator
  | _ => []

theorem script_unplaced {fold : ScriptFold} {name : String} {measure : Expr} {a : Aggregation}
    (ran : fold.aggregation name measure = .ok a) : a.intervals = [] := by
  obtain ⟨value,-,made⟩ := Compiled.bind_ok.mp ran
  cases Compiled.pure_ok.mp made
  rfl

theorem measured_unplaced {name : String} {x : Expr} {fold : ScriptFold}
    {measure : Measure} {timestamps : Compiled Aggregation} {aggregator : FieldAggregator}
    {a : Aggregation} (timed : timestamps = .ok a → a.intervals = [])
    (made : (match measure with
      | .timestamps => timestamps
      | .column fieldName => return .field aggregator name fieldName
      | .derived => fold.aggregation name x) = .ok a) : a.intervals = [] := by
  cases measure with
  | timestamps => exact timed made
  | column fieldName => cases Compiled.pure_ok.mp made; rfl
  | derived => exact script_unplaced made

theorem unfiltered_unplaced {dataset : Dataset} {name : String} {e : Expr} {a : Aggregation}
    (ran : unfiltered dataset name e = .ok a) : a.intervals = [] := by
  unfold unfiltered at ran
  split at ran
  case h_1 => cases ran; rfl
  case h_2 =>
      obtain ⟨measure,-,made⟩ := Compiled.bind_ok.mp ran
      refine measured_unplaced ?_ made
      intro failed; cases failed
  case h_3 | h_4 =>
      obtain ⟨measure,-,made⟩ := Compiled.bind_ok.mp ran
      exact measured_unplaced (fun made => by cases Compiled.pure_ok.mp made; rfl) made
  case h_5 =>
      unfold ofCountDistinct at ran
      split at ran
      · split at ran
        · cases ran
        · rename_i found known
          cases ran
          cases found.isUnique <;> rfl
      · cases ran
  case h_6 =>
      unfold ofCustom at ran
      split at ran
      · cases ran
      · cases ran; rfl
      · cases ran
  case h_7 => cases ran

end Aggregation

def takenRanges (dataset : Dataset) (a : Expr) : List TimeRange :=
  timeRanges dataset (.andAll (a.aggregateFilters?.getD []))

namespace Aggregation

theorem ofAggregate_intervals {dataset : Dataset} {k : NamedAggregate} {a : Aggregation}
    (ran : ofAggregate dataset k = .ok a) :
    a.intervals = (takenRanges dataset k.expression).map intervalText := by
  unfold ofAggregate at ran
  split at ran
  · cases ran
  · rename_i operand chained
    obtain ⟨aggregator,plain,made⟩ := Compiled.bind_ok.mp ran
    have filters : k.expression.aggregateFilters?.getD []
        = (operand.datasetChain?.map (·.2)).getD [] := by
      rw [Expr.aggregateFilters?,chained,Option.bind_some]
    rw [takenRanges,filters]
    split at made
    · rename_i none
      cases Compiled.pure_ok.mp made
      rw [none,timeRanges_true rfl]
      exact unfiltered_unplaced plain
    · obtain ⟨found,built,made⟩ := Compiled.bind_ok.mp made
      have placed := FilterBuilder.build_intervals built
      rw [← placed]
      split at made
      · cases Compiled.pure_ok.mp made
        exact unfiltered_unplaced plain
      · cases Compiled.pure_ok.mp made
        simp [intervals,unfiltered_unplaced plain]

end Aggregation

theorem aggregations_ordered {dataset : Dataset} {set : AggregateSet} {found : List Aggregation}
    (ran : aggregations dataset set = .ok found) :
    (∀ a ∈ found, AllWellFormed a.intervals) ↔
      ∀ k ∈ set.aggregates, AllOrdered (takenRanges dataset k.expression) := by
  unfold aggregations at ran
  split at ran
  · rename_i none
    cases ran
    simp [none,AllWellFormed,Aggregation.intervals]
  · refine (forall_exact (mapM_ok ran) fun k a ran => ?_).symm
    rw [Aggregation.ofAggregate_intervals ran,allWellFormed_map]

def Intervals.texts : Intervals → List String
  | .one text => [text]
  | .many texts => texts

theorem Intervals.texts_ofList (texts : List String) : (ofList texts).texts = texts := by
  unfold ofList
  split <;> rfl

namespace Query

def scan? : Query → Option Scan
  | .timeseries q => some q.scan
  | .topN q => some q.scan
  | .groupBy q => some q.scan
  | .select q => some q.scan
  | .timeBoundary _ => none

-- All intervals in a query: those scanned, and those in its filter and in its aggregators.
def intervalTexts (q : Query) : List String :=
  (q.scan?.map fun s => s.intervals.texts ++ (s.filter.map Filter.intervals).getD []).getD []
    ++ q.aggregations.flatMap (·.intervals)

end Query

-- The ranges of a folded query: those taken out of its filter, those left there, and those of the
-- conditions on its aggregates.
structure RangesOrdered (dataset : Dataset) (folded : FoldedQuery) : Prop where
  scanned : AllOrdered ((TimeFilter.split folded.filter dataset.timeAttribute).intervals.getD [])
  placed : AllOrdered (timeRanges dataset (TimeFilter.split folded.filter dataset.timeAttribute).rest)
  taken : ∀ k ∈ (collect folded.applies).aggregates, AllOrdered (takenRanges dataset k.expression)

namespace Planner

theorem plan_scans {p : Planner} {plan : Plan} (ran : p.plan = .ok plan) :
    p.timeBoundary? = some plan ∨
      (∃ s, plan.query.scan? = some s ∧ s.intervals = p.intervals ∧ s.filter = p.filter) ∧
      ((p.folded.mode = .raw ∧ plan.query.aggregations = []) ∨
        aggregations p.dataset p.aggregates = .ok plan.query.aggregations) := by
  cases plan_chosen ran with
  | select mode ran =>
      unfold Planner.select at ran
      split at ran
      · cases ran
      · cases ran
        exact .inr ⟨⟨_,rfl,rfl,rfl⟩,.inl ⟨mode,rfl⟩⟩
  | timeBoundary unsplit bounds => exact .inl bounds
  | totals unsplit ran =>
      obtain ⟨_,_,made,-,rfl⟩ := Planner.totals_made ran
      exact .inr ⟨⟨_,rfl,rfl,rfl⟩,.inr made⟩
  | timeseries unfiltered single bucket ran =>
      obtain ⟨_,_,_,made,-,-,rfl⟩ := Planner.timeseries_made ran
      exact .inr ⟨⟨_,rfl,rfl,rfl⟩,.inr made⟩
  | topN unfiltered single ran =>
      obtain ⟨_,_,_,made,-,-,rfl⟩ := Planner.topN_made ran
      exact .inr ⟨⟨_,rfl,rfl,rfl⟩,.inr made⟩
  | groupBy filtered ran =>
      obtain ⟨_,_,_,_,made,-,-,-,rfl⟩ := Planner.groupBy_made ran
      exact .inr ⟨⟨_,rfl,rfl,rfl⟩,.inr made⟩

theorem make_intervals {dataset : Dataset} {folded : FoldedQuery} {p : Planner}
    (ran : make dataset folded = .ok p) :
    p.intervals.texts
        = intervalTexts (TimeFilter.split folded.filter dataset.timeAttribute).intervals ∧
      (p.filter.map Filter.intervals).getD []
        = (timeRanges dataset (TimeFilter.split folded.filter dataset.timeAttribute).rest).map
            intervalText := by
  obtain ⟨_,_,-,rfl,built,rfl⟩ := make_cases ran
  exact ⟨Intervals.texts_ofList _,FilterBuilder.build_intervals built⟩

theorem timeBoundary_ordered {p : Planner} {plan : Plan} (bounds : p.timeBoundary? = some plan) :
    plan.query.intervalTexts = [] ∧ RangesOrdered p.dataset p.folded := by
  obtain ⟨all,plain⟩ := timeBoundary_plain bounds
  refine ⟨?_,?_,?_,fun k member => ?_⟩
  · unfold timeBoundary? at bounds
    split at bounds
    · cases bounds
    · obtain ⟨renames,-,made⟩ := Option.bind_eq_some_iff.mp bounds
      cases made
      rfl
  · rw [isTrue_exact.mp all]
    cases p.dataset.timeAttribute <;> exact nofun
  · rw [timeRanges_true (split_true all _)]
    exact nofun
  · obtain ⟨data,column,shape | shape⟩ := plain k member <;>
      (rw [takenRanges,shape,timeRanges_true rfl]; exact nofun)

-- By the query that is chosen: all but that for the bounds of time scan what is planned.
theorem plan_ordered {p : Planner} {plan : Plan} (known : p.aggregates = collect p.folded.applies)
    (raw : p.folded.mode = .raw → p.folded.applies = [])
    (scanned : p.intervals.texts
      = intervalTexts (TimeFilter.split p.folded.filter p.dataset.timeAttribute).intervals)
    (kept : (p.filter.map Filter.intervals).getD []
      = (timeRanges p.dataset
          (TimeFilter.split p.folded.filter p.dataset.timeAttribute).rest).map intervalText)
    (ran : p.plan = .ok plan) :
    (∀ text ∈ plan.query.intervalTexts, WellFormed text) ↔ RangesOrdered p.dataset p.folded := by
  rcases plan_scans ran with bounds | ⟨⟨s,scan,intervals,filter⟩,aggregates⟩
  · obtain ⟨none,ordered⟩ := timeBoundary_ordered bounds
    rw [none]
    exact iff_of_true nofun ordered
  · have taken : (∀ a ∈ plan.query.aggregations, AllWellFormed a.intervals) ↔
        ∀ k ∈ (collect p.folded.applies).aggregates,
          AllOrdered (takenRanges p.dataset k.expression) := by
      rcases aggregates with ⟨mode,none⟩ | made
      · rw [none,raw mode]
        exact iff_of_true nofun nofun
      · rw [known] at made
        exact aggregations_ordered made
    rw [Query.intervalTexts,scan,Option.map_some,Option.getD_some,intervals,filter,scanned,kept,
      List.forall_mem_append,List.forall_mem_append,List.forall_mem_flatMap,wellFormed_intervals]
    change ((_ ∧ AllWellFormed _) ∧ ∀ a ∈ plan.query.aggregations, AllWellFormed a.intervals) ↔ _
    rw [allWellFormed_map,taken]
    exact ⟨fun ⟨⟨scanned,placed⟩,taken⟩ => ⟨scanned,placed,taken⟩,
      fun ordered => ⟨⟨ordered.scanned,ordered.placed⟩,ordered.taken⟩⟩

end Planner

section Within

theorem placedRanges_inside {op : BinaryOp} {v : Value} (within : v.Within) :
    ∀ r ∈ placedRanges op v, r.Inside := by
  have elements {elements : List Value} (each : ∀ v ∈ elements, v.WithinHere) :
      ∀ r ∈ (elements.mapM FilterBuilder.range?).getD [], r.Inside := by
    cases found : elements.mapM FilterBuilder.range? with
    | none => exact nofun
    | some ranges =>
        intro r listed
        obtain ⟨v,member,made⟩ := Json.mem_mapM found r listed
        unfold FilterBuilder.range? at made
        split at made
        · cases made; exact each _ member
        · cases made
  unfold placedRanges
  split
  case h_8 | h_9 => exact elements within
  case h_10 => exact nofun
  all_goals rw [List.forall_mem_singleton]
  case h_1 => exact TimeRange.instant_inside within
  case h_2 => exact TimeRange.from_inside (Time.Instant.Within.next_starts within)
  case h_3 => exact TimeRange.from_inside (Time.Instant.Within.starts within)
  case h_4 => exact TimeRange.until_inside (Time.Instant.Within.ends within)
  case h_5 => exact TimeRange.until_inside (Time.Instant.Within.next_ends within)
  case h_6 | h_7 => exact within

theorem timeRangesAll_inside {dataset : Dataset} {es : List Expr}
    (each : ∀ e ∈ es, ∀ r ∈ timeRanges dataset e, r.Inside) :
    ∀ r ∈ timeRangesAll dataset es, r.Inside := by
  induction es with
  | nil => exact nofun
  | cons e rest ih =>
      obtain ⟨first,later⟩ := List.forall_mem_cons.mp each
      exact List.forall_mem_append.mpr ⟨first,ih later⟩

theorem timeRanges_inside {dataset : Dataset} {e : Expr} (within : e.Within) :
    ∀ r ∈ timeRanges dataset e, r.Inside := by
  induction e using Expr.children_induction with
  | step e parts =>
  unfold timeRanges
  split
  · exact parts _ List.mem_cons_self ((literals_unary _ _).mp within)
  · split
    · exact placedRanges_inside ((literals_literal _).mp ((literals_binary _ _ _).mp within).2)
    · exact nofun
  · have inside := (literals_junction _ _).mp within
    exact timeRangesAll_inside fun e listed => parts e listed (inside e listed)
  · exact nofun

theorem within_ordered {dataset : Dataset} {e : Expr} {folded : FoldedQuery}
    (ran : fold dataset e = .ok folded) (base : dataset.filter.Within) (within : e.Within) :
    RangesOrdered dataset folded := by
  have filter := Fold.filter_literals Value.within_boolean ran base within
  obtain ⟨scanned,rest⟩ := TimeFilter.split_inside filter dataset.timeAttribute
  refine ⟨fun r listed => (scanned r listed).ordered,
    fun r listed => (timeRanges_inside rest r listed).ordered,fun k member r listed => ?_⟩
  have aggregate := collect_literals (Fold.applies_literals Value.within_boolean ran within) k member
  have conditions : (andAll (k.expression.aggregateFilters?.getD [])).Within := by
    refine andAll_literals Value.within_boolean ?_
    cases own : k.expression.aggregateFilters? with
    | none => exact nofun
    | some filters => exact aggregateFilters_literals aggregate own
  exact (timeRanges_inside conditions r listed).ordered

end Within

-- All intervals in a query are well formed exactly if all ranges that it is made from are in order.
-- They are if the times in the expression lie between those that open bounds stand for, and its
-- ranges end no earlier than they start.
theorem intervals_wellFormed_iff {dataset : Dataset} {e : Expr} {level : Level} {q : Query}
    (plans : planLevel dataset e = .ok level) (asked : level.query = some (.druid q)) :
    ∃ folded, fold dataset e = .ok folded ∧
      ((∀ text ∈ q.intervalTexts, WellFormed text) ↔ RangesOrdered dataset folded) ∧
      (dataset.filter.Within → e.Within → ∀ text ∈ q.intervalTexts, WellFormed text) := by
  obtain ⟨folded,planned,folds,ran,rfl,-,-⟩ := planLevel_druid plans asked
  obtain ⟨p,made,chosen⟩ := Compiled.bind_ok.mp ran
  obtain ⟨scanned,kept⟩ := Planner.make_intervals made
  obtain ⟨rfl,rfl,known⟩ := Planner.make_parts made
  have exactly := Planner.plan_ordered known (fold_raw folds) scanned kept chosen
  exact ⟨p.folded,folds,exactly,fun base within => exactly.mpr (within_ordered folds base within)⟩

namespace Archive

def records : Dataset :=
  { engine := .druid,source := "records",timeAttribute := some "time"
    attributes := [{ name := "time",type := .time },{ name := "page",type := .string }] }

def march (day : Nat) : Time.Instant :=
  ⟨1425168000 + (day - 1) * 86400,0⟩

def during (start finish : Time.Instant) : Expr :=
  .member (.ref "time") (.literal (.timeRange ⟨some start,some finish⟩))

def countWhere (condition : Expr) : Expr :=
  .count (.filter (.ref "data") condition)

theorem march_within {day : Nat} (most : day ≤ 1000) : (march day).Within := by
  refine ⟨⟨Nat.zero_lt_succ _,nofun⟩,?_,?_⟩
  · rw [Time.Instant.le_exact]
    simp only [march,firstTime]
    omega
  · rw [Time.Instant.le_false]
    simp only [march,lastTime]
    omega

theorem during_within {first last : Nat} (order : first ≤ last) (most : last ≤ 1000) :
    (during (march first) (march last)).Within := by
  have starts := march_within (Nat.le_trans order most)
  have ends := march_within most
  refine (literals_binary _ _ _).mpr ⟨literals_ref _,(literals_literal _).mpr ⟨?_,?_,?_⟩⟩
  · rintro s ⟨⟩; exact starts.starts
  · rintro f ⟨⟩; exact ends.ends
  · rintro s ⟨⟩ f ⟨⟩
    rw [Time.Instant.le_exact]
    simp only [march]
    omega

def marchBut : Expr :=
  countWhere (.and [during (march 1) (march 32),.not (during (march 12) (march 13))])

theorem marchBut_wellFormed : ∃ level q, planLevel records marchBut = .ok level ∧
    level.query = some (.druid q) ∧
    q.intervalTexts = ["2015-03-01/2015-04-01","2015-03-12/2015-03-13"] ∧
    ∀ text ∈ q.intervalTexts, WellFormed text := by
  obtain ⟨level,q,plans,asked,texts⟩ : ∃ level q, planLevel records marchBut = .ok level ∧
      level.query = some (.druid q) ∧
      q.intervalTexts = ["2015-03-01/2015-04-01","2015-03-12/2015-03-13"] :=
    ⟨_,_,rfl,rfl,by decide +kernel⟩
  obtain ⟨folded,-,-,within⟩ := intervals_wellFormed_iff plans asked
  have base : records.filter.Within := (literals_literal _).mpr (Value.within_boolean true)
  have whole : marchBut.Within := by
    simpa [marchBut,countWhere,Within] using
      ⟨during_within (show 1 ≤ 32 by decide) (by decide),
        during_within (show 12 ≤ 13 by decide) (by decide)⟩
  exact ⟨level,q,plans,asked,texts,within base whole⟩

theorem inverted_malformed {range : TimeRange} {text : String} (written : intervalText range = text)
    (inverted : ((range.start.map Time.Instant.told).getD firstTime).le
      ((range.finish.map Time.Instant.told).getD lastTime) = false) : ¬ WellFormed text := by
  intro wellFormed
  have order := ((wellFormed_interval range).mp (written ▸ wellFormed)).order
  rw [inverted] at order
  cases order

def Malforms (e : Expr) (text : String) : Prop :=
  ∃ level q, planLevel records e = .ok level ∧ level.query = some (.druid q) ∧
    q.intervalTexts = [text] ∧ ¬ WellFormed text

-- From the fourteenth to the twelfth of March, and from the year 3500 on.
theorem late_starts_malformed :
    Malforms (countWhere (during (march 14) (march 12))) "2015-03-14/2015-03-12" ∧
    Malforms (countWhere (.greaterThanOrEqual (.ref "time") (.literal (.time ⟨48282134400,0⟩))))
      "3500-01-01/3000-01-01" := by
  refine ⟨⟨_,_,rfl,rfl,by decide +kernel,?_⟩,⟨_,_,rfl,rfl,by decide +kernel,?_⟩⟩
  · exact @inverted_malformed ⟨some (march 14),some (march 12)⟩ _ (by decide +kernel) (by decide)
  · exact @inverted_malformed ⟨some ⟨48282134400,0⟩,none⟩ _ (by decide +kernel) (by decide)

end Archive

end OlapQuery.Druid
