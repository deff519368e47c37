import OlapQuery.Proofs.GroupedColumns

-- The columns that a Druid query reads: in its filter, in its dimensions and in its aggregators.
-- Names are looked up in many places, and the time has another name in the engine than in the
-- dataset. Two kinds of places keep a name as it is: extractions from the time attribute, and
-- what is computed by a script or counted.

namespace OlapQuery.Druid

open OlapQuery.Expr AggregateSet

-- A column of the engine: declared, or its own column of timestamps in place of the time.
def Existing (dataset : Dataset) (column : String) : Prop :=
  column = timeDimension ∨ (Declared dataset column ∧ dataset.isTimeAttribute column = false)

-- Something extracted from the time, which is read under the name that only the dataset knows.
def Misread (dataset : Dataset) (e : Expr) : Prop :=
  ∃ name, keyForm e = .extracted (.ref name) ∧ dataset.isTimeAttribute name = true ∧
    name ≠ timeDimension

theorem ReadFrom.existing {dataset : Dataset} {e : Expr} {column : String}
    (read : ReadFrom dataset e column) : Existing dataset column ↔ ¬ Misread dataset e := by
  cases read with
  | column form declared other => simp [Existing,Misread,form,declared,other]
  | timestamps form => simp [Existing,Misread,form]
  | ofTime form => simp [Existing,Misread,form]
  | extracted form declared =>
      simp only [Existing,Misread,form,declared,KeyForm.extracted.injEq,Expr.ref.injEq,true_and]
      cases time : dataset.isTimeAttribute column <;> simp [time]
  | script form only other =>
      have member : column ∈ e.references.filter fun name => (dataset.attribute? name).isSome := by
        simp [only]
      simp [Existing,Misread,form,other,Declared,(List.mem_filter.mp member).2]

theorem column_read {dataset : Dataset} {name : String} : ¬ Misread dataset (.ref name) := by
  rintro ⟨_,form,-⟩; cases form

namespace Filter

mutual
def columns : Filter → List String
  | .selector dimension _ => [dimension]
  | .extraction dimension _ _ => [dimension]
  | .and fields => columnsAll fields
  | .or fields => columnsAll fields
  | .not field => columns field
  | .regex dimension _ => [dimension]
  | .search dimension _ => [dimension]
  | .javascript dimension _ => [dimension]
  | .bound dimension _ _ _ _ _ => [dimension]
  | .interval dimension _ => [dimension]

def columnsAll : List Filter → List String
  | [] => []
  | f :: rest => columns f ++ columnsAll rest
end

theorem columnsAll_flatMap (fields : List Filter) : columnsAll fields = fields.flatMap columns := by
  induction fields with
  | nil => simp [columnsAll]
  | cons f rest ih => simp [columnsAll,ih]

@[simp] theorem columns_constant (keep : Bool) : (constant keep).columns = [timeDimension] := by
  cases keep <;> simp [constant,never,columns]

@[simp] theorem columns_onTime (ranges : List TimeRange) :
    (onTime ranges).columns = [timeDimension] := by
  simp [onTime,columns]

end Filter

-- Only columns of the engine are read.
def Filter.Sound (dataset : Dataset) (f : Filter) : Prop :=
  ∀ column ∈ f.columns, Existing dataset column

theorem Filter.sound_time {dataset : Dataset} {f : Filter} (time : f.columns = [timeDimension]) :
    f.Sound dataset := by
  simp [Sound,time,Existing]

theorem Filter.sound_and {dataset : Dataset} {fields : List Filter} :
    (Filter.and fields).Sound dataset ↔ ∀ f ∈ fields, f.Sound dataset := by
  simp only [Sound,columns,columnsAll_flatMap,List.forall_mem_flatMap]

theorem Filter.sound_or {dataset : Dataset} {fields : List Filter} :
    (Filter.or fields).Sound dataset ↔ ∀ f ∈ fields, f.Sound dataset := by
  simp only [Sound,columns,columnsAll_flatMap,List.forall_mem_flatMap]

def isEmptySet : Expr → Bool
  | .literal (.set _ []) => true
  | _ => false

-- What a filter compares with values one by one. No values compare nothing.
mutual
def comparedOperands : Expr → List Expr
  | .not e => comparedOperands e
  | .is e _ => [e]
  | .member e x => if isEmptySet x then [] else [e]
  | .overlap e x => if isEmptySet x then [] else [e]
  | .junction _ es => comparedOperandsAll es
  | _ => []

def comparedOperandsAll : List Expr → List Expr
  | [] => []
  | e :: rest => comparedOperands e ++ comparedOperandsAll rest
end

theorem comparedOperandsAll_flatMap (es : List Expr) :
    comparedOperandsAll es = es.flatMap comparedOperands := by
  induction es with
  | nil => simp [comparedOperandsAll]
  | cons e rest ih => simp [comparedOperandsAll,ih]

-- No comparison is with something that is misread.
def WellCompared (dataset : Dataset) (e : Expr) : Prop :=
  ∀ operand ∈ comparedOperands e, ¬ Misread dataset operand

theorem wellCompared_junction {dataset : Dataset} {op : Junction} {es : List Expr} :
    WellCompared dataset (.junction op es) ↔ ∀ e ∈ es, WellCompared dataset e := by
  simp only [WellCompared,comparedOperands,comparedOperandsAll_flatMap,List.forall_mem_flatMap]

namespace FilterBuilder

variable {b : FilterBuilder} {e x : Expr} {f : Filter}

theorem literal_parts {v : Value} (ran : literal x = .ok v) : x = .literal v := by
  unfold literal at ran
  split at ran
  · cases ran; rfl
  · exact absurd ran Compiled.unsupported_ok

theorem isTime_read (time : b.isTime e = true) : ¬ Misread b.dataset e := by
  unfold isTime at time
  split at time
  · exact column_read
  · cases time

theorem plainDimension_parts {dimension : String} (ran : b.plainDimension e = .ok dimension) :
    ¬ Misread b.dataset e ∧ Existing b.dataset dimension := by
  unfold plainDimension at ran
  split at ran
  · rename_i name
    split at ran
    · cases ran
    · rename_i column found
      cases ran
      refine ⟨column_read,?_⟩
      cases time : b.dataset.isTimeAttribute name <;> simp [Existing,Declared,found,time]
  · exact absurd ran Compiled.unsupported_ok

theorem source_reads {s : DimensionSource} (ran : b.source e = .ok s) :
    ReadFrom b.dataset e s.dimension := by
  unfold source at ran
  split at ran
  · rename_i name
    split at ran
    · exact DimensionSource.ofExpr_reads ran
    · rename_i other
      have other : b.dataset.isTimeAttribute name = false := by simpa using other
      obtain ⟨dimension,plain,made⟩ := Compiled.bind_ok.mp ran
      cases Compiled.pure_ok.mp made
      unfold plainDimension at plain
      dsimp only at plain
      split at plain
      · cases plain
      · rename_i column found
        cases plain
        simp only [other,Bool.false_eq_true,if_false]
        exact .column rfl (by simp [Declared,found]) other
  · exact DimensionSource.ofExpr_reads ran

theorem matchesValue_exact {v : Value} (ran : b.matchesValue e v = .ok f) :
    f.Sound b.dataset ↔ ¬ Misread b.dataset e := by
  obtain ⟨s,source,made⟩ := Compiled.bind_ok.mp ran
  have columns : f.columns = [s.dimension] := by
    split at made <;> (cases Compiled.pure_ok.mp made; simp [Filter.columns])
  rw [← (source_reads source).existing,Filter.Sound,columns,List.forall_mem_singleton]

theorem bound_parts {lower upper : Option String} {lowerStrict upperStrict : Bool}
    {ordering : String} (ran : b.bound e lower lowerStrict upper upperStrict ordering = .ok f) :
    ¬ Misread b.dataset e ∧ f.Sound b.dataset := by
  obtain ⟨dimension,plain,made⟩ := Compiled.bind_ok.mp ran
  cases Compiled.pure_ok.mp made
  simpa [Filter.Sound,Filter.columns] using plainDimension_parts plain

theorem comparison_sound {greater strict : Bool} (ran : b.comparison e x greater strict = .ok f) :
    f.Sound b.dataset := by
  obtain ⟨v,-,made⟩ := Compiled.bind_ok.mp ran
  split at made
  · obtain ⟨range,-,made⟩ := Compiled.bind_ok.mp made
    cases Compiled.pure_ok.mp made
    exact Filter.sound_time (by simp)
  · unfold textComparison at made
    dsimp only at made
    split at made
    · exact absurd made Compiled.unsupported_ok
    · split at made <;> exact (bound_parts made).2

theorem script_sound {predicate : Expr} (ran : b.script predicate e = .ok f) :
    f.Sound b.dataset := by
  unfold script at ran
  split at ran
  · exact absurd ran Compiled.unsupported_ok
  · obtain ⟨dimension,plain,made⟩ := Compiled.bind_ok.mp ran
    obtain ⟨function,-,made⟩ := Compiled.bind_ok.mp made
    have existing := (plainDimension_parts plain).2
    split at made <;>
      (cases Compiled.pure_ok.mp made; simpa [Filter.Sound,Filter.columns] using existing)

theorem scripted_sound (ran : b.scripted e = .ok f) : f.Sound b.dataset := by
  unfold scripted at ran
  split at ran
  · exact absurd ran Compiled.unsupported_ok
  · exact script_sound ran

theorem search_sound (ran : b.search e x = .ok f) : f.Sound b.dataset := by
  obtain ⟨dimension,plain,made⟩ := Compiled.bind_ok.mp ran
  obtain ⟨v,-,made⟩ := Compiled.bind_ok.mp made
  split at made
  · cases Compiled.pure_ok.mp made
    simpa [Filter.Sound,Filter.columns] using (plainDimension_parts plain).2
  · exact absurd made Compiled.unsupported_ok

theorem equality_exact (ran : b.equality e x = .ok f) :
    f.Sound b.dataset ↔ ¬ Misread b.dataset e := by
  obtain ⟨v,-,made⟩ := Compiled.bind_ok.mp ran
  split at made
  · rename_i time
    obtain ⟨next,-,made⟩ := Compiled.bind_ok.mp made
    cases Compiled.pure_ok.mp made
    exact iff_of_true (Filter.sound_time (by simp)) (isTime_read time)
  · exact matchesValue_exact made

-- Each element is compared with the operand, so one element is enough to read it.
theorem elements_exact {elements : List Value} {fields : List Filter}
    (ran : elements.mapM (b.matchesValue e) = .ok fields) :
    (∀ f ∈ fields, f.Sound b.dataset) ↔ elements = [] ∨ ¬ Misread b.dataset e := by
  have same : ∀ v f, b.matchesValue e v = .ok f →
      (¬ Misread b.dataset e ↔ f.Sound b.dataset) := fun v f ran => (matchesValue_exact ran).symm
  rw [← forall_exact (mapM_ok ran) same]
  cases elements <;> simp +contextual

theorem inSet_exact {elements : List Value} (ran : b.inSet e elements = .ok f) :
    f.Sound b.dataset ↔ elements = [] ∨ ¬ Misread b.dataset e := by
  unfold inSet at ran
  split at ran
  · rename_i time _
    cases ran
    exact iff_of_true (Filter.sound_time (by simp)) (.inr (isTime_read time))
  · obtain ⟨fields,each,made⟩ := Compiled.bind_ok.mp ran
    rw [← elements_exact each]
    split at made
    · cases Compiled.pure_ok.mp made
      simpa using Filter.sound_time (by simp)
    · cases Compiled.pure_ok.mp made
      simp
    · cases Compiled.pure_ok.mp made
      exact Filter.sound_or

theorem membership_exact (ran : b.membership e x = .ok f) :
    f.Sound b.dataset ↔ isEmptySet x = true ∨ ¬ Misread b.dataset e := by
  obtain ⟨v,read,made⟩ := Compiled.bind_ok.mp ran
  cases literal_parts read
  split at made
  · rename_i type elements
    rw [inSet_exact made]
    cases elements <;> simp [isEmptySet]
  · split at made
    · rename_i time
      cases Compiled.pure_ok.mp made
      exact iff_of_true (Filter.sound_time (by simp)) (.inr (isTime_read time))
    · simpa [isEmptySet] using matchesValue_exact made
  · obtain ⟨read,sound⟩ := bound_parts made
    exact iff_of_true sound (.inr read)
  · rename_i single _ _
    have full : isEmptySet (.literal v) = false := by
      cases v <;> simp_all [isEmptySet]
    simpa [full] using matchesValue_exact made

theorem binary_exact {op : BinaryOp} (ran : b.binary op e x = .ok f) :
    f.Sound b.dataset ↔ WellCompared b.dataset (.binary op e x) := by
  unfold binary at ran
  split at ran
  case h_1 => simpa [WellCompared,comparedOperands] using equality_exact ran
  case h_2 | h_3 =>
      rw [membership_exact ran,WellCompared,comparedOperands]
      cases isEmptySet x <;> simp
  case h_4 | h_5 | h_6 | h_7 =>
      exact iff_of_true (comparison_sound ran) (by simp [WellCompared,comparedOperands])
  case h_8 => exact iff_of_true (search_sound ran) (by simp [WellCompared,comparedOperands])
  case h_9 => exact iff_of_true (script_sound ran) (by simp [WellCompared,comparedOperands])
  case h_10 =>
      refine iff_of_true (scripted_sound ran) ?_
      unfold WellCompared comparedOperands
      split <;> simp_all

theorem filters_exact {es : List Expr} {fields : List Filter}
    (ran : b.filters es = .ok fields)
    (each : ∀ e ∈ es, ∀ f, b.filter e = .ok f → (f.Sound b.dataset ↔ WellCompared b.dataset e)) :
    (∀ f ∈ fields, f.Sound b.dataset) ↔ ∀ e ∈ es, WellCompared b.dataset e := by
  induction es generalizing fields with
  | nil => cases ran; simp
  | cons e rest ih =>
      obtain ⟨here,later⟩ := List.forall_mem_cons.mp each
      obtain ⟨first,one,made⟩ := Compiled.bind_ok.mp ran
      obtain ⟨others,more,made⟩ := Compiled.bind_ok.mp made
      cases Compiled.pure_ok.mp made
      rw [List.forall_mem_cons,List.forall_mem_cons,here first one,ih more later]

-- By the junctions and negations of the filter, down to its comparisons.
theorem filter_exact {e : Expr} {f : Filter} (ran : b.filter e = .ok f) :
    f.Sound b.dataset ↔ WellCompared b.dataset e := by
  induction e using Expr.children_induction generalizing f with
  | step e parts =>
  unfold filter at ran
  split at ran
  case h_1 =>
      cases ran
      exact iff_of_true (Filter.sound_time (by simp)) (by simp [WellCompared,comparedOperands])
  case h_3 =>
      split at ran
      · rename_i made
        cases ran
        exact iff_of_true ((matchesValue_exact made).mpr column_read)
          (by simp [WellCompared,comparedOperands])
      · exact absurd ran Compiled.unsupported_ok
      · cases ran
  case h_5 =>
      obtain ⟨field,inside,made⟩ := Compiled.bind_ok.mp ran
      cases Compiled.pure_ok.mp made
      simpa [Filter.Sound,Filter.columns,WellCompared,comparedOperands]
        using parts _ List.mem_cons_self inside
  case h_6 =>
      refine iff_of_true ?_ (by simp [WellCompared,comparedOperands])
      split at ran
      · obtain ⟨dimension,plain,made⟩ := Compiled.bind_ok.mp ran
        cases Compiled.pure_ok.mp made
        simpa [Filter.Sound,Filter.columns] using (plainDimension_parts plain).2
      · exact script_sound ran
  case h_8 => exact binary_exact ran
  case h_9 | h_10 =>
      obtain ⟨fields,inside,made⟩ := Compiled.bind_ok.mp ran
      cases Compiled.pure_ok.mp made
      simp only [Filter.sound_and,Filter.sound_or,wellCompared_junction,
        filters_exact inside fun e listed f => parts e listed]
  case h_7 =>
      refine iff_of_true (scripted_sound ran) ?_
      unfold WellCompared comparedOperands
      split <;> simp_all
  all_goals exact iff_of_true (scripted_sound ran) (by simp [WellCompared,comparedOperands])

end FilterBuilder

theorem isTrue_wellCompared {dataset : Dataset} {e : Expr} (all : e.isTrue = true) :
    WellCompared dataset e := by
  unfold Expr.isTrue at all
  split at all
  · simp [WellCompared,comparedOperands]
  · cases all

theorem FilterBuilder.build_exact {b : FilterBuilder} {e : Expr} {found : Option Filter}
    (ran : b.build e = .ok found) :
    (∀ f ∈ found, f.Sound b.dataset) ↔ WellCompared b.dataset e := by
  unfold build at ran
  split at ran
  · rename_i all
    cases ran
    simpa using isTrue_wellCompared all
  · cases made : b.filter e with
    | error e => rw [made] at ran; cases ran
    | ok f =>
        rw [made] at ran
        cases ran
        simpa using filter_exact made

namespace Aggregation

def columns : Aggregation → List String
  | .count _ => []
  | .field _ _ fieldName => [fieldName]
  | .cardinality _ fieldNames _ => fieldNames
  | .javascript _ fieldNames _ _ _ => fieldNames
  | .filtered _ condition aggregator => condition.columns ++ columns aggregator
  | .custom _ => []

def Sound (dataset : Dataset) (a : Aggregation) : Prop :=
  ∀ column ∈ a.columns, Existing dataset column

end Aggregation

-- What an aggregate counts or computes from is there to be read. A single measured column is
-- looked up, and always is.
def WellMeasured (dataset : Dataset) : Expr → Prop
  | .countDistinct _ x => ∀ name, Mentions name x → Existing dataset name
  | .sum _ x | .min _ x | .max _ x =>
      x.refName?.isSome = true ∨ ∀ name, Mentions name x → Existing dataset name
  | _ => True

structure WellRead (dataset : Dataset) (e : Expr) : Prop where
  measure : WellMeasured dataset e
  filter : WellCompared dataset (.andAll (e.aggregateFilters?.getD []))

namespace Aggregation

theorem script_exact {dataset : Dataset} {fold : ScriptFold} {name : String} {measure : Expr}
    {a : Aggregation} (ran : fold.aggregation name measure = .ok a) :
    a.Sound dataset ↔ ∀ name, Mentions name measure → Existing dataset name := by
  obtain ⟨value,-,made⟩ := Compiled.bind_ok.mp ran
  cases Compiled.pure_ok.mp made
  simp only [Sound,columns,mem_references]

theorem measured_exact {dataset : Dataset} {name : String} {x : Expr} {fold : ScriptFold}
    {measure : Measure} {timestamps : Compiled Aggregation} {aggregator : FieldAggregator}
    {a : Aggregation} (read : Measure.ofExpr dataset x = .ok measure)
    (timed : timestamps = .ok a → a.columns = [timeDimension])
    (made : (match measure with
      | .timestamps => timestamps
      | .column fieldName => return .field aggregator name fieldName
      | .derived => fold.aggregation name x) = .ok a) :
    a.Sound dataset ↔
      x.refName?.isSome = true ∨ ∀ name, Mentions name x → Existing dataset name := by
  unfold Measure.ofExpr at read
  split at read
  · rename_i column
    refine iff_of_true ?_ (.inl rfl)
    split at read
    · cases read
    · rename_i known found
      cases read
      cases stamps : (dataset.isTimeAttribute column || column == timeDimension) with
      | true =>
          rw [stamps] at made
          simp [Sound,timed made,Existing]
      | false =>
          rw [stamps] at made
          cases Compiled.pure_ok.mp made
          have other := (Bool.or_eq_false_iff.mp stamps).1
          simp [Sound,columns,Existing,Declared,found,other]
  · cases read
    have derived : x.refName?.isSome = false := by cases x <;> simp_all [Expr.refName?]
    simpa [derived] using script_exact made

theorem unfiltered_exact {dataset : Dataset} {name : String} {e : Expr} {a : Aggregation}
    (ran : unfiltered dataset name e = .ok a) : a.Sound dataset ↔ WellMeasured dataset e := by
  unfold unfiltered at ran
  split at ran
  case h_1 => cases ran; simp [Sound,columns,WellMeasured]
  case h_2 =>
      obtain ⟨measure,read,made⟩ := Compiled.bind_ok.mp ran
      refine measured_exact read ?_ made
      intro failed; cases failed
  case h_3 | h_4 =>
      obtain ⟨measure,read,made⟩ := Compiled.bind_ok.mp ran
      exact measured_exact read (fun made => by cases Compiled.pure_ok.mp made; rfl) made
  case h_5 =>
      unfold ofCountDistinct at ran
      split at ran
      · split at ran
        · cases ran
        · rename_i found known
          cases ran
          cases found.isUnique <;> simp [Sound,columns,WellMeasured]
      · cases ran
  case h_6 =>
      unfold ofCustom at ran
      split at ran
      · cases ran
      · cases ran; simp [Sound,columns,WellMeasured]
      · cases ran
  case h_7 => cases ran

theorem ofAggregate_exact {dataset : Dataset} {k : NamedAggregate} {a : Aggregation}
    (ran : ofAggregate dataset k = .ok a) : a.Sound dataset ↔ WellRead dataset k.expression := by
  unfold ofAggregate at ran
  split at ran
  · cases ran
  · rename_i operand chained
    obtain ⟨aggregator,plain,made⟩ := Compiled.bind_ok.mp ran
    have measure := unfiltered_exact plain
    have filters : k.expression.aggregateFilters?.getD []
        = (operand.datasetChain?.map (·.2)).getD [] := by
      rw [Expr.aggregateFilters?,chained,Option.bind_some]
    have exactly : a.Sound dataset ↔ aggregator.Sound dataset ∧
        WellCompared dataset (.andAll (k.expression.aggregateFilters?.getD [])) := by
      rw [filters]
      split at made
      · rename_i none
        cases Compiled.pure_ok.mp made
        simpa [none] using fun _ => isTrue_wellCompared (e := .andAll []) rfl
      · obtain ⟨found,built,made⟩ := Compiled.bind_ok.mp made
        have compared := FilterBuilder.build_exact built
        rw [← compared]
        split at made
        · cases Compiled.pure_ok.mp made
          simp
        · cases Compiled.pure_ok.mp made
          simp [Sound,Filter.Sound,columns,or_imp,forall_and,and_comm]
    rw [exactly,measure]
    exact ⟨fun both => ⟨both.1,both.2⟩,fun read => ⟨read.measure,read.filter⟩⟩

end Aggregation

theorem aggregations_exact {dataset : Dataset} {set : AggregateSet} {found : List Aggregation}
    (ran : aggregations dataset set = .ok found) :
    (∀ a ∈ found, a.Sound dataset) ↔ ∀ k ∈ set.aggregates, WellRead dataset k.expression := by
  unfold aggregations at ran
  split at ran
  · rename_i none
    cases ran
    simp [none,Aggregation.Sound,Aggregation.columns]
  · exact (forall_exact (mapM_ok ran) fun k a ran =>
      (Aggregation.ofAggregate_exact ran).symm).symm

namespace Query

def filter? : Query → Option Filter
  | .timeseries q => q.scan.filter
  | .topN q => q.scan.filter
  | .groupBy q => q.scan.filter
  | .select q => q.scan.filter
  | .timeBoundary _ => none

-- The columns whose values make up the rows of the answer.
def rowColumns : Query → List String
  | .select q => q.dimensions ++ q.metrics
  | q => q.dimensions.map (·.dimension)

def columns (q : Query) : List String :=
  (q.filter?.map Filter.columns).getD [] ++ q.rowColumns ++ q.aggregations.flatMap (·.columns)

def Sound (dataset : Dataset) (q : Query) : Prop :=
  ∀ column ∈ q.columns, Existing dataset column

theorem sound_parts {dataset : Dataset} {q : Query} : q.Sound dataset ↔
    (∀ f ∈ q.filter?, f.Sound dataset) ∧ (∀ column ∈ q.rowColumns, Existing dataset column) ∧
      ∀ a ∈ q.aggregations, a.Sound dataset := by
  have filter : (∀ column ∈ (q.filter?.map Filter.columns).getD [], Existing dataset column) ↔
      ∀ f ∈ q.filter?, f.Sound dataset := by
    cases q.filter? <;> simp [Filter.Sound]
  simp only [Sound,columns,List.forall_mem_append,List.forall_mem_flatMap,filter,and_assoc]
  rfl

end Query

-- Nothing that a folded query filters by, groups by or aggregates is misread. The key that became
-- the granularity is not read at all.
structure WellPlaced (dataset : Dataset) (folded : FoldedQuery) (timestampKey : Option String) :
    Prop where
  filter : WellCompared dataset (TimeFilter.split folded.filter dataset.timeAttribute).rest
  keys : ∀ key ∈ folded.splitKeys, timestampKey ≠ some key.1 → ¬ Misread dataset key.2
  aggregates : ∀ k ∈ (collect folded.applies).aggregates, WellRead dataset k.expression

theorem placed_parts {dataset : Dataset} {folded : FoldedQuery} {timestampKey : Option String}
    {q : Query} (filter : (∀ f ∈ q.filter?, f.Sound dataset) ↔
      WellCompared dataset (TimeFilter.split folded.filter dataset.timeAttribute).rest)
    (rows : (∀ column ∈ q.rowColumns, Existing dataset column) ↔
      ∀ key ∈ folded.splitKeys, timestampKey ≠ some key.1 → ¬ Misread dataset key.2)
    (aggregates : (∀ a ∈ q.aggregations, a.Sound dataset) ↔
      ∀ k ∈ (collect folded.applies).aggregates, WellRead dataset k.expression) :
    q.Sound dataset ↔ WellPlaced dataset folded timestampKey := by
  rw [Query.sound_parts,filter,rows,aggregates]
  exact ⟨fun ⟨compared,keyed,read⟩ => ⟨compared,keyed,read⟩,
    fun placed => ⟨placed.filter,placed.keys,placed.aggregates⟩⟩

theorem fold_unkeyed {dataset : Dataset} {e : Expr} {folded : FoldedQuery}
    (ran : fold dataset e = .ok folded) (unsplit : folded.mode ≠ .split) :
    folded.splitKeys = [] := by
  rcases fold_cases ran with ⟨-,single⟩ | ⟨-,-,totals⟩ | ⟨-,root,-,rows⟩
  · obtain ⟨_,_,_,rfl⟩ := Fold.value_parts single
    rfl
  · obtain ⟨_,_,rfl⟩ := Fold.totals_parts totals
    rfl
  · obtain ⟨q,_,rfl⟩ := Fold.rows_parts rows
    cases keyed : q.split <;> simp [keyed,FoldedQuery.splitKeys] at unsplit ⊢

theorem unsplit_bare {root : String} {scope : Scope} {steps : List Step} {q : Fold.Rows}
    (ran : steps.foldlM (Fold.rowsStep root) { scope } = .ok q) (unsplit : q.split = none) :
    q.applies = [] := by
  refine Compiled.run_keeps (fun _ (q : Fold.Rows) => q.split = none → q.applies = []) ?_
    (fun _ => rfl) ran unsplit
  intro taken q step next bare ran
  cases Fold.rowsStep_taken ran with
  | split unsplit unsorted unlimited keyed declared => intro none; cases none
  | applied already => intro none; rw [already] at none; cases none
  | _ => exact bare

theorem fold_raw {dataset : Dataset} {e : Expr} {folded : FoldedQuery}
    (ran : fold dataset e = .ok folded) (raw : folded.mode = .raw) : folded.applies = [] := by
  rcases fold_cases ran with ⟨-,single⟩ | ⟨-,-,totals⟩ | ⟨-,root,-,rows⟩
  · obtain ⟨_,_,_,rfl⟩ := Fold.value_parts single
    cases raw
  · obtain ⟨_,_,rfl⟩ := Fold.totals_parts totals
    cases raw
  · obtain ⟨q,run,rfl⟩ := Fold.rows_parts rows
    refine unsplit_bare run ?_
    cases keyed : q.split with
    | none => rfl
    | some split => simp [keyed] at raw

namespace Planner

theorem make_filter {dataset : Dataset} {folded : FoldedQuery} {p : Planner}
    (ran : make dataset folded = .ok p) :
    (∀ f ∈ p.filter, f.Sound dataset) ↔
      WellCompared dataset (TimeFilter.split folded.filter dataset.timeAttribute).rest := by
  obtain ⟨_,_,-,rfl,built,rfl⟩ := make_cases ran
  exact FilterBuilder.build_exact built

theorem bounds_plain {dataset : Dataset} {applies : List Apply} {renames found : Table String}
    (ran : boundaryRenames? dataset applies renames = some found) :
    ∀ a ∈ applies, ∃ data column, a.expression = .max (.ref data) (.ref column) ∨
      a.expression = .min (.ref data) (.ref column) := by
  induction applies generalizing renames with
  | nil => exact fun a member => nomatch member
  | cons a rest ih =>
      unfold boundaryRenames? at ran
      split at ran
      · cases ran
      · rename_i field bound
        split at ran
        · cases ran
        · refine List.forall_mem_cons.mpr ⟨?_,ih ran⟩
          unfold boundaryField? at bound
          split at bound
          case h_1 => rename_i shape; exact ⟨_,_,.inl shape⟩
          case h_2 => rename_i shape; exact ⟨_,_,.inr shape⟩
          case h_3 => cases bound

theorem timeBoundary_plain {p : Planner} {plan : Plan} (bounds : p.timeBoundary? = some plan) :
    p.folded.filter.isTrue = true ∧ ∀ k ∈ (collect p.folded.applies).aggregates,
      ∃ data column, k.expression = .max (.ref data) (.ref column) ∨
        k.expression = .min (.ref data) (.ref column) := by
  unfold timeBoundary? at bounds
  split at bounds
  · cases bounds
  · rename_i asked
    obtain ⟨renames,found,made⟩ := Option.bind_eq_some_iff.mp bounds
    have each := bounds_plain found
    have all : p.folded.filter.isTrue = true := by simp_all
    refine ⟨all,?_⟩
    have bare : derivedOrder p.folded.applies = [] := by
      refine List.eq_nil_iff_forall_not_mem.mpr fun a member => ?_
      obtain ⟨listed,derived⟩ := derivedOrder_source member
      obtain ⟨data,column,shape | shape⟩ := each a listed <;> (rw [shape] at derived; cases derived)
    obtain ⟨posts,made,ran,whole⟩ := collect_run p.folded.applies
    rw [bare] at ran
    cases ran
    rw [whole]
    intro k member
    obtain ⟨a,listed,-,rfl⟩ := bare_source (by simpa using member)
    exact each a listed

theorem timeBoundary_placed {p : Planner} {plan : Plan} (bounds : p.timeBoundary? = some plan) :
    plan.query.Sound p.dataset ∧ p.folded.filter.isTrue = true ∧
      ∀ k ∈ (collect p.folded.applies).aggregates, WellRead p.dataset k.expression := by
  obtain ⟨all,plain⟩ := timeBoundary_plain bounds
  refine ⟨?_,all,fun k member => ?_⟩
  · unfold timeBoundary? at bounds
    split at bounds
    · cases bounds
    · obtain ⟨renames,-,made⟩ := Option.bind_eq_some_iff.mp bounds
      cases made
      exact fun column member => nomatch member
  · obtain ⟨data,column,shape | shape⟩ := plain k member <;>
      (rw [shape]; exact ⟨.inl rfl,isTrue_wellCompared rfl⟩)

theorem select_sound {p : Planner} {plan : Plan} (ran : p.select = .ok plan) :
    plan.query.filter? = p.filter ∧ plan.query.aggregations = [] ∧
      ∀ column ∈ plan.query.rowColumns, Existing p.dataset column := by
  simp only [Planner.select,List.partition_eq_filter_filter] at ran
  split at ran
  · cases ran
  · cases ran
    refine ⟨rfl,rfl,?_⟩
    intro column member
    simp only [Query.rowColumns,List.mem_append,List.mem_map,List.mem_filter] at member
    have listed : ∃ a ∈ p.dataset.attributes, p.dataset.isTimeAttribute a.name = false ∧
        a.name = column := by
      rcases member with ⟨a,⟨⟨listed,other⟩,-⟩,rfl⟩ | ⟨a,⟨⟨listed,other⟩,-⟩,rfl⟩ <;>
        exact ⟨a,listed,by simpa using other,rfl⟩
    obtain ⟨a,listed,other,rfl⟩ := listed
    have declared : Declared p.dataset a.name :=
      List.find?_isSome.mpr ⟨a,listed,beq_self_eq_true _⟩
    exact .inr ⟨declared,other⟩

theorem grouped_rows {p : Planner} {plan : Plan} (makes : p.Makes plan)
    (shape : plan.query.queryType ∈ ["topN","groupBy"]) :
    (∀ column ∈ plan.query.dimensions.map (·.dimension), Existing p.dataset column) ↔
      ∀ key ∈ p.folded.splitKeys, plan.timestampKey ≠ some key.1 →
        ¬ Misread p.dataset key.2 := by
  have same : ∀ (key : String × Expr) (d : Dimension), ReadFrom p.dataset key.2 d.dimension →
      (¬ Misread p.dataset key.2 ↔ Existing p.dataset d.dimension) :=
    fun key d read => read.existing.symm
  rw [List.forall_mem_map,← forall_exact (grouped_reads makes shape) same]
  simp only [List.mem_filter,bne_iff_ne,and_imp]

theorem split_true {condition : Expr} (all : condition.isTrue = true) (column : Option String) :
    (TimeFilter.split condition column).rest.isTrue = true := by
  unfold Expr.isTrue at all
  split at all
  · cases all
    cases column <;> rfl
  · cases all

-- By the query that is chosen: each reads the same filter, and its own keys and aggregates.
theorem plan_sound {p : Planner} {plan : Plan} (known : p.aggregates = collect p.folded.applies)
    (filter : (∀ f ∈ p.filter, f.Sound p.dataset) ↔ WellCompared p.dataset
      (TimeFilter.split p.folded.filter p.dataset.timeAttribute).rest)
    (unkeyed : p.folded.mode ≠ .split → p.folded.splitKeys = [])
    (raw : p.folded.mode = .raw → p.folded.applies = []) (ran : p.plan = .ok plan) :
    plan.query.Sound p.dataset ↔ WellPlaced p.dataset p.folded plan.timestampKey := by
  cases plan_chosen ran with
  | select mode ran =>
      obtain ⟨scanned,plain,rows⟩ := select_sound ran
      refine placed_parts (by rw [scanned]; exact filter) ?_ ?_
      · rw [unkeyed (by simp [mode])]
        exact iff_of_true rows (fun key member => nomatch member)
      · rw [plain,raw mode]
        exact iff_of_true (fun a member => nomatch member) (fun k member => nomatch member)
  | timeBoundary unsplit bounds =>
      obtain ⟨sound,all,aggregates⟩ := timeBoundary_placed bounds
      refine iff_of_true sound ⟨isTrue_wellCompared (split_true all _),?_,aggregates⟩
      · rw [unkeyed unsplit.2]
        exact fun key member => nomatch member
  | totals unsplit ran =>
      obtain ⟨aggregates,_,made,-,rfl⟩ := Planner.totals_made ran
      rw [known] at made
      refine placed_parts filter ?_ (aggregations_exact made)
      rw [unkeyed unsplit.2]
      exact iff_of_true (fun column member => nomatch member) (fun key member => nomatch member)
  | @timeseries name key duration zone unfiltered single bucket ran =>
      obtain ⟨aggregates,_,_,made,-,-,rfl⟩ := Planner.timeseries_made ran
      rw [known] at made
      refine placed_parts filter ?_ (aggregations_exact made)
      rw [single]
      exact iff_of_true (fun column member => nomatch member) (by simp)
  | topN unfiltered single ran =>
      have makes : p.Makes plan := .topN unfiltered single ran
      obtain ⟨aggregates,_,_,made,-,-,rfl⟩ := Planner.topN_made ran
      rw [known] at made
      exact placed_parts filter (grouped_rows makes (by simp [Query.queryType]))
        (aggregations_exact made)
  | groupBy filtered ran =>
      have makes : p.Makes plan := .groupBy filtered ran
      obtain ⟨aggregates,_,_,_,made,-,-,-,rfl⟩ := Planner.groupBy_made ran
      rw [known] at made
      exact placed_parts filter (grouped_rows makes (by simp [Query.queryType]))
        (aggregations_exact made)

end Planner

-- A query reads columns of the engine only, exactly if nothing extracted from the time is compared
-- or grouped by, and what is counted or computed from in an aggregate is such a column: not the
-- time under the dataset's name for it, and not the name of an apply.
theorem read_columns_exact {dataset : Dataset} {e : Expr} {level : Level} {q : Query}
    (plans : planLevel dataset e = .ok level) (asked : level.query = some (.druid q)) :
    ∃ folded, fold dataset e = .ok folded ∧
      (q.Sound dataset ↔ WellPlaced dataset folded level.post.timestampKey) := by
  obtain ⟨folded,planned,folds,ran,rfl,-,stamped⟩ := planLevel_druid plans asked
  obtain ⟨p,made,chosen⟩ := Compiled.bind_ok.mp ran
  have filter := Planner.make_filter made
  obtain ⟨rfl,rfl,known⟩ := Planner.make_parts made
  refine ⟨p.folded,folds,?_⟩
  rw [stamped]
  exact Planner.plan_sound known filter (fold_unkeyed folds) (fold_raw folds) chosen

namespace Days

def onMain : Expr :=
  .is (.ref "page") (.literal (.string "main"))

def doubled : Expr :=
  .multiply (.ref "added") (.literal (.number 2))

def byLetter : Expr :=
  .apply (.split (.ref "data") [("Day",.timeBucket (.ref "time") { days := 1 } none),
    ("Letter",.substr (.ref "page") 0 1)] "data") "Doubled" (.sum (.filter (.ref "data") onMain) doubled)

theorem byLetter_sound : ∃ level q, planLevel edits byLetter = .ok level ∧
    level.query = some (.druid q) ∧ q.columns = ["page","page","added"] ∧ q.Sound edits := by
  obtain ⟨level,q,plans,asked,columns,stamped⟩ : ∃ level q, planLevel edits byLetter = .ok level ∧
      level.query = some (.druid q) ∧ q.columns = ["page","page","added"] ∧
      level.post.timestampKey = some "Day" := ⟨_,_,rfl,rfl,rfl,rfl⟩
  obtain ⟨folded,folds,exactly⟩ := read_columns_exact plans asked
  refine ⟨level,q,plans,asked,columns,exactly.mpr ?_⟩
  rw [stamped]
  obtain ⟨other,ran,filter,keys,aggregates⟩ : ∃ folded, fold edits byLetter = .ok folded ∧
      folded.filter = .bool true ∧
      folded.splitKeys = [("Day",.timeBucket (.ref "time") { days := 1 } none),
        ("Letter",.substr (.ref "page") 0 1)] ∧
      (collect folded.applies).aggregates =
        [{ name := "Doubled",expression := .sum (.filter (.ref "data") onMain) doubled,
           synthetic := false }] := ⟨_,rfl,rfl,rfl,rfl⟩
  cases ran.symm.trans folds
  refine ⟨?_,?_,?_⟩
  · rw [filter]
    exact isTrue_wellCompared (Planner.split_true rfl _)
  · rw [keys]
    intro key listed grouped
    rcases List.mem_cons.mp listed with rfl | later
    · exact absurd rfl grouped
    · cases List.mem_singleton.mp later
      rintro ⟨name,form,time,-⟩
      cases form
      cases time
  · rw [aggregates]
    refine List.forall_mem_singleton.mpr ⟨.inr ?_,?_⟩
    · intro name mentioned
      have known : name = "added" := by simpa [doubled] using mentioned
      rw [known]
      exact .inr ⟨rfl,rfl⟩
    · change WellCompared edits onMain
      simpa [WellCompared,comparedOperands,onMain] using column_read

def ReadsMissing (e : Expr) (column : String) : Prop :=
  ∃ level q, planLevel edits e = .ok level ∧ level.query = some (.druid q) ∧
    column ∈ q.columns ∧ ¬ Existing edits column

theorem time_missing : ¬ Existing edits "time" := by
  simp [Existing,edits,timeDimension,Dataset.isTimeAttribute]

theorem apply_missing : ¬ Existing edits "Edits" := by
  simp [Existing,Declared,edits,timeDimension,Dataset.attribute?]

-- The distinct times of edits, the first letters of the time under a key that has its name, and a
-- sum over the result of an apply.
theorem missing_read :
    ReadsMissing (.apply ofPages "Times" (.countDistinct (.ref "data") (.ref "time"))) "time" ∧
    ReadsMissing (.apply ofPages "Weighed"
      (.sum (.ref "data") (.multiply (.ref "Edits") (.ref "added")))) "Edits" ∧
    ReadsMissing (.split (.ref "data") [("time",.ref "page"),("year",.substr (.ref "time") 0 4)]
      "data") "time" := by
  refine ⟨⟨_,_,rfl,rfl,?_,time_missing⟩,⟨_,_,rfl,rfl,?_,apply_missing⟩,
    ⟨_,_,rfl,rfl,?_,time_missing⟩⟩
  · change "time" ∈ ["page","time"]; simp
  · change "Edits" ∈ ["page","Edits","added"]; simp
  · change "time" ∈ ["page","time"]; simp

end Days

end OlapQuery.Druid
