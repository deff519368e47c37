import OlapQuery.Proofs.NestingDepth

-- The columns that the rows of a Druid query are grouped by. A key is read from one column, of
-- whatever form it is. Columns may be marked as not fit for grouping, and sketches of distinct
-- values are not; neither is looked at when a key becomes a dimension.

namespace OlapQuery.Druid

-- How an expression can be read as a dimension: as a column, as a part or a bucket of time, by an
-- extraction from a column, or by a script over the one column that it refers to.
inductive KeyForm where
  | column (name : String)
  | ofTime (operand : Expr)
  | extracted (operand : Expr)
  | computed

def keyForm : Expr → KeyForm
  | .ref name => .column name
  | .timePart e _ _ => .ofTime e
  | .timeBucket e _ _ => .ofTime e
  | .timeFloor e _ _ => .ofTime e
  | .extract e _ => .extracted e
  | .fallback (.extract e _) _ => .extracted e
  | .substr e _ _ => .extracted e
  | .lookup e _ => .extracted e
  | .numberBucket e _ _ => .extracted e
  | _ => .computed

def Declared (dataset : Dataset) (name : String) : Prop :=
  (dataset.attribute? name).isSome = true

-- The column that a key, or the operand of a comparison, is read from.
inductive ReadFrom (dataset : Dataset) (e : Expr) : String → Prop where
  | column (form : keyForm e = .column name) (declared : Declared dataset name)
      (other : dataset.isTimeAttribute name = false) : ReadFrom dataset e name
  | timestamps (form : keyForm e = .column name) (declared : Declared dataset name)
      (time : dataset.isTimeAttribute name = true) : ReadFrom dataset e timeDimension
  | ofTime (form : keyForm e = .ofTime (.ref name)) (time : dataset.isTimeAttribute name = true) :
      ReadFrom dataset e timeDimension
  -- The name stays that of the column, also if the column is the time.
  | extracted (form : keyForm e = .extracted (.ref name)) (declared : Declared dataset name) :
      ReadFrom dataset e name
  | script (form : keyForm e = .computed)
      (only : e.references.filter (fun name => (dataset.attribute? name).isSome) = [name])
      (other : dataset.isTimeAttribute name = false) : ReadFrom dataset e name

theorem ReadFrom.unique {dataset : Dataset} {e : Expr} {column other : String}
    (first : ReadFrom dataset e column) (second : ReadFrom dataset e other) : column = other := by
  cases first <;> cases second <;> simp_all

namespace DimensionSource

theorem plainColumn_parts {dataset : Dataset} {e : Expr} {f : String → Compiled α} {made : α}
    (ran : (plainColumn dataset e >>= f) = .ok made) :
    ∃ name, e = .ref name ∧ Declared dataset name ∧ f name = .ok made := by
  obtain ⟨name,plain,later⟩ := Compiled.bind_ok.mp ran
  unfold plainColumn at plain
  split at plain
  · exact absurd plain Compiled.unsupported_ok
  · rename_i other found
    split at plain
    · rename_i column known
      cases plain
      cases e <;> cases found
      exact ⟨name,rfl,by simp [Declared,known],later⟩
    · cases plain

theorem requireTimeColumn_parts {dataset : Dataset} {e : Expr} {f : Unit → Compiled α} {made : α}
    (ran : (requireTimeColumn dataset e >>= f) = .ok made) :
    ∃ name, e = .ref name ∧ dataset.isTimeAttribute name = true ∧ f () = .ok made := by
  obtain ⟨_,required,later⟩ := Compiled.bind_ok.mp ran
  unfold requireTimeColumn at required
  split at required
  · rename_i name found
    split at required
    · rename_i time
      cases e <;> cases found
      exact ⟨_,rfl,time,later⟩
    · exact absurd required Compiled.unsupported_ok
  · exact absurd required Compiled.unsupported_ok

theorem ofColumn_reads {dataset : Dataset} {name : String} {s : DimensionSource}
    (ran : ofColumn dataset name = .ok s) : ReadFrom dataset (.ref name) s.dimension := by
  unfold ofColumn at ran
  split at ran
  · cases ran
  · rename_i column found
    have declared : Declared dataset name := by simp [Declared,found]
    split at ran
    · rename_i time
      cases ran; exact .timestamps rfl declared time
    · rename_i other
      have other : dataset.isTimeAttribute name = false := by simpa using other
      split at ran
      · cases ran; exact .column rfl declared other
      · split at ran <;> (cases ran; exact .column rfl declared other)

theorem extracted_reads {dataset : Dataset} {e operand : Expr}
    {f : String → Compiled DimensionSource} {s : DimensionSource}
    (form : keyForm e = .extracted operand) (ran : (plainColumn dataset operand >>= f) = .ok s)
    (kept : ∀ name, f name = .ok s → s.dimension = name) : ReadFrom dataset e s.dimension := by
  obtain ⟨name,rfl,declared,made⟩ := plainColumn_parts ran
  rw [kept name made]
  exact .extracted form declared

theorem timed_reads {dataset : Dataset} {e operand : Expr} {f : Unit → Compiled DimensionSource}
    {s : DimensionSource} (form : keyForm e = .ofTime operand)
    (ran : (requireTimeColumn dataset operand >>= f) = .ok s)
    (kept : f () = .ok s → s.dimension = timeDimension) : ReadFrom dataset e s.dimension := by
  obtain ⟨name,rfl,time,made⟩ := requireTimeColumn_parts ran
  rw [kept made]
  exact .ofTime form time

theorem ofBucket_reads {dataset : Dataset} {e operand : Expr} {duration : Time.Duration}
    {zone : Option Time.Zone} {s : DimensionSource} (form : keyForm e = .ofTime operand)
    (ran : ofBucket dataset operand duration zone = .ok s) : ReadFrom dataset e s.dimension := by
  refine timed_reads form ran fun made => ?_
  split at made
  · cases Compiled.pure_ok.mp made; rfl
  · obtain ⟨_,-,made⟩ := Compiled.bind_ok.mp made
    exact absurd made Compiled.throw_ok

theorem ofScript_reads {dataset : Dataset} {e : Expr} {s : DimensionSource}
    (form : keyForm e = .computed) (ran : ofScript dataset e = .ok s) :
    ReadFrom dataset e s.dimension := by
  unfold ofScript at ran
  dsimp only at ran
  split at ran
  · rename_i name only
    split at ran
    · exact absurd ran Compiled.unsupported_ok
    · rename_i other
      obtain ⟨function,-,made⟩ := Compiled.bind_ok.mp ran
      cases Compiled.pure_ok.mp made
      have other : dataset.isTimeAttribute name = false := by simpa using other
      exact .script form only other
  · exact absurd ran Compiled.unsupported_ok

theorem ofExpr_reads {dataset : Dataset} {e : Expr} {s : DimensionSource}
    (ran : ofExpr dataset e = .ok s) : ReadFrom dataset e s.dimension := by
  unfold ofExpr at ran
  split at ran
  case h_1 => exact ofColumn_reads ran
  case h_6 =>
      refine timed_reads rfl ran fun made => ?_
      split at made
      · cases Compiled.pure_ok.mp made; rfl
      · cases made
  case h_7 => exact ofBucket_reads rfl ran
  case h_8 => exact ofBucket_reads rfl ran
  case h_10 =>
      refine ofScript_reads ?_ ran
      unfold keyForm; split <;> first | rfl | grind
  all_goals exact extracted_reads rfl ran fun name made => by cases Compiled.pure_ok.mp made; rfl

end DimensionSource

-- Columns that are not to be grouped by, and sketches.
def Unsplitable (dataset : Dataset) (column : String) : Prop :=
  ∃ a ∈ dataset.attributes, (a.unsplitable = true ∨ a.isUnique = true) ∧
    (a.name = column ∨ (dataset.isTimeAttribute a.name = true ∧ column = timeDimension))

def unmarked (a : Attribute) : Attribute :=
  { a with unsplitable := false,special := if a.isUnique then none else a.special }

def allUnmarked (dataset : Dataset) : Dataset :=
  { dataset with attributes := dataset.attributes.map unmarked }

theorem attribute_unmarked (dataset : Dataset) (name : String) :
    (allUnmarked dataset).attribute? name = (dataset.attribute? name).map unmarked := by
  simp [allUnmarked,Dataset.attribute?,List.find?_map,Function.comp_def,unmarked]

namespace DimensionSource

theorem ofColumn_unmarked (dataset : Dataset) (name : String) :
    ofColumn (allUnmarked dataset) name = ofColumn dataset name := by
  unfold ofColumn
  rw [attribute_unmarked]
  cases dataset.attribute? name with
  | none => rfl
  | some column =>
      have time : (allUnmarked dataset).isTimeAttribute name = dataset.isTimeAttribute name := rfl
      obtain ⟨_,_,_,_,special⟩ := column
      rcases special with _ | ⟨_ | _⟩ <;> simp [unmarked,Attribute.isUnique,time]

theorem plainColumn_unmarked (dataset : Dataset) (e : Expr) :
    plainColumn (allUnmarked dataset) e = plainColumn dataset e := by
  unfold plainColumn
  cases e.refName? with
  | none => rfl
  | some name =>
      simp only [attribute_unmarked]
      cases dataset.attribute? name <;> rfl

theorem ofScript_unmarked (dataset : Dataset) (e : Expr) :
    ofScript (allUnmarked dataset) e = ofScript dataset e := by
  have time : ∀ name, (allUnmarked dataset).isTimeAttribute name = dataset.isTimeAttribute name :=
    fun name => rfl
  simp only [ofScript,attribute_unmarked,Option.isSome_map,time]

theorem ofExpr_unmarked (dataset : Dataset) (e : Expr) :
    ofExpr (allUnmarked dataset) e = ofExpr dataset e := by
  unfold ofExpr
  split
  case h_1 => exact ofColumn_unmarked dataset _
  case h_9 =>
      simp only [plainColumn_unmarked]
      refine congrArg (plainColumn dataset _ >>= ·) (funext fun name => ?_)
      rw [attribute_unmarked]
      cases dataset.attribute? name with
      | none => rfl
      | some column =>
          obtain ⟨_,_,_,_,special⟩ := column
          rcases special with _ | ⟨_ | _⟩ <;> rfl
  case h_10 => exact ofScript_unmarked dataset _
  case h_2 | h_3 => simp only [ofExtract,plainColumn_unmarked]
  case h_4 => simp only [plainColumn_unmarked]
  case h_5 => simp only [plainColumn_unmarked]; rfl
  all_goals rfl

end DimensionSource

namespace Planner

theorem dimensions_reads {p : Planner} {keys : List (String × Expr)} {found : List Dimension}
    (ran : p.dimensions keys = .ok found) :
    List.Forall₂ (fun key d => ReadFrom p.dataset key.2 d.dimension) keys found := by
  refine (mapM_ok ran).imp fun key d made => ?_
  obtain ⟨source,read,made⟩ := Compiled.bind_ok.mp made
  cases Compiled.pure_ok.mp made
  exact DimensionSource.ofExpr_reads read

theorem grouped_reads {p : Planner} {plan : Plan} (makes : p.Makes plan)
    (shape : plan.query.queryType ∈ ["topN","groupBy"]) :
    List.Forall₂ (fun key d => ReadFrom p.dataset key.2 d.dimension)
      (p.folded.splitKeys.filter fun key => plan.timestampKey != some key.1)
      plan.query.dimensions := by
  cases makes with
  | totals unsplit ran =>
      obtain ⟨_,_,-,-,rfl⟩ := Planner.totals_made ran
      simp [Query.queryType] at shape
  | timeseries unfiltered ran =>
      obtain ⟨_,_,_,-,-,-,rfl⟩ := Planner.timeseries_made ran
      simp [Query.queryType] at shape
  | topN unfiltered single ran =>
      obtain ⟨_,_,source,-,-,read,rfl⟩ := Planner.topN_made ran
      rw [single]
      exact .cons (DimensionSource.ofExpr_reads read) .nil
  | groupBy filtered ran =>
      obtain ⟨_,_,_,dimensions,-,-,-,made,rfl⟩ := Planner.groupBy_made ran
      exact dimensions_reads made

end Planner

-- Rows are grouped by no column that is not fit for it exactly if no key that is grouped by is
-- read from such a column. No key is turned down for the marks of its columns.
theorem grouped_columns_exact {dataset : Dataset} {e : Expr} {level : Level} {q : Query}
    (plans : planLevel dataset e = .ok level) (asked : level.query = some (.druid q))
    (shape : q.queryType ∈ ["topN","groupBy"]) :
    ((∀ d ∈ q.dimensions, ¬ Unsplitable dataset d.dimension) ↔
      ∀ key ∈ level.splitKeys, level.post.timestampKey ≠ some key.1 →
        ∀ column, ReadFrom dataset key.2 column → ¬ Unsplitable dataset column) ∧
    ∀ key, DimensionSource.ofExpr (allUnmarked dataset) key
      = DimensionSource.ofExpr dataset key := by
  refine ⟨?_,DimensionSource.ofExpr_unmarked dataset⟩
  obtain ⟨folded,planned,folds,ran,rfl,-,stamped⟩ := planLevel_druid plans asked
  obtain ⟨p,made,chosen⟩ := Compiled.bind_ok.mp ran
  obtain ⟨rfl,rfl,-⟩ := Planner.make_parts made
  have makes := Planner.plan_makes chosen (List.mem_cons_of_mem _ shape)
  have fit : ∀ (key : String × Expr) (d : Dimension), ReadFrom p.dataset key.2 d.dimension →
      ((∀ column, ReadFrom p.dataset key.2 column → ¬ Unsplitable p.dataset column) ↔
        ¬ Unsplitable p.dataset d.dimension) := fun key d read =>
    ⟨fun each => each _ read,fun fit column other => other.unique read ▸ fit⟩
  obtain ⟨_,same,-,keys,-⟩ := planLevel_shape plans
  cases folds.symm.trans same
  rw [← forall_exact (Planner.grouped_reads makes shape) fit,keys,stamped]
  simp only [List.mem_filter,bne_iff_ne,and_imp]

namespace Visits

def visits : Dataset :=
  { engine := .druid,source := "visits",timeAttribute := some "time"
    attributes := [{ name := "time",type := .time },{ name := "page",type := .string },
      { name := "seconds",type := .number,unsplitable := true },
      { name := "visitors",type := .string,special := some .unique }] }

def visitors : Expr :=
  .countDistinct (.ref "data") (.ref "visitors")

def visitorsBy (key : Expr) : Expr :=
  .apply (.split (.ref "data") [("Key",key)] "data") "Visitors" visitors

def ofDays : Expr :=
  .apply (.split (.ref "data") [("Day",.timeBucket (.ref "time") { days := 1 } none),
    ("Letter",.substr (.ref "page") 0 1)] "data") "Visitors" visitors

theorem page_fit : ¬ Unsplitable visits "page" := by
  rintro ⟨a,listed,marked,named⟩
  simp only [visits,List.mem_cons,List.not_mem_nil,or_false] at listed
  rcases listed with rfl | rfl | rfl | rfl <;>
    simp [Attribute.isUnique,timeDimension] at marked named

theorem ofDays_grouped : ∃ level q, planLevel visits ofDays = .ok level ∧
    level.query = some (.druid q) ∧ q.dimensions.map (·.dimension) = ["page"] ∧
    ∀ d ∈ q.dimensions, ¬ Unsplitable visits d.dimension := by
  refine ⟨_,_,rfl,rfl,rfl,?_⟩
  refine (grouped_columns_exact (e := ofDays) rfl rfl (by simp [Query.queryType])).1.mpr ?_
  intro key listed grouped column read
  rcases List.mem_cons.mp listed with rfl | later
  · exact absurd rfl grouped
  · cases List.mem_singleton.mp later
    rw [read.unique (.extracted rfl rfl)]
    exact page_fit

def GroupsUnfit (e : Expr) : Prop :=
  ∃ level q, planLevel visits e = .ok level ∧ level.query = some (.druid q) ∧
    q.queryType ∈ ["topN","groupBy"] ∧ ∃ d ∈ q.dimensions, Unsplitable visits d.dimension

theorem sketch_unsplitable : Unsplitable visits "visitors" :=
  ⟨{ name := "visitors",type := .string,special := some .unique },
    by simp [visits],.inr rfl,.inl rfl⟩

theorem measure_unsplitable : Unsplitable visits "seconds" :=
  ⟨{ name := "seconds",type := .number,unsplitable := true },
    by simp [visits],.inl rfl,.inl rfl⟩

-- By the sketch itself, by the beginnings of its text, and by the time that visitors stayed.
theorem unfit_grouped :
    GroupsUnfit (visitorsBy (.ref "visitors")) ∧
    GroupsUnfit (.limit (visitorsBy (.substr (.ref "visitors") 0 1)) 5) ∧
    GroupsUnfit (visitorsBy (.ref "seconds")) := by
  refine ⟨⟨_,_,rfl,rfl,by simp [Query.queryType],_,List.mem_cons_self,sketch_unsplitable⟩,
    ⟨_,_,rfl,rfl,by simp [Query.queryType],_,List.mem_cons_self,sketch_unsplitable⟩,
    ⟨_,_,rfl,rfl,by simp [Query.queryType],_,List.mem_cons_self,measure_unsplitable⟩⟩

end Visits

end OlapQuery.Druid
