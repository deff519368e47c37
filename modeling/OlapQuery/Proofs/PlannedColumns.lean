import OlapQuery.Proofs.BoundaryNames
import OlapQuery.Proofs.ClosedQueries
import OlapQuery.Proofs.Inlining

-- The columns of a plan. Whatever query is chosen, and however keys and applies are divided between
-- its parts, each key and each apply is a column, and just one; what else a Druid query computes goes
-- by a name that was made up.

namespace OlapQuery

open Compiled

namespace Fold

theorem split_written {root : String} {scope : Scope} {steps : List Step} {q : Rows}
    (ran : steps.foldlM (rowsStep root) { scope } = .ok q) :
    ∀ split, q.split = some split →
      .split split.keys split.dataName ∈ steps ∧ split.keys ≠ [] := by
  refine run_keeps (fun taken (q : Rows) => ∀ split, q.split = some split →
    .split split.keys split.dataName ∈ taken ∧ split.keys ≠ []) ?_ (by simp) ran
  intro taken q step next written ran split found
  have earlier (same : q.split = some split) :
      .split split.keys split.dataName ∈ taken ++ [step] ∧ split.keys ≠ [] :=
    (written split same).imp_left (List.mem_append_left _)
  cases rowsStep_taken ran with
  | split unsplit unsorted unlimited keyed declared =>
      cases found
      exact ⟨List.mem_append_right _ List.mem_cons_self,keyed⟩
  | _ => exact earlier found

end Fold

section Keys

variable {dataset : Dataset} {e : Expr} {folded : FoldedQuery}

theorem fold_keys_ordered (folds : fold dataset e = .ok folded)
    (ordered : ∀ keys dataName, .split keys dataName ∈ e.chainSteps → Table.Ordered keys) :
    Table.Ordered folded.splitKeys := by
  rcases fold_cases folds with ⟨-,value⟩ | ⟨-,-,totals⟩ | ⟨-,root,-,rows⟩
  · obtain ⟨_,_,_,rfl⟩ := Fold.value_parts value
    exact .nil
  · obtain ⟨_,_,rfl⟩ := Fold.totals_parts totals
    exact .nil
  · obtain ⟨q,ran,rfl⟩ := Fold.rows_parts rows
    unfold FoldedQuery.splitKeys
    dsimp only
    split
    · rename_i split found
      exact ordered _ _ (Fold.split_written ran split found).1
    · exact .nil

theorem fold_keyless (folds : fold dataset e = .ok folded) (unsplit : folded.mode ≠ .split) :
    folded.splitKeys = [] := by
  rcases fold_cases folds with ⟨-,value⟩ | ⟨-,-,totals⟩ | ⟨-,root,-,rows⟩
  · obtain ⟨_,_,_,rfl⟩ := Fold.value_parts value
    rfl
  · obtain ⟨_,_,rfl⟩ := Fold.totals_parts totals
    rfl
  · obtain ⟨q,_,rfl⟩ := Fold.rows_parts rows
    cases keyed : q.split with
    | none => rw [FoldedQuery.splitKeys]
    | some split => simp [keyed] at unsplit

theorem fold_columned (folds : fold dataset e = .ok folded) (asked : folded.mode ≠ .raw)
    (asks : folded.asks = true) : folded.splitKeys ≠ [] ∨ folded.applies ≠ [] := by
  rcases fold_cases folds with ⟨-,value⟩ | ⟨-,-,totals⟩ | ⟨-,root,-,rows⟩
  · obtain ⟨_,_,_,rfl⟩ := Fold.value_parts value
    exact .inr (List.cons_ne_nil _ _)
  · obtain ⟨_,_,rfl⟩ := Fold.totals_parts totals
    exact .inr (by simpa [FoldedQuery.asks] using asks)
  · obtain ⟨q,ran,rfl⟩ := Fold.rows_parts rows
    cases keyed : q.split with
    | none => simp [keyed] at asked
    | some split => exact .inl (Fold.split_written ran split keyed).2

end Keys

namespace Druid

open AggregateSet

-- What a query computes that nobody asked for.
def spareNames (applies : List Apply) : List String :=
  match (collect applies).aggregates with
  | [] => [placeholderName]
  | named => (named.filter (·.synthetic)).map (·.name)

def Query.values (q : Query) : List (Option String) :=
  q.aggregations.map Aggregation.name? ++ q.postAggregations.map PostAggregation.name?

theorem names_each {name : α → String} {name? : β → Option String} {as : List α} {bs : List β}
    (each : List.Forall₂ (fun a b => name? b = some (name a)) as bs) :
    bs.map name? = (as.map name).map some := by
  induction each with
  | nil => rfl
  | cons first rest ih => simp [first,ih]

section Values

variable {dataset : Dataset} {applies : List Apply}

theorem collect_names : (collect applies).aggregates.map (·.name)
    = (applies.filter (·.expression.isAggregate)).map (·.name)
      ++ ((collect applies).aggregates.filter (·.synthetic)).map (·.name) := by
  obtain ⟨posts,made,ran,whole⟩ := collect_run applies
  have numbered := (derive_run ran).1.2 (derived_start applies).numbered
  have own : (bare applies).filter (·.synthetic) = [] := by
    rw [List.filter_eq_nil_iff]
    intro k listed
    obtain ⟨b,-,-,rfl⟩ := bare_source listed
    exact Bool.false_ne_true
  have all : made.filter (·.synthetic) = made :=
    List.filter_eq_self.mpr numbered.made_up
  have named : (bare applies).map (·.name)
      = (applies.filter (·.expression.isAggregate)).map (·.name) := List.map_map
  rw [whole]
  dsimp only
  rw [List.filter_append,own,all,List.map_append,named]
  rfl

theorem aggregations_values {found : List Aggregation}
    (ran : aggregations dataset (collect applies) = .ok found) :
    found.map Aggregation.name?
      = ((applies.filter (·.expression.isAggregate)).map (·.name) ++ spareNames applies).map some := by
  have names := @collect_names applies
  rw [aggregations] at ran
  rw [spareNames]
  cases asked : (collect applies).aggregates with
  | nil =>
      rw [asked] at ran names
      cases ran
      obtain ⟨bare,-⟩ := List.append_eq_nil_iff.mp names.symm
      rw [bare]
      rfl
  | cons first rest =>
      rw [asked] at ran names
      have each := names_each ((mapM_ok ran).imp fun _ _ => Aggregation.ofAggregate_name)
      rw [each,names]

-- Derived applies are taken in another order, and none is left out.
theorem applies_divided : (applies.filter (·.expression.isAggregate) ++ derivedOrder applies).Perm
    applies := by
  have derived : (derivedOrder applies).Perm (derivedFrom applies) :=
    List.filter_append_perm _ _
  exact (derived.append_left _).trans (List.filter_append_perm _ _)

theorem computed_values {found : List Aggregation} {posts : List PostAggregation}
    (aggregates : aggregations dataset (collect applies) = .ok found)
    (arithmetic : postAggregations (collect applies) = .ok posts) :
    (found.map Aggregation.name? ++ posts.map PostAggregation.name?).Perm
      ((applies.map (·.name) ++ spareNames applies).map some) := by
  have derived := names_each ((postAggregations_related arithmetic).imp fun _ _ => And.left)
  rw [aggregations_values aggregates,derived,(collect_arithmetic applies).1,← List.map_append]
  refine List.Perm.map some ?_
  rw [List.append_assoc]
  refine (List.perm_append_comm.append_left _).trans ?_
  rw [← List.append_assoc,← List.map_append]
  exact (applies_divided.map _).append_right _

end Values

-- With the name of the timestamp and those of the bounds of time, a query has every key and every
-- apply, each once.
structure Delivers (dataset : Dataset) (folded : FoldedQuery) (q : Query)
    (timestampKey : Option String) (renames : Table String) : Prop where
  dimensions : ∃ keys, keys.Sublist folded.splitKeys ∧ List.Forall₂ (fun key dimension =>
    ∃ source, DimensionSource.ofExpr dataset key.2 = .ok source ∧ dimension = source.named key.1)
      keys q.dimensions
  keys : (q.dimensions.map (·.outputName) ++ timestampKey.toList).Perm (folded.splitKeys.map (·.1))
  values : match q with
    | .timeBoundary _ => (renames.map (·.2)).Perm (folded.applies.map (·.name))
    | _ => renames = [] ∧ q.values.Perm
        ((folded.applies.map (·.name) ++ spareNames folded.applies).map some)

section Plans

variable {p : Planner} {plan : Plan}

theorem lifted_listed {keys : List (String × Expr)} {name : String} {duration : Time.Duration}
    {zone : Option Time.Zone} (lifted : p.liftedBucket? keys = some (name,duration,zone)) :
    name ∈ keys.map (·.1) := by
  unfold Planner.liftedBucket? at lifted
  split at lifted
  · cases lifted
  · obtain ⟨key,listed,found⟩ := List.exists_of_findSome?_eq_some lifted
    obtain ⟨bucket,-,made⟩ := Option.map_eq_some_iff.mp found
    cases made
    exact List.mem_map_of_mem listed

theorem keys_divided {keys : List (String × Expr)} (distinct : (keys.map (·.1)).Nodup)
    {timestampKey : Option String} (listed : ∀ name ∈ timestampKey, name ∈ keys.map (·.1)) :
    ((keys.filter fun key => timestampKey != some key.1).map (·.1) ++ timestampKey.toList).Perm
      (keys.map (·.1)) := by
  cases timestampKey with
  | none =>
      have all : (keys.filter fun key => none != some key.1) = keys :=
        List.filter_eq_self.mpr fun key _ => rfl
      rw [all]
      exact .of_eq (List.append_nil _)
  | some name =>
      have others : (keys.filter fun key => some name != some key.1).map (·.1)
          = (keys.map (·.1)).erase name := by
        rw [distinct.erase_eq_filter,List.filter_map]
        congr 2
        funext key
        exact bne_comm
      rw [others]
      exact List.perm_append_comm.trans (List.perm_cons_erase (listed name rfl)).symm

variable (known : p.aggregates = collect p.folded.applies)

theorem timeBoundary_delivers (unkeyed : p.folded.splitKeys = []) (bounds : p.timeBoundary? = some plan) :
    Delivers p.dataset p.folded plan.query plan.timestampKey plan.renames := by
  obtain ⟨q,renames,named,rfl⟩ := Planner.timeBoundary_made bounds
  obtain ⟨-,asked,same,each⟩ := Planner.boundaryRenames_asked List.Pairwise.nil named
  refine ⟨⟨[],List.nil_sublist _,.nil⟩,by rw [unkeyed]; exact .nil,?_⟩
  have targets := same.map (·.2)
  rwa [List.nil_append,Planner.asked_names each] at targets

include known

theorem totals_delivers (unkeyed : p.folded.splitKeys = []) (ran : p.totals = .ok plan) :
    Delivers p.dataset p.folded plan.query plan.timestampKey plan.renames := by
  obtain ⟨aggregates,arithmetic,first,second,rfl⟩ := Planner.totals_made ran
  rw [known] at first second
  exact ⟨⟨[],List.nil_sublist _,.nil⟩,by rw [unkeyed]; exact .nil,rfl,computed_values first second⟩

theorem timeseries_delivers {name : String} {key : Expr} {duration : Time.Duration}
    {zone : Option Time.Zone} (single : p.folded.splitKeys = [(name,key)])
    (ran : p.timeseries name duration zone = .ok plan) :
    Delivers p.dataset p.folded plan.query plan.timestampKey plan.renames := by
  obtain ⟨aggregates,arithmetic,granularity,first,second,-,rfl⟩ := Planner.timeseries_made ran
  rw [known] at first second
  exact ⟨⟨[],List.nil_sublist _,.nil⟩,by rw [single]; exact .refl _,rfl,computed_values first second⟩

theorem topN_delivers {name : String} {key : Expr} (single : p.folded.splitKeys = [(name,key)])
    (ran : p.topN name key = .ok plan) :
    Delivers p.dataset p.folded plan.query plan.timestampKey plan.renames := by
  obtain ⟨aggregates,arithmetic,source,first,second,sourced,rfl⟩ := Planner.topN_made ran
  rw [known] at first second
  exact ⟨⟨[(name,key)],by rw [single],.cons ⟨source,sourced,rfl⟩ .nil⟩,
    by rw [single]; exact .refl _,rfl,computed_values first second⟩

theorem groupBy_delivers {having : Option HavingSpec}
    (distinct : (p.folded.splitKeys.map (·.1)).Nodup)
    (ran : p.groupBy p.folded.splitKeys having = .ok plan) :
    Delivers p.dataset p.folded plan.query plan.timestampKey plan.renames := by
  obtain ⟨aggregates,arithmetic,granularity,dimensions,first,second,-,made,rfl⟩ := Planner.groupBy_made ran
  rw [known] at first second
  have each := (mapM_ok made).imp fun key dimension made => by
    obtain ⟨source,sourced,made⟩ := bind_ok.mp made
    exact (⟨source,sourced,(pure_ok.mp made).symm⟩ : ∃ source,
      DimensionSource.ofExpr p.dataset key.2 = .ok source ∧ dimension = source.named key.1)
  refine ⟨⟨_,List.filter_sublist,each⟩,?_,rfl,computed_values first second⟩
  change (dimensions.map (·.outputName) ++ _).Perm _
  rw [Planner.dimensions_names made]
  refine keys_divided distinct fun name taken => ?_
  obtain ⟨⟨_,duration,zone⟩,lifted,rfl⟩ := Option.map_eq_some_iff.mp taken
  exact lifted_listed lifted

theorem plan_delivers (asked : p.folded.mode ≠ .raw)
    (distinct : (p.folded.splitKeys.map (·.1)).Nodup)
    (keyless : p.folded.mode ≠ .split → p.folded.splitKeys = []) (ran : p.plan = .ok plan) :
    Delivers p.dataset p.folded plan.query plan.timestampKey plan.renames := by
  cases Planner.plan_chosen ran with
  | select raw ran => exact absurd raw asked
  | timeBoundary unsplit bounds => exact timeBoundary_delivers (keyless unsplit.2) bounds
  | totals unsplit ran => exact totals_delivers known (keyless unsplit.2) ran
  | timeseries unfiltered single bucket ran => exact timeseries_delivers known single ran
  | topN unfiltered single ran => exact topN_delivers known single ran
  | groupBy filtered ran => exact groupBy_delivers known distinct ran

end Plans

end Druid

namespace Sql

-- What an engine groups by for a key: the column, where the client may look its values up in a
-- table that is at hand, and else the key.
inductive Groups (dataset : Dataset) : Expr → Expr → Prop
  | column {name table : String} {entries : Table String}
      (allowed : dataset.allowClientSideSplits = true)
      (configured : dataset.lookups.get? table = some entries) :
      Groups dataset (.lookup (.ref name) table) (.ref name)
  | key {key : Expr} (whole : ∀ name table, key = .lookup (.ref name) table →
      dataset.allowClientSideSplits = true → dataset.lookups.get? table = none) :
      Groups dataset key key

-- Applies in order, each with those before it and then the keys put in for their names.
inductive Defines (keys : List (String × Expr)) : List Apply → List (String × Expr) → Prop
  | none : Defines keys [] []
  | next {before : List Apply} {definitions : List (String × Expr)} {a : Apply}
      (earlier : Defines keys before definitions) :
      Defines keys (before ++ [a]) (definitions ++ [(a.name,
        (definitions ++ keys).foldl (fun e d => Expr.substitute d.1 d.2 e) a.expression)])

-- The column of a definition has its text, and its name as the label.
structure Column.Renders (renderer : Renderer) (definition : String × Expr) (column : Column) :
    Prop where
  text : renderer.render definition.2 = .ok column.sql
  label : column.label = some definition.1

-- A statement selects the keys and then the applies, and groups by the places of the keys.
structure Delivers (renderer : Renderer) (folded : FoldedQuery) (select : Select) : Prop where
  columns : ∃ keys definitions keyColumns applyColumns,
    List.Forall₂ (fun key grouped => grouped.1 = key.1 ∧ Groups renderer.dataset key.2 grouped.2)
      folded.splitKeys keys ∧
    Defines folded.splitKeys folded.applies definitions ∧
    select.columns = keyColumns ++ applyColumns ∧
    List.Forall₂ (fun key column => column.Renders renderer key) keys keyColumns ∧
    List.Forall₂ (fun d column => column.Renders renderer d) definitions applyColumns
  labels : select.columns.map (·.label)
    = (folded.splitKeys.map (·.1) ++ folded.applies.map (·.name)).map some
  groups : select.groupBy = (List.range folded.splitKeys.length).map fun i => toString (i + 1)

-- The text has a clause on each line: what is selected, where it is from, the places that rows are
-- grouped by if there are any, and clauses that neither select nor group.
structure Select.Writes (dialect : Dialect) (select : Select) (text : String) : Prop where
  columned : select.columns ≠ []
  clauses : ∃ items source rest,
    List.Forall₂ (fun column item => ∀ label, column.label = some label →
      item = column.sql ++ " AS " ++ dialect.quoteIdentifier label) select.columns items ∧
    (∀ clause ∈ source, ∃ more, clause = "FROM " ++ more ∨ clause = "WHERE " ++ more) ∧
    (∀ clause ∈ rest, ∃ more, clause = "HAVING " ++ more ∨ clause = "ORDER BY " ++ more ∨
      clause = "LIMIT " ++ more ∨ clause = "OFFSET " ++ more) ∧
    text = String.intercalate "\n" (("SELECT\n  " ++ String.intercalate ",\n  " items) :: source ++
      (if select.groupBy = [] then []
        else ["GROUP BY " ++ String.intercalate ", " select.groupBy]) ++ rest)

theorem limitOffset_keyword (limit offset : Option UInt64) :
    limitOffset limit offset = "" ∨ ∃ more, limitOffset limit offset = "LIMIT " ++ more ∨
      limitOffset limit offset = "OFFSET " ++ more := by
  cases limit with
  | none =>
      cases offset with
      | none => exact .inl rfl
      | some skipped => exact .inr ⟨_,.inr rfl⟩
  | some most =>
      cases offset with
      | none => exact .inr ⟨_,.inl rfl⟩
      | some skipped =>
          refine .inr ⟨toString (signedWord most) ++ (" " ++ ("OFFSET " ++
            toString (signedWord skipped))),.inl ?_⟩
          simp [limitOffset,String.intercalate_cons_cons,String.append_assoc]

theorem clause_lines (keyword : String) (items : List String) :
    [Select.clause keyword items].filterMap id
      = if items = [] then [] else [keyword ++ " " ++ String.intercalate ", " items] := by
  cases items <;> rfl

section Text

variable (dialect : Dialect) (select : Select)

def Select.sourceLines : List String :=
  [select.source.map (fun t => "FROM " ++ tableText dialect t),
    select.condition.map (fun c => "WHERE " ++ c)].filterMap id

def Select.lastLines : List String :=
  [select.having.map (fun c => "HAVING " ++ c),clause "ORDER BY" (select.orderBy.map (orderText dialect)),
    if (limitOffset select.limit select.offset).isEmpty then none
    else some (limitOffset select.limit select.offset)].filterMap id

theorem sourceLines_keyword : ∀ clause ∈ select.sourceLines dialect,
    ∃ more, clause = "FROM " ++ more ∨ clause = "WHERE " ++ more := by
  intro clause listed
  simp only [Select.sourceLines,List.mem_filterMap,List.mem_cons,List.not_mem_nil,or_false,id] at listed
  obtain ⟨_,rfl | rfl,written⟩ := listed
  · obtain ⟨_,-,rfl⟩ := Option.map_eq_some_iff.mp written
    exact ⟨_,.inl rfl⟩
  · obtain ⟨_,-,rfl⟩ := Option.map_eq_some_iff.mp written
    exact ⟨_,.inr rfl⟩

theorem lastLines_keyword : ∀ clause ∈ select.lastLines dialect,
    ∃ more, clause = "HAVING " ++ more ∨ clause = "ORDER BY " ++ more ∨
      clause = "LIMIT " ++ more ∨ clause = "OFFSET " ++ more := by
  intro clause listed
  simp only [Select.lastLines,List.mem_filterMap,List.mem_cons,List.not_mem_nil,or_false,id] at listed
  obtain ⟨_,rfl | rfl | rfl,written⟩ := listed
  · obtain ⟨_,-,rfl⟩ := Option.map_eq_some_iff.mp written
    exact ⟨_,.inl rfl⟩
  · have line : clause ∈ [Select.clause "ORDER BY"
        (select.orderBy.map (Select.orderText dialect))].filterMap id := by simp [written]
    rw [clause_lines] at line
    split at line
    · cases line
    · exact ⟨_,.inr (.inl (List.mem_singleton.mp line))⟩
  · split at written
    · cases written
    · rename_i said
      cases written
      obtain empty | ⟨more,limits⟩ := limitOffset_keyword select.limit select.offset
      · exact absurd (String.isEmpty_iff.mpr empty) said
      · exact ⟨more,.inr (.inr limits)⟩

variable {select}

theorem text_writes (columned : select.columns ≠ []) : select.Writes dialect (select.text dialect) := by
  refine ⟨columned,select.columns.map (Select.columnText dialect),select.sourceLines dialect,
    select.lastLines dialect,?_,sourceLines_keyword dialect select,lastLines_keyword dialect select,?_⟩
  · refine List.forall₂_map_right_iff.mpr (List.forall₂_same.mpr fun column _ label named => ?_)
    simp only [Select.columnText,named]
  · have selected : [some (if select.columns.isEmpty then "SELECT *" else "SELECT\n  " ++
        String.intercalate ",\n  " (select.columns.map (Select.columnText dialect)))].filterMap id
        = ["SELECT\n  " ++
          String.intercalate ",\n  " (select.columns.map (Select.columnText dialect))] := by
      rw [if_neg (by simpa using columned)]
      rfl
    have places : [Select.clause "GROUP BY" select.groupBy].filterMap id = if select.groupBy = [] then []
        else ["GROUP BY " ++ String.intercalate ", " select.groupBy] :=
      clause_lines "GROUP BY" select.groupBy
    rw [← places,← List.singleton_append,← selected,Select.sourceLines,Select.lastLines,
      ← List.filterMap_append,← List.filterMap_append,← List.filterMap_append]
    rfl

end Text

theorem Delivers.columned {renderer : Renderer} {folded : FoldedQuery} {select : Select}
    (delivers : Delivers renderer folded select)
    (asks : folded.splitKeys ≠ [] ∨ folded.applies ≠ []) : select.columns ≠ [] := by
  intro none
  have labels := delivers.labels
  rw [none,List.map_nil,eq_comm,List.map_eq_nil_iff,List.append_eq_nil_iff,List.map_eq_nil_iff,
    List.map_eq_nil_iff] at labels
  exact asks.elim (absurd labels.1) (absurd labels.2)

theorem inlineApplies_defines (applies : List Apply) (keys : List (String × Expr)) :
    Defines keys applies (inlineApplies applies keys) := by
  induction applies using List.reverseRecOn with
  | nil => exact .none
  | append_singleton before a ih =>
      rw [inlineApplies_append]
      exact .next ih

theorem Defines.names {keys : List (String × Expr)} {applies : List Apply}
    {definitions : List (String × Expr)} (defines : Defines keys applies definitions) :
    definitions.map (·.1) = applies.map (·.name) := by
  induction defines with
  | none => rfl
  | next earlier ih => rw [List.map_append,List.map_append,ih]; rfl

section Statements

variable {p : Planner}

theorem columns_rendered {definitions : List (String × Expr)} {columns : List Column}
    (ran : definitions.mapM p.column = .ok columns) :
    List.Forall₂ (fun d column => column.Renders p.renderer d) definitions columns := by
  refine (mapM_ok ran).imp fun definition column made => ?_
  obtain ⟨sql,rendered,made⟩ := bind_ok.mp made
  cases pure_ok.mp made
  exact ⟨rendered,rfl⟩

theorem rendered_labels {renderer : Renderer} {definitions : List (String × Expr)}
    {columns : List Column}
    (rendered : List.Forall₂ (fun d column => column.Renders renderer d) definitions columns) :
    columns.map (·.label) = (definitions.map (·.1)).map some :=
  Druid.names_each (rendered.imp fun _ _ => Column.Renders.label)

theorem groupedKey_groups (key : String × Expr) :
    (p.groupedKey key).1 = key.1 ∧ Groups p.dataset key.2 (p.groupedKey key).2 := by
  unfold Planner.groupedKey
  cases found : p.clientLookup? key.2 with
  | none =>
      refine ⟨rfl,.key fun name table is allowed => ?_⟩
      simpa [Planner.clientLookup?,is,allowed] using found
  | some looked =>
      refine ⟨rfl,?_⟩
      unfold Planner.clientLookup? at found
      split at found
      · cases found
      · rename_i allowed
        split at found
        · rename_i name table is
          obtain ⟨entries,configured,rfl⟩ := Option.map_eq_some_iff.mp found
          rw [is]
          exact .column (by simpa using allowed) configured
        · cases found

theorem grouped_delivers {select : Select} (ran : p.grouped p.folded.splitKeys = .ok select) :
    Delivers p.renderer p.folded select := by
  obtain ⟨keyColumns,first,ran⟩ := bind_ok.mp ran
  obtain ⟨applyColumns,second,ran⟩ := bind_ok.mp ran
  obtain ⟨base,third,ran⟩ := bind_ok.mp ran
  cases pure_ok.mp ran
  have defines := inlineApplies_defines p.folded.applies p.folded.splitKeys
  have names : (p.folded.splitKeys.map p.groupedKey).map (·.1) = p.folded.splitKeys.map (·.1) := by
    rw [List.map_map]
    exact List.map_congr_left fun key _ => (groupedKey_groups key).1
  refine ⟨⟨_,_,_,_,?_,defines,rfl,columns_rendered first,columns_rendered second⟩,?_,rfl⟩
  · exact List.forall₂_map_right_iff.mpr (List.forall₂_same.mpr fun key _ => groupedKey_groups key)
  · rw [List.map_append,rendered_labels (columns_rendered first),
      rendered_labels (columns_rendered second),names,defines.names,List.map_append]

theorem splitStatement_delivers {select : Select}
    (ran : p.splitStatement p.folded.splitKeys = .ok select) :
    Delivers p.renderer p.folded select := by
  obtain ⟨grouped,first,ran⟩ := bind_ok.mp ran
  have delivers := grouped_delivers first
  split at ran
  · obtain ⟨having,-,ran⟩ := bind_ok.mp ran
    cases pure_ok.mp ran
    exact ⟨delivers.columns,delivers.labels,delivers.groups⟩
  · cases pure_ok.mp ran
    exact delivers

theorem statement_delivers {select : Select} (asked : p.folded.mode ≠ .raw)
    (keyless : p.folded.mode ≠ .split → p.folded.splitKeys = [])
    (ran : p.statement = .ok select) : Delivers p.renderer p.folded select := by
  unfold Planner.statement at ran
  split at ran
  · rename_i raw
    exact absurd raw asked
  · split at ran
    · exact absurd ran unsupported_ok
    · rename_i split keyed
      refine splitStatement_delivers ?_
      rwa [FoldedQuery.splitKeys,keyed]
  · rename_i unsplit
    obtain ⟨columns,first,ran⟩ := bind_ok.mp ran
    obtain ⟨base,second,ran⟩ := bind_ok.mp ran
    cases pure_ok.mp ran
    obtain ⟨condition,rfl⟩ := Planner.base_only second
    have defines := inlineApplies_defines p.folded.applies []
    have rendered := columns_rendered first
    refine ⟨⟨[],_,[],columns,?_,?_,rfl,.nil,rendered⟩,?_,?_⟩ <;> rw [keyless unsplit]
    · exact .nil
    · exact defines
    · exact (rendered_labels rendered).trans (congrArg (List.map some) defines.names)
    · rfl

end Statements

end Sql

-- Everything that a level is to report is planned, and nothing is planned twice.
theorem outputs_planned_once {dataset : Dataset} {e : Expr} {level : Level} {folded : FoldedQuery}
    (ordered : ∀ keys dataName, .split keys dataName ∈ e.chainSteps → Table.Ordered keys)
    (plans : planLevel dataset e = .ok level) (folds : fold dataset e = .ok folded)
    (asked : folded.mode ≠ .raw) :
    level.splitKeys = folded.splitKeys ∧ Table.Ordered folded.splitKeys ∧
      (folded.applies.map (·.name)).Nodup ∧
      match level.query with
      | none => folded.splitKeys = [] ∧ folded.applies = []
      | some (.druid q) => Druid.Delivers dataset folded q level.post.timestampKey level.post.renames
      | some (.sql text) => ∃ dialect select, planStatement dataset folded = .ok (.sql dialect select) ∧
          select.Writes dialect text ∧ Sql.Delivers { dialect,dataset } folded select := by
  have inOrder := fold_keys_ordered folds ordered
  have keyless : folded.mode ≠ .split → folded.splitKeys = [] := fold_keyless folds
  obtain ⟨other,again,plans⟩ := bind_ok.mp plans
  cases folds.symm.trans again
  dsimp only at plans
  split at plans
  · rename_i asks
    obtain ⟨⟨query,post⟩,chosen,plans⟩ := bind_ok.mp plans
    cases pure_ok.mp plans
    refine ⟨rfl,inOrder,applies_distinct folds,?_⟩
    unfold planQuery at chosen
    split at chosen
    · obtain ⟨plan,made,chosen⟩ := bind_ok.mp chosen
      cases pure_ok.mp chosen
      obtain ⟨p,kept,ran⟩ := bind_ok.mp made
      obtain ⟨rfl,rfl,known⟩ := Druid.Planner.make_parts kept
      exact Druid.plan_delivers known asked inOrder.distinct keyless ran
    · rename_i engine
      obtain ⟨plan,made,chosen⟩ := bind_ok.mp chosen
      cases pure_ok.mp chosen
      unfold Sql.plan at made
      split at made
      · cases made
      · rename_i dialect spoken
        obtain ⟨select,written,text,-⟩ := Sql.Planner.plan_cases made
        have delivers := Sql.statement_delivers asked keyless written
        have writes : select.Writes dialect plan.sql :=
          text ▸ Sql.text_writes dialect (delivers.columned (fold_columned folds asked asks))
        refine ⟨dialect,select,?_,writes,delivers⟩
        unfold planStatement
        split
        · rename_i druid
          exact absurd druid engine
        · rw [spoken]
          exact bind_ok.mpr ⟨_,written,rfl⟩
  · rename_i nothing
    cases pure_ok.mp plans
    refine ⟨rfl,inOrder,applies_distinct folds,?_⟩
    have none : folded.mode = .total ∧ folded.applies = [] := by
      simpa [FoldedQuery.asks] using nothing
    exact ⟨keyless (by rw [none.1]; decide),none.2⟩

namespace Means

open Druid.Days (edits ofDays ofPages)

def means (edited : Expr) : Expr :=
  .apply edited "Mean" (.average (.ref "data") (.ref "added"))

def stored : Dataset :=
  { edits with engine := .postgres }

def statement : String :=
  "SELECT\n  \"page\" AS \"Page\",\n  COUNT(*) AS \"Edits\",\n  (SUM(\"added\")/COUNT(*)) AS \"Mean\"\n" ++
    "FROM \"edits\"\nGROUP BY 1"

def selected? (e : Expr) : Option String :=
  (planLevel stored e).toOption.bind fun level =>
    match level.query with
    | some (.sql text) => some text
    | _ => none

theorem selected_level {e : Expr} {text : String} (selected : selected? e = some text) :
    ∃ level, planLevel stored e = .ok level ∧ level.query = some (.sql text) := by
  obtain ⟨level,plans,asked⟩ := Option.bind_eq_some_iff.mp selected
  refine ⟨level,toOption_ok.mp plans,?_⟩
  split at asked
  · rename_i same
    cases asked
    exact same
  · cases asked

theorem split_ordered {rows : String} {own keys : List (String × Expr)} {dataName : String}
    {count : Expr} (ordered : Table.Ordered own) (listed : .split keys dataName ∈
      (means (.apply (.split (.ref rows) own rows) "Edits" count)).chainSteps) :
    Table.Ordered keys := by
  simp only [means,Expr.chainSteps,List.nil_append,List.cons_append,List.mem_cons,
    Step.split.injEq,reduceCtorEq,List.not_mem_nil,or_false] at listed
  rw [listed.1]
  exact ordered

-- A Druid query has the sum made up for the average, and the day as the timestamp. A statement has
-- the average written out.
theorem means_delivered :
    (∃ level folded q, planLevel edits (means ofDays) = .ok level ∧
      fold edits (means ofDays) = .ok folded ∧ folded.mode ≠ .raw ∧
      level.query = some (.druid q) ∧ level.post.timestampKey = some "Day" ∧
      q.values = [some "Edits",some "!T_0",some "Mean"] ∧
      Druid.Delivers edits folded q level.post.timestampKey level.post.renames) ∧
    ∃ level folded dialect select, planLevel stored (means ofPages) = .ok level ∧
      fold stored (means ofPages) = .ok folded ∧ folded.mode ≠ .raw ∧
      level.query = some (.sql statement) ∧ select.Writes dialect statement ∧
      Sql.Delivers { dialect,dataset := stored } folded select := by
  refine ⟨?_,?_⟩
  · have ordered : ∀ keys dataName, .split keys dataName ∈ (means ofDays).chainSteps →
        Table.Ordered keys := fun _ _ => split_ordered (by decide)
    obtain ⟨level,q,plans,asked,stamped,values⟩ : ∃ level q,
      planLevel edits (means ofDays) = .ok level ∧ level.query = some (.druid q) ∧
        level.post.timestampKey = some "Day" ∧
        q.values = [some "Edits",some "!T_0",some "Mean"] := ⟨_,_,rfl,rfl,rfl,rfl⟩
    obtain ⟨folded,folds,grouped⟩ : ∃ folded, fold edits (means ofDays) = .ok folded ∧
      folded.mode ≠ .raw := ⟨_,rfl,nofun⟩
    obtain ⟨-,-,-,delivers⟩ := outputs_planned_once ordered plans folds grouped
    rw [asked] at delivers
    exact ⟨level,folded,q,plans,folds,grouped,asked,stamped,values,delivers⟩
  · have ordered : ∀ keys dataName, .split keys dataName ∈ (means ofPages).chainSteps →
        Table.Ordered keys := fun _ _ => split_ordered (by decide)
    have selected : selected? (means ofPages) = some statement := by decide +kernel
    obtain ⟨level,plans,asked⟩ := selected_level selected
    obtain ⟨folded,folds,grouped⟩ : ∃ folded, fold stored (means ofPages) = .ok folded ∧
      folded.mode ≠ .raw := ⟨_,rfl,nofun⟩
    obtain ⟨-,-,-,delivers⟩ := outputs_planned_once ordered plans folds grouped
    rw [asked] at delivers
    obtain ⟨dialect,select,-,text,delivers⟩ := delivers
    exact ⟨level,folded,dialect,select,plans,folds,grouped,asked,text,delivers⟩

end Means

end OlapQuery
