import OlapQuery.Proofs.ClientSplit
import OlapQuery.Proofs.LastDefinition
import OlapQuery.Proofs.RowOrder

-- Least and greatest values of splits that are left to the client. Rows that come together under
-- looked-up keys are merged by number alone: a column without a number is left as it is in the
-- first row, whatever the others have there.

namespace OlapQuery

open Decimal (value?)
open Sql (Merge)

section Cells

def Known (cell : Option Json) : Prop :=
  columnRank cell ≠ 0

def IsNumber (cell : Option Json) : Prop :=
  columnRank cell = 2

instance (cell : Option Json) : Decidable (Known cell) :=
  inferInstanceAs (Decidable (_ ≠ _))

instance (cell : Option Json) : Decidable (IsNumber cell) :=
  inferInstanceAs (Decidable (_ = _))

def cellValue (cell : Option Json) : Option ℚ :=
  (cell.bind Json.number?).bind value?

variable {m : Merge} {cell other : Option Json} {q r : ℚ}

theorem number_value (finite : FiniteCell cell) :
    IsNumber cell ↔ ∃ q, cellValue cell = some q := by
  cases cell with
  | none => exact iff_of_false nofun nofun
  | some json =>
      cases json with
      | int n => exact iff_of_true rfl (Option.isSome_iff_exists.mp (finite _ rfl))
      | float x => exact iff_of_true rfl (Option.isSome_iff_exists.mp (finite _ rfl))
      | _ => exact iff_of_false nofun nofun

theorem value_number (is : cellValue cell = some q) : IsNumber cell := by
  obtain ⟨x,number,-⟩ := Option.bind_eq_some_iff.mp is
  rcases cell with _ | (_ | _ | _ | _ | _ | _ | _) <;> cases number <;> rfl

theorem value_finite (is : cellValue cell = some q) : FiniteCell cell := by
  intro x number
  rw [cellValue,number] at is
  exact Option.isSome_iff_exists.mpr ⟨q,is⟩

theorem valueless (finite : FiniteCell cell) (empty : cellValue cell = none) :
    cell.bind Json.number? = none := by
  cases number : cell.bind Json.number? with
  | none => rfl
  | some x =>
      obtain ⟨q,value⟩ := Option.isSome_iff_exists.mp (finite x number)
      rw [cellValue,number,Option.bind_some,value] at empty
      cases empty

theorem IsNumber.known (number : IsNumber cell) : Known cell := by
  rw [Known,number]
  decide

theorem compare_numbers (left : cellValue cell = some q) (right : cellValue other = some r) :
    compareColumns cell other = compare q r := by
  obtain ⟨x,first,leftValue⟩ := Option.bind_eq_some_iff.mp left
  obtain ⟨y,second,rightValue⟩ := Option.bind_eq_some_iff.mp right
  rw [compareColumns_numbers (value_finite left) (value_finite right) first second,
    cellNumber_value first leftValue,cellNumber_value second rightValue]

theorem compare_other (number : IsNumber cell) (different : ¬ IsNumber other) :
    compareColumns cell other = compare 2 (columnRank other) := by
  rw [compareColumns_rank (by rw [number]; exact Ne.symm different),number]

end Cells

namespace Sql.Merge

-- For the least, the cell does not come after the other one; for the greatest, not before it.
def Keeps : Merge → Option Json → Option Json → Prop
  | .max,cell,other => compareColumns cell other ≠ .lt
  | _,cell,other => compareColumns cell other ≠ .gt

-- The least or greatest of the cells with a value, or without a value if none of them has any.
structure Extreme (m : Merge) (cells : List (Option Json)) (cell : Option Json) : Prop where
  found : ∃ other ∈ cells, compareColumns cell other = .eq
  bound : ∀ other ∈ cells, Known other → Known cell ∧ m.Keeps cell other

-- Nothing else comes before the numbers, for the least, or after them; and where there are no numbers
-- the first cell is the extreme one.
structure Takes (m : Merge) (cells : List (Option Json)) : Prop where
  numbers : ∀ number ∈ cells, IsNumber number → ∀ other ∈ cells, Known other → ¬ IsNumber other →
    m.Keeps number other
  first : (∀ cell ∈ cells, ¬ IsNumber cell) → m.Extreme cells (cells.head?.getD none)

def extremeValue : Merge → List ℚ → Option ℚ
  | .max,values => values.max?
  | _,values => values.min?

variable {m : Merge} {cell other : Option Json}

theorem extremeValue_append (extreme : m ≠ .sum) (as bs : List ℚ) :
    m.extremeValue (as ++ bs) = m.combined (m.extremeValue as) (m.extremeValue bs) := by
  cases m with
  | sum => exact absurd rfl extreme
  | min => exact min_append as bs
  | max => exact max_append as bs

theorem mergedCell_value (extreme : m ≠ .sum) (left : FiniteCell cell) (right : FiniteCell other) :
    cellValue (mergedCell m other cell) = m.combined (cellValue cell) (cellValue other) := by
  unfold mergedCell cellValue
  cases first : cell.bind Json.number? with
  | none =>
      cases second : other.bind Json.number? with
      | none => simp [applyOptional,combined,first]
      | some y =>
          obtain ⟨r,value⟩ := Option.isSome_iff_exists.mp (right y second)
          simp [applyOptional,combined,value,Decimal.number_ofNumber value]
  | some x =>
      obtain ⟨q,value⟩ := Option.isSome_iff_exists.mp (left x first)
      cases second : other.bind Json.number? with
      | none => simp [applyOptional,combined,value,Decimal.number_ofNumber value]
      | some y =>
          obtain ⟨r,value'⟩ := Option.isSome_iff_exists.mp (right y second)
          have merged := apply_value (m := m) value value' fun sum => absurd sum extreme
          simp [applyOptional,combined,value,value',Decimal.number_ofNumber merged]

theorem combined_none {a b : Option ℚ} : m.combined a b = none ↔ a = none ∧ b = none := by
  cases a <;> cases b <;> simp [combined]

theorem mergedCell_kept (extreme : m ≠ .sum) (left : FiniteCell cell) (right : FiniteCell other)
    (empty : cellValue (mergedCell m other cell) = none) : mergedCell m other cell = cell := by
  rw [mergedCell_value extreme left right,combined_none] at empty
  unfold mergedCell
  rw [valueless left empty.1,valueless right empty.2]
  rfl

theorem extremeValue_single (m : Merge) (cell : Option Json) :
    m.extremeValue ([cell].filterMap cellValue) = cellValue cell := by
  cases value : cellValue cell <;> cases m <;> simp [extremeValue,value]

-- What the merging of a column comes to: the least or greatest of its numbers, and the first cell
-- where there are none.
theorem merged_column (extreme : m ≠ .sum) {first : Option Json} {rest : List (Option Json)}
    (finite : ∀ cell ∈ first :: rest, FiniteCell cell) :
    let last := rest.foldl (fun cell other => mergedCell m other cell) first
    FiniteCell last ∧ cellValue last = m.extremeValue ((first :: rest).filterMap cellValue) ∧
      (cellValue last = none → last = first) := by
  induction rest using List.reverseRecOn with
  | nil =>
      exact ⟨finite first List.mem_cons_self,(m.extremeValue_single first).symm,fun _ => rfl⟩
  | append_singleton rest added ih =>
      rw [← List.cons_append] at finite
      obtain ⟨before,value,kept⟩ := ih fun cell listed => finite cell (List.mem_append_left _ listed)
      have right := finite added (by simp)
      have merged := mergedCell_value extreme before right
      have stays := mergedCell_kept extreme before right
      dsimp only
      rw [List.foldl_concat]
      refine ⟨?_,?_,fun empty => ?_⟩
      · cases found : cellValue (mergedCell m added
            (rest.foldl (fun cell other => mergedCell m other cell) first)) with
        | none => rw [stays found]; exact before
        | some q => exact value_finite found
      · rw [merged,value,← List.cons_append,List.filterMap_append,extremeValue_append extreme,
          extremeValue_single]
      · rw [stays empty]
        rw [merged,combined_none] at empty
        exact kept empty.1

-- The numbers that stay when the other one is merged into them.
def KeepsValue : Merge → ℚ → ℚ → Prop
  | .max,q,r => r ≤ q
  | _,q,r => q ≤ r

theorem extremeValue_some {values : List ℚ} {q : ℚ} :
    m.extremeValue values = some q ↔ q ∈ values ∧ ∀ r ∈ values, m.KeepsValue q r := by
  cases m with
  | max => exact List.max?_eq_some_iff
  | sum => exact List.min?_eq_some_iff
  | min => exact List.min?_eq_some_iff

theorem extremeValue_none {values : List ℚ} : m.extremeValue values = none ↔ values = [] := by
  cases m with
  | max => exact List.max?_eq_none_iff
  | sum => exact List.min?_eq_none_iff
  | min => exact List.min?_eq_none_iff

theorem keeps_numbers {q r : ℚ} (left : cellValue cell = some q) (right : cellValue other = some r) :
    m.Keeps cell other ↔ m.KeepsValue q r := by
  have compared := compare_numbers left right
  cases m <;> simp [Keeps,KeepsValue,compared,compare_gt_iff_gt,compare_lt_iff_lt]

theorem keeps_other {number : Option Json} (left : IsNumber cell) (right : IsNumber number)
    (different : ¬ IsNumber other) : m.Keeps cell other ↔ m.Keeps number other := by
  have compared := (compare_other left different).trans (compare_other right different).symm
  cases m <;> simp only [Keeps,compared]

theorem extreme_takes (extreme : m ≠ .sum) {first : Option Json} {rest : List (Option Json)}
    (finite : ∀ cell ∈ first :: rest, FiniteCell cell) :
    m.Extreme (first :: rest) (rest.foldl (fun cell other => mergedCell m other cell) first) ↔
      m.Takes (first :: rest) := by
  obtain ⟨-,value,kept⟩ := merged_column extreme finite
  generalize rest.foldl (fun cell other => mergedCell m other cell) first = last at value kept ⊢
  have inValues {cell : Option Json} {q : ℚ} (listed : cell ∈ first :: rest)
      (is : cellValue cell = some q) : q ∈ (first :: rest).filterMap cellValue :=
    List.mem_filterMap.mpr ⟨cell,listed,is⟩
  cases found : cellValue last with
  | none =>
      rw [found,eq_comm,extremeValue_none] at value
      have numberless : ∀ cell ∈ first :: rest, ¬ IsNumber cell := by
        intro cell listed number
        obtain ⟨q,is⟩ := (number_value (finite cell listed)).mp number
        rw [value] at inValues
        cases inValues listed is
      rw [kept found]
      constructor
      · intro holds
        exact ⟨fun number listed is => absurd is (numberless number listed),fun _ => holds⟩
      · intro takes
        exact takes.first numberless
  | some q =>
      rw [found,eq_comm,extremeValue_some] at value
      obtain ⟨source,listed,is⟩ := List.mem_filterMap.mp value.1
      have number := value_number found
      constructor
      · intro holds
        refine ⟨fun other member isNumber cell known some different => ?_,fun numberless => ?_⟩
        · exact (keeps_other number isNumber different).mp (holds.bound cell known some).2
        · exact absurd (value_number is) (numberless source listed)
      · intro takes
        refine ⟨⟨source,listed,?_⟩,fun other member known => ⟨number.known,?_⟩⟩
        · rw [compare_numbers found is]
          exact compare_eq_iff_eq.mpr rfl
        · by_cases same : IsNumber other
          · obtain ⟨r,second⟩ := (number_value (finite other member)).mp same
            exact (keeps_numbers found second).mpr (value.2 r (inValues member second))
          · exact (keeps_other number (value_number is) same).mpr
              (takes.numbers source listed (value_number is) other member known same)

theorem takes_numbers {first : Option Json} {rest : List (Option Json)}
    (numbers : ∀ cell ∈ first :: rest, Known cell → IsNumber cell) : m.Takes (first :: rest) := by
  refine ⟨fun number _ _ other listed known different => ?_,fun numberless => ?_⟩
  · exact absurd (numbers other listed known) different
  · have unknown : ∀ cell ∈ first :: rest, ¬ Known cell := fun cell listed known =>
      numberless cell listed (numbers cell listed known)
    refine ⟨⟨first,List.mem_cons_self,?_⟩,fun other listed known => absurd known (unknown other listed)⟩
    have rank := of_not_not (unknown first List.mem_cons_self)
    rcases first with _ | (_ | _ | _ | _ | _ | _ | _) <;> first | rfl | cases rank

end Sql.Merge

namespace PostProcess

variable {p : PostProcess} {rows : List Row} {row : Row}

-- The rows that were merged into one, the first of which gave the keys.
structure Merged (p : PostProcess) (entry : List Json × Row) (group : List Row) : Prop where
  rows : ∃ first rest, group = first :: rest ∧ entry = (p.keysOf first,rest.foldl p.mergeRow first) ∧
    ∀ row ∈ rest, Json.sameItems (p.keysOf first) (p.keysOf row) = true

structure Gathered (p : PostProcess) (rows : List Row) (entries : List (List Json × Row))
    (groups : List (List Row)) : Prop where
  merged : List.Forall₂ p.Merged entries groups
  apart : (entries.map (·.1)).Pairwise fun keys others => Json.sameItems keys others = false
  whole : groups.flatten.Perm rows
  ordered : ∀ group ∈ groups, group.Sublist rows

theorem addToGroups_gathered {entries : List (List Json × Row)} {groups : List (List Row)}
    (gathered : p.Gathered rows entries groups) (row : Row) :
    ∃ next, p.Gathered (rows ++ [row]) (p.addToGroups row entries) next := by
  have later {group : List Row} (listed : group ∈ groups) : group.Sublist (rows ++ [row]) :=
    (gathered.ordered group listed).trans (List.sublist_append_left rows [row])
  rcases addToGroups_cases p row entries with
    ⟨new,result⟩ | ⟨before,keys,merged,after,rfl,same,result⟩
  · refine ⟨groups ++ [[row]],?_,?_,?_,?_⟩
    · rw [result]
      exact List.rel_append gathered.merged (.cons ⟨row,[],rfl,rfl,nofun⟩ .nil)
    · rw [result,List.map_append]
      refine List.pairwise_append.mpr ⟨gathered.apart,List.pairwise_singleton _ _,?_⟩
      intro keys listed last isLast
      cases List.mem_singleton.mp isLast
      obtain ⟨entry,member,rfl⟩ := List.mem_map.mp listed
      exact new entry member
    · simpa using gathered.whole.append_right [row]
    · intro group listed
      rcases List.mem_append.mp listed with early | last
      · exact later early
      · rw [List.mem_singleton.mp last]
        exact List.sublist_append_right rows [row]
  · obtain ⟨early,group,late,rfl,prior,⟨first,rest,rfl,is,alike⟩,others⟩ :=
      forall_middle gathered.merged
    cases is
    refine ⟨early ++ (first :: rest ++ [row]) :: late,?_,?_,?_,?_⟩
    · rw [result]
      refine List.rel_append prior (.cons ⟨first,rest ++ [row],rfl,?_,?_⟩ others)
      · rw [List.foldl_concat]
      · intro other listed
        rcases List.mem_append.mp listed with inside | last
        · exact alike other inside
        · rw [List.mem_singleton.mp last]
          exact same
    · have apart := gathered.apart
      rw [List.map_append,List.map_cons] at apart
      rw [result,List.map_append,List.map_cons]
      exact apart
    · have whole := gathered.whole.append_right [row]
      simp only [List.flatten_append,List.flatten_cons,List.append_assoc] at whole ⊢
      exact ((List.perm_append_comm.append_left (first :: rest)).append_left early.flatten).trans whole
    · intro group listed
      rcases List.mem_append.mp listed with inside | outside
      · exact later (List.mem_append_left _ inside)
      · rcases List.mem_cons.mp outside with rfl | outside
        · exact (gathered.ordered _ (by simp)).append (List.Sublist.refl [row])
        · exact later (List.mem_append_right _ (List.mem_cons_of_mem _ outside))

theorem regroup_gathered (p : PostProcess) (rows : List Row) :
    ∃ groups, p.Gathered rows (rows.foldl (fun entries row => p.addToGroups row entries) []) groups := by
  induction rows using List.reverseRecOn with
  | nil => exact ⟨[],.nil,.nil,.refl _,nofun⟩
  | append_singleton rows row ih =>
      obtain ⟨groups,gathered⟩ := ih
      rw [List.foldl_concat]
      exact addToGroups_gathered gathered row

-- The rows by their keys: each group in the order of the rows.
structure Groups (p : PostProcess) (rows : List Row) (groups : List (List Row)) : Prop where
  whole : groups.flatten.Perm rows
  ordered : ∀ group ∈ groups, group.Sublist rows
  occupied : ∀ group ∈ groups, group ≠ []
  alike : ∀ group ∈ groups,
    group.Pairwise fun a b => Json.sameItems (p.keysOf a) (p.keysOf b) = true
  apart : groups.Pairwise fun group other => ∀ a ∈ group, ∀ b ∈ other,
    Json.sameItems (p.keysOf a) (p.keysOf b) = false

theorem Merged.keyed {entry : List Json × Row} {group : List Row} (merged : p.Merged entry group)
    {keys : List Json} (listed : row ∈ group) (same : Json.sameItems (p.keysOf row) keys = true) :
    Json.sameItems entry.1 keys = true := by
  obtain ⟨first,rest,rfl,rfl,alike⟩ := merged
  rcases List.mem_cons.mp listed with rfl | later
  · exact same
  · exact Json.sameItems_trans _ (alike row later) same

theorem Merged.alike {entry : List Json × Row} {group : List Row} (merged : p.Merged entry group) :
    group.Pairwise fun a b => Json.sameItems (p.keysOf a) (p.keysOf b) = true := by
  obtain ⟨first,rest,rfl,-,alike⟩ := merged
  refine List.pairwise_cons.mpr ⟨alike,List.pairwise_of_forall_mem_list fun a left b right => ?_⟩
  have back := alike a left
  rw [Json.sameItems_comm] at back
  exact Json.sameItems_trans _ back (alike b right)

theorem groups_apart {entries : List (List Json × Row)} {groups : List (List Row)}
    (merged : List.Forall₂ p.Merged entries groups)
    (apart : (entries.map (·.1)).Pairwise fun keys others => Json.sameItems keys others = false) :
    groups.Pairwise fun group other => ∀ a ∈ group, ∀ b ∈ other,
      Json.sameItems (p.keysOf a) (p.keysOf b) = false := by
  induction merged with
  | nil => exact .nil
  | @cons entry group entries groups first rest ih =>
      rw [List.map_cons,List.pairwise_cons] at apart
      refine List.pairwise_cons.mpr ⟨fun other listed a left b right => ?_,ih apart.2⟩
      obtain ⟨found,member,holds⟩ := Expr.related_source rest listed
      by_contra joined
      have through := first.keyed left (by simpa using joined)
      rw [Json.sameItems_comm] at through
      have reached := holds.keyed right through
      rw [Json.sameItems_comm,apart.1 _ (List.mem_map_of_mem member)] at reached
      cases reached

theorem Gathered.groups {entries : List (List Json × Row)} {groups : List (List Row)}
    (gathered : p.Gathered rows entries groups) : p.Groups rows groups := by
  refine ⟨gathered.whole,gathered.ordered,fun group listed => ?_,fun group listed => ?_,
    groups_apart gathered.merged gathered.apart⟩
  · obtain ⟨entry,-,first,rest,rfl,-⟩ := Expr.related_source gathered.merged listed
    exact List.cons_ne_nil _ _
  · obtain ⟨entry,-,merged⟩ := Expr.related_source gathered.merged listed
    exact merged.alike

theorem mergeRow_column {m : Merge} {name : String} (distinct : (p.merges.map (·.1)).Nodup)
    (listed : (name,m) ∈ p.merges) (first : Row) (rest : List Row) :
    (rest.foldl p.mergeRow first).get? name
      = (rest.map (·.get? name)).foldl (fun cell other => mergedCell m other cell)
        (first.get? name) := by
  induction rest generalizing first with
  | nil => rfl
  | cons row rest ih =>
      obtain ⟨own,-⟩ := fold_columns (mergeColumn_acts row) distinct first
      rw [List.foldl_cons,ih,List.map_cons,List.foldl_cons]
      congr 1
      exact own _ listed

theorem lookedUp_number (table : Table String) (json : Json) : (lookedUp table json).number? = none := by
  cases json with
  | str text => cases found : table.get? text <;> simp [lookedUp,found,Json.number?]
  | _ => rfl

theorem lookUps_finite {name : String} (keys : List Sql.ClientKey) {row : Row}
    (finite : FiniteCell (row.get? name)) : FiniteCell ((keys.foldl lookUp row).get? name) := by
  induction keys generalizing row with
  | nil => exact finite
  | cons key keys ih =>
      refine ih ?_
      rw [lookUp_acts]
      split
      · intro x number
        rw [Option.bind_some,lookedUp_number] at number
        cases number
      · exact finite

end PostProcess

theorem fold_distinct {dataset : Dataset} {e : Expr} {folded : FoldedQuery}
    (ran : fold dataset e = .ok folded) : (folded.applies.map (·.name)).Nodup := by
  have chained (chain : e.isDatasetOp = true) : (folded.applies.map (·.name)).Nodup := by
    obtain ⟨definitions,-,settled⟩ := fold_lastDefined ran chain
    rw [settled]
    exact settle_distinct definitions
  rcases fold_cases ran with ⟨-,single⟩ | ⟨chain,-⟩ | ⟨chain,-⟩
  · obtain ⟨_,_,_,rfl⟩ := Fold.value_parts single
    exact List.nodup_singleton _
  · exact chained chain
  · exact chained chain

theorem planLevel_merges {dataset : Dataset} {e : Expr} {level : Level} {folded : FoldedQuery}
    (planned : planLevel dataset e = .ok level) (folds : fold dataset e = .ok folded)
    (client : level.post.clientKeys ≠ []) :
    (level.post.merges.map (·.1)).Nodup ∧ ∀ a ∈ folded.applies, ∃ m,
      Sql.Planner.merge a.expression = .ok m ∧ (a.name,m) ∈ level.post.merges := by
  have once := fold_distinct folds
  obtain ⟨found,same,rest⟩ := Compiled.bind_ok.mp planned
  rw [folds] at same
  cases same
  dsimp only at rest
  split at rest
  · obtain ⟨⟨query,post⟩,made,rest⟩ := Compiled.bind_ok.mp rest
    cases Compiled.pure_ok.mp rest
    unfold planQuery at made
    split at made
    · obtain ⟨plan,-,made⟩ := Compiled.bind_ok.mp made
      cases Compiled.pure_ok.mp made
      exact absurd rfl client
    · obtain ⟨plan,ran,made⟩ := Compiled.bind_ok.mp made
      cases Compiled.pure_ok.mp made
      unfold Sql.plan at ran
      split at ran
      · cases ran
      · obtain ⟨select,-,-,alone | ⟨keys,-,shared⟩⟩ := Sql.Planner.plan_cases ran
        · exact absurd alone.clientKeys client
        · obtain ⟨names,listed⟩ := shared.listed once
          exact ⟨names.nodup_iff.mpr once,listed⟩
  · cases Compiled.pure_ok.mp rest
    exact absurd rfl client

-- Of every group of rows that the client puts together under looked-up keys the least or greatest value
-- is reported if and only if merging takes the kinds of the values at hand. It does take numbers and
-- nulls; without any number the value of the first row stands.
theorem regrouped_extreme_iff {dataset : Dataset} {e : Expr} {level : Level} {folded : FoldedQuery}
    (planned : planLevel dataset e = .ok level) (folds : fold dataset e = .ok folded)
    (client : level.post.clientKeys ≠ []) {a : Apply} (asked : a ∈ folded.applies) {m : Merge}
    (rule : Sql.Planner.merge a.expression = .ok m) (extreme : m ≠ .sum) {rows : List Row}
    (finite : ∀ row ∈ rows, FiniteCell (row.get? a.name)) :
    ∃ groups, level.post.Groups (rows.map (level.post.clientKeys.foldl PostProcess.lookUp)) groups ∧
      List.Forall₂ (fun row group =>
        (m.Extreme (group.map (·.get? a.name)) (row.get? a.name) ↔
          m.Takes (group.map (·.get? a.name))) ∧
        ((∀ member ∈ group, Known (member.get? a.name) → IsNumber (member.get? a.name)) →
          m.Extreme (group.map (·.get? a.name)) (row.get? a.name)) ∧
        ((∀ member ∈ group, ¬ IsNumber (member.get? a.name)) →
          row.get? a.name = group.head?.bind (·.get? a.name)))
        (level.post.regroup rows) groups := by
  obtain ⟨distinct,rules⟩ := planLevel_merges planned folds client
  obtain ⟨other,same,listed⟩ := rules a asked
  rw [rule] at same
  cases same
  obtain ⟨groups,gathered⟩ := level.post.regroup_gathered
    (rows.map (level.post.clientKeys.foldl PostProcess.lookUp))
  refine ⟨groups,gathered.groups,List.forall₂_map_left_iff.mpr ?_⟩
  refine (Expr.forall_related gathered.merged.flip fun group inside entry merged => ?_).flip
  obtain ⟨first,rest,rfl,rfl,-⟩ := merged
  have column : first.get? a.name :: rest.map (·.get? a.name)
      = (first :: rest).map (·.get? a.name) := rfl
  have cells : ∀ cell ∈ first.get? a.name :: rest.map (·.get? a.name), FiniteCell cell := by
    rw [column]
    refine List.forall_mem_map.mpr fun member listed => ?_
    obtain ⟨row,known,rfl⟩ := List.mem_map.mp ((gathered.ordered _ inside).subset listed)
    exact PostProcess.lookUps_finite _ (finite row known)
  have exactly := Merge.extreme_takes extreme cells
  obtain ⟨-,value,kept⟩ := Merge.merged_column extreme cells
  rw [← PostProcess.mergeRow_column distinct listed] at exactly value kept
  refine ⟨exactly,fun numbers => exactly.mpr (Merge.takes_numbers ?_),fun numberless => kept ?_⟩
  · rw [column]
    exact List.forall_mem_map.mpr numbers
  · rw [value,Merge.extremeValue_none,List.filterMap_eq_nil_iff,column,List.forall_mem_map]
    intro member shown
    by_contra some
    obtain ⟨q,is⟩ := Option.ne_none_iff_exists'.mp some
    exact numberless member shown (value_number is)

namespace Deliveries

def deliveries : Dataset :=
  { engine := .postgres,source := "deliveries",timeAttribute := some "time"
    allowClientSideSplits := true
    attributes := [{ name := "time",type := .time },{ name := "code",type := .string },
      { name := "price",type := .number }]
    lookups := [("names",[("a","Apple"),("p","Apple")])] }

def byName : Expr :=
  .split (.ref "data") [("Name",.lookup (.ref "code") "names")] "data"

def top : Expr := .apply byName "Top" (.max (.ref "data") (.ref "price"))

def earliest : Expr := .apply byName "First" (.min (.ref "data") (.ref "time"))

def delivery (code column : String) (cell : Json) : Row :=
  [("Name",.str code),(column,cell)]

def priced : List Row :=
  [delivery "a" "Top" (.int 3),delivery "p" "Top" .null,delivery "p" "Top" (.int 5)]

def clientKeys : List Sql.ClientKey :=
  [{ name := "Name",lookup := [("a","Apple"),("p","Apple")] }]

theorem leaves {e : Expr} {name : String} {m : Merge}
    (plans : (planLevel deliveries e).toOption.map (·.post.clientKeys) = some clientKeys)
    (merges : (fold deliveries e).toOption.map (fun folded => folded.applies.map fun a =>
      (a.name,(Sql.Planner.merge a.expression).toOption)) = some [(name,some m)]) :
    ∃ level folded a, planLevel deliveries e = .ok level ∧ fold deliveries e = .ok folded ∧
      level.post.clientKeys = clientKeys ∧ a ∈ folded.applies ∧
      Sql.Planner.merge a.expression = .ok m ∧ a.name = name := by
  obtain ⟨level,planned,client⟩ := Option.map_eq_some_iff.mp plans
  obtain ⟨folded,folds,applies⟩ := Option.map_eq_some_iff.mp merges
  obtain ⟨a,only,same⟩ := List.map_eq_singleton_iff.mp applies
  obtain ⟨named,rule⟩ := Prod.mk.inj same
  exact ⟨level,folded,a,toOption_ok.mp planned,toOption_ok.mp folds,client,
    only ▸ List.mem_singleton_self a,toOption_ok.mp rule,named⟩

theorem top_of_apples : ∃ level folded a, planLevel deliveries top = .ok level ∧
    fold deliveries top = .ok folded ∧ level.post.clientKeys = clientKeys ∧ a ∈ folded.applies ∧
    Sql.Planner.merge a.expression = .ok .max ∧ a.name = "Top" ∧
    (∀ row ∈ priced, FiniteCell (row.get? "Top")) ∧
    ∃ groups, level.post.Groups (priced.map (clientKeys.foldl PostProcess.lookUp)) groups ∧
      List.Forall₂ (fun (row : Row) (group : List Row) =>
        Merge.max.Extreme (group.map (·.get? "Top")) (row.get? "Top"))
        (level.post.regroup priced) groups := by
  obtain ⟨level,folded,a,planned,folds,client,asked,rule,name⟩ :=
    @leaves top "Top" .max (by decide +kernel) (by decide +kernel)
  have finite : ∀ row ∈ priced, FiniteCell (row.get? "Top") := by
    rw [priced,List.forall_mem_cons,List.forall_mem_cons,List.forall_mem_singleton]
    have three : cellValue ((delivery "a" "Top" (.int 3)).get? "Top") = some 3 := by decide +kernel
    have five : cellValue ((delivery "p" "Top" (.int 5)).get? "Top") = some 5 := by decide +kernel
    exact ⟨value_finite three,nofun,value_finite five⟩
  have numbers : ∀ row ∈ priced.map (clientKeys.foldl PostProcess.lookUp),
      Known (row.get? "Top") → IsNumber (row.get? "Top") := by decide +kernel
  have looksUp : level.post.clientKeys ≠ [] := by
    rw [client]
    exact List.cons_ne_nil _ _
  have cells : ∀ row ∈ priced, FiniteCell (row.get? a.name) := by rwa [name]
  obtain ⟨groups,gathered,each⟩ := regrouped_extreme_iff planned folds looksUp asked rule nofun cells
  rw [name] at each
  rw [client] at gathered
  refine ⟨level,folded,a,planned,folds,client,asked,rule,name,finite,groups,gathered,?_⟩
  refine (Expr.forall_related each.flip fun group inside row holds => ?_).flip
  exact holds.2.1 fun member listed => numbers member ((gathered.ordered group inside).subset listed)

def timed : List Row :=
  [delivery "a" "First" (.str "2015-03-16T00:00:00.000Z"),
    delivery "p" "First" (.str "2015-03-12T00:00:00.000Z")]

-- Timestamps are texts: the first one stands, though the other one is earlier.
theorem first_delivery_lost : ∃ level folded a row, planLevel deliveries earliest = .ok level ∧
    fold deliveries earliest = .ok folded ∧ a ∈ folded.applies ∧
    Sql.Planner.merge a.expression = .ok .min ∧ a.name = "First" ∧
    level.post.regroup timed = [row] ∧
    row.get? "First" = some (.str "2015-03-16T00:00:00.000Z") ∧
    ¬ Merge.min.Extreme (timed.map (·.get? "First")) (row.get? "First") := by
  have ran : (planLevel deliveries earliest).toOption.map (fun level =>
      (level.post.regroup timed).map (fun row => (row.get? "First").bind Json.str?))
      = some [some "2015-03-16T00:00:00.000Z"] := by decide +kernel
  obtain ⟨level,folded,a,planned,folds,-,asked,rule,name⟩ :=
    @leaves earliest "First" .min (by decide +kernel) (by decide +kernel)
  rw [planned] at ran
  have reported := Option.some.inj ran
  obtain ⟨row,only,shown⟩ := List.map_eq_singleton_iff.mp reported
  have cell : row.get? "First" = some (.str "2015-03-16T00:00:00.000Z") := by
    rcases found : row.get? "First" with _ | (_ | _ | _ | _ | text | _ | _) <;> rw [found] at shown <;>
      cases shown
    rfl
  have later : compareColumns (some (.str "2015-03-16T00:00:00.000Z"))
      (some (.str "2015-03-12T00:00:00.000Z")) = .gt := by decide +kernel
  refine ⟨level,folded,a,row,planned,folds,asked,rule,name,only,cell,?_⟩
  intro holds
  rw [cell] at holds
  exact (holds.bound _ (List.mem_cons_of_mem _ (List.mem_singleton_self _)) (by decide)).2 later

end Deliveries

end OlapQuery
