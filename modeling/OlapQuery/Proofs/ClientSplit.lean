import Mathlib.Algebra.BigOperators.Group.List.Basic
import Mathlib.Data.List.Flatten
import Mathlib.Data.List.ReduceOption
import Mathlib.Tactic.IntervalCases
import OlapQuery.Proofs.ClosedQueries
import OlapQuery.Proofs.ExactNumbers
import OlapQuery.Proofs.Statements
import OlapQuery.Proofs.Tables

-- Splits by looked-up keys that are left to the client. The engine groups by the columns below
-- the lookups; the client looks the keys up and merges the rows that then have the same. What
-- it is left with is what grouping by the looked-up keys gives at once.

namespace OlapQuery

open Decimal (value?)
open Sql (Merge ClientKey)

section Sameness

namespace Json

mutual
theorem same_comm (a b : Json) : a.same b = b.same a := by
  cases a with
  | null => cases b <;> rfl
  | bool x => cases b <;> first | rfl | exact BEq.comm
  | int x => cases b <;> first | rfl | exact BEq.comm
  | float x => cases b <;> first | rfl | exact float_same_comm _ _
  | str x => cases b <;> first | rfl | exact BEq.comm
  | arr as =>
      cases b with
      | arr bs => exact sameItems_comm as bs
      | _ => rfl
  | obj as =>
      cases b with
      | obj bs => exact sameFields_comm as bs
      | _ => rfl

theorem sameItems_comm (as bs : List Json) : sameItems as bs = sameItems bs as := by
  cases as with
  | nil => cases bs <;> rfl
  | cons a as =>
      cases bs with
      | nil => rfl
      | cons b bs => rw [sameItems,sameItems,same_comm a b,sameItems_comm as bs]

theorem sameFields_comm (as bs : List (String × Json)) : sameFields as bs = sameFields bs as := by
  cases as with
  | nil => cases bs <;> rfl
  | cons a as =>
      cases bs with
      | nil => obtain ⟨k,a⟩ := a; rfl
      | cons b bs =>
          obtain ⟨k,a⟩ := a
          obtain ⟨l,b⟩ := b
          have names : (k == l) = (l == k) := BEq.comm
          rw [sameFields,sameFields,same_comm a b,sameFields_comm as bs,names]
end

mutual
theorem same_trans (a : Json) :
    ∀ {b c : Json}, a.same b = true → b.same c = true → a.same c = true := by
  intro b c first second
  cases a with
  | null => cases b <;> cases first; exact second
  | bool x => cases b <;> cases c <;> simp_all [same]
  | int x => cases b <;> cases c <;> simp_all [same]
  | float x =>
      cases b with
      | float y =>
          cases c with
          | float z => exact float_same_trans first second
          | _ => cases second
      | _ => cases first
  | str x => cases b <;> cases c <;> simp_all [same]
  | arr as =>
      cases b with
      | arr bs =>
          cases c with
          | arr cs => exact sameItems_trans as first second
          | _ => cases second
      | _ => cases first
  | obj as =>
      cases b with
      | obj bs =>
          cases c with
          | obj cs => exact sameFields_trans as first second
          | _ => cases second
      | _ => cases first
termination_by structural a

theorem sameItems_trans (as : List Json) : ∀ {bs cs : List Json},
    sameItems as bs = true → sameItems bs cs = true → sameItems as cs = true := by
  intro bs cs first second
  cases as with
  | nil => cases bs <;> cases first; exact second
  | cons a as =>
      cases bs with
      | nil => cases first
      | cons b bs =>
          cases cs with
          | nil => cases second
          | cons c cs =>
              simp only [sameItems,Bool.and_eq_true] at first second ⊢
              exact ⟨same_trans a first.1 second.1,sameItems_trans as first.2 second.2⟩
termination_by structural as

theorem sameFields_trans (as : List (String × Json)) : ∀ {bs cs : List (String × Json)},
    sameFields as bs = true → sameFields bs cs = true → sameFields as cs = true := by
  intro bs cs first second
  cases as with
  | nil => cases bs <;> cases first; exact second
  | cons a as =>
      cases bs with
      | nil => obtain ⟨k,a⟩ := a; cases first
      | cons b bs =>
          cases cs with
          | nil => obtain ⟨l,b⟩ := b; cases second
          | cons c cs =>
              obtain ⟨k,a⟩ := a
              obtain ⟨l,b⟩ := b
              obtain ⟨m,c⟩ := c
              simp only [sameFields,Bool.and_eq_true,beq_iff_eq] at first second ⊢
              exact ⟨⟨first.1.1.trans second.1.1,same_trans a first.1.2 second.1.2⟩,
                sameFields_trans as first.2 second.2⟩
termination_by structural as
end

theorem sameItems_map {keys : List α} {f g : α → Json} :
    sameItems (keys.map f) (keys.map g) = true ↔ ∀ key ∈ keys, (f key).same (g key) = true := by
  induction keys with
  | nil => simp [sameItems]
  | cons key keys ih => simp [sameItems,ih]

end Json

end Sameness

section Totals

-- What an aggregate comes to over a list of amounts, of which some may be missing.
def Expr.total (e : Expr) (amounts : List (Option ℚ)) : Option ℚ :=
  let known := amounts.reduceOption
  match e with
  | .count _ => some known.length
  | .sum _ _ => if known.isEmpty then none else some known.sum
  | .min _ _ => known.min?
  | .max _ _ => known.max?
  | _ => none

namespace Sql.Merge

def exactly : Merge → ℚ → ℚ → ℚ
  | .sum,a,b => a + b
  | .min,a,b => Min.min a b
  | .max,a,b => Max.max a b

def combined (m : Merge) : Option ℚ → Option ℚ → Option ℚ
  | some a,some b => some (m.exactly a b)
  | some a,none => some a
  | none,b => b

theorem apply_value {m : Merge} {x y : Float} {q r : ℚ} (left : value? x = some q)
    (right : value? y = some r) (representable : m = .sum → ∃ z, value? z = some (q + r)) :
    value? (m.apply x y) = some (m.exactly q r) := by
  cases m with
  | sum =>
      obtain ⟨z,is⟩ := representable rfl
      exact Decimal.add_exact left right is
  | min =>
      change value? (if y < x then y else x) = some (Min.min q r)
      simp only [Decimal.lt_value right left]
      by_cases order : r < q
      · rw [if_pos order,min_eq_right order.le,right]
      · rw [if_neg order,min_eq_left (le_of_not_gt order),left]
  | max =>
      change value? (if x < y then y else x) = some (Max.max q r)
      simp only [Decimal.lt_value left right]
      by_cases order : q < r
      · rw [if_pos order,max_eq_right order.le,right]
      · rw [if_neg order,max_eq_left (le_of_not_gt order),left]

end Sql.Merge

theorem min_append (as bs : List ℚ) :
    (as ++ bs).min? = Merge.min.combined as.min? bs.min? := by
  induction as with
  | nil => simp [Merge.combined]
  | cons a as ih =>
      rw [List.cons_append,List.min?_cons,List.min?_cons,ih]
      cases as.min? <;> cases bs.min? <;> simp [Merge.combined,Merge.exactly,min_assoc]

theorem max_append (as bs : List ℚ) :
    (as ++ bs).max? = Merge.max.combined as.max? bs.max? := by
  induction as with
  | nil => simp [Merge.combined]
  | cons a as ih =>
      rw [List.cons_append,List.max?_cons,List.max?_cons,ih]
      cases as.max? <;> cases bs.max? <;> simp [Merge.combined,Merge.exactly,max_assoc]

theorem total_append {e : Expr} {m : Merge} (rule : Sql.Planner.merge e = .ok m)
    (as bs : List (Option ℚ)) : e.total (as ++ bs) = m.combined (e.total as) (e.total bs) := by
  unfold Sql.Planner.merge at rule
  split at rule <;> cases rule
  · simp [Expr.total,List.reduceOption_append,Merge.combined,Merge.exactly]
  · simp only [Expr.total,List.reduceOption_append]
    cases as.reduceOption <;> cases bs.reduceOption <;>
      simp [Merge.combined,Merge.exactly,add_assoc]
  · simp only [Expr.total,List.reduceOption_append,min_append]
  · simp only [Expr.total,List.reduceOption_append,max_append]

-- A column that holds a total; a missing one is null.
def Shows (cell : Option Json) : Option ℚ → Prop
  | none => cell = some .null
  | some q => (cell.bind Json.number?).bind value? = some q

def mergedCell (m : Merge) (other cell : Option Json) : Option Json :=
  match m.applyOptional (cell.bind Json.number?) (other.bind Json.number?) with
  | some merged => some (Json.ofNumber merged)
  | none => cell

theorem shows_merged {m : Merge} {cell other : Option Json} {t u : Option ℚ}
    (first : Shows cell t) (second : Shows other u)
    (representable : m = .sum → ∀ q r, t = some q → u = some r → ∃ z, value? z = some (q + r)) :
    Shows (mergedCell m other cell) (m.combined t u) := by
  unfold mergedCell
  cases t with
  | none =>
      cases first
      cases u with
      | none => cases second; rfl
      | some r =>
          obtain ⟨y,number,value⟩ := Option.bind_eq_some_iff.mp second
          rw [number]
          exact Decimal.number_ofNumber value
  | some q =>
      obtain ⟨x,number,value⟩ := Option.bind_eq_some_iff.mp first
      rw [number]
      cases u with
      | none =>
          cases second
          exact Decimal.number_ofNumber value
      | some r =>
          obtain ⟨y,other,value'⟩ := Option.bind_eq_some_iff.mp second
          rw [other]
          exact Decimal.number_ofNumber
            (Merge.apply_value value value' fun sum => representable sum q r rfl rfl)

end Totals

section Columns

theorem fold_columns {step : Row → ι → Row} {name : ι → String}
    {cell : ι → Option Json → Option Json}
    (acts : ∀ row op other, (step row op).get? other =
      if other = name op then cell op (row.get? other) else row.get? other)
    {ops : List ι} (distinct : (ops.map name).Nodup) (row : Row) :
    (∀ op ∈ ops, (ops.foldl step row).get? (name op) = cell op (row.get? (name op))) ∧
      ∀ other, other ∉ ops.map name → (ops.foldl step row).get? other = row.get? other := by
  induction ops generalizing row with
  | nil => exact ⟨fun _ none => (nomatch none),fun _ _ => rfl⟩
  | cons op ops ih =>
      obtain ⟨fresh,distinct⟩ := List.nodup_cons.mp distinct
      obtain ⟨own,others⟩ := ih distinct (step row op)
      constructor
      · intro member listed
        rcases List.mem_cons.mp listed with rfl | later
        · rw [List.foldl_cons,others _ fresh,acts,if_pos rfl]
        · have different : name member ≠ name op := by
            intro same
            exact fresh (same ▸ List.mem_map_of_mem later)
          rw [List.foldl_cons,own member later,acts,if_neg different]
      · intro other outside
        simp only [List.map_cons,List.mem_cons,not_or] at outside
        rw [List.foldl_cons,others other outside.2,acts,if_neg outside.1]

def lookedUp (table : Table String) : Json → Json
  | .str text => ((table.get? text).map Json.str).getD .null
  | _ => .null

theorem lookedUp_same {a b : Json} (table : Table String) (same : a.same b = true) :
    (lookedUp table a).same (lookedUp table b) = true := by
  cases a <;> cases b <;> first | rfl | cases same | skip
  rename_i text other
  obtain rfl : text = other := by simpa [Json.same] using same
  unfold lookedUp
  cases found : table.get? text <;> simp [found,Json.same]

theorem lookUp_acts (row : Row) (key : ClientKey) (other : String) :
    (PostProcess.lookUp row key).get? other = if other = key.name
      then some (lookedUp key.lookup ((row.get? other).getD .null)) else row.get? other := by
  unfold PostProcess.lookUp
  rw [Table.get_insert]
  by_cases own : other = key.name
  · subst own
    rw [if_pos rfl,if_pos rfl]
    rcases row.get? key.name with _ | (_ | _ | _ | _ | _ | _ | _) <;> rfl
  · rw [if_neg own,if_neg own]

theorem mergeColumn_acts (source row : Row) (column : String × Merge) (other : String) :
    (PostProcess.mergeColumn source row column).get? other = if other = column.1
      then mergedCell column.2 (source.get? column.1) (row.get? other) else row.get? other := by
  unfold PostProcess.mergeColumn mergedCell
  dsimp only
  by_cases own : other = column.1
  · subst own
    rw [if_pos rfl]
    cases column.2.applyOptional ((row.get? column.1).bind Json.number?)
        ((source.get? column.1).bind Json.number?) with
    | some merged => exact (Table.get_insert _ _ _ _).trans (if_pos rfl)
    | none => rfl
  · rw [if_neg own]
    split
    · rw [Table.get_insert,if_neg own]
    · rfl

end Columns

section Groups

structure Grouping (tuple : Row → List Json) (table : List Row) (groups : List (List Row)) :
    Prop where
  whole : groups.flatten.Perm table
  occupied : ∀ group ∈ groups, group ≠ []
  alike : ∀ group ∈ groups, ∀ a ∈ group, ∀ b ∈ group, Json.sameItems (tuple a) (tuple b) = true
  apart : groups.Pairwise fun g h =>
    ∀ a ∈ g, ∀ b ∈ h, Json.sameItems (tuple a) (tuple b) = false

variable {keys : List (String × Expr)} {applies : List Apply} {value : String × Expr → Row → Json}
  {amount : Expr → Row → Option ℚ} {p : PostProcess}

def tuple (keys : List (String × Expr)) (value : String × Expr → Row → Json) (row : Row) :
    List Json :=
  keys.map fun key => value key row

-- A row of the answer for a group of the table's rows.
structure Reports (keys : List (String × Expr)) (applies : List Apply)
    (value : String × Expr → Row → Json) (amount : Expr → Row → Option ℚ)
    (row : Row) (group : List Row) : Prop where
  keys : ∀ key ∈ keys, ∀ member ∈ group,
    ((row.get? key.1).getD .null).same (value key member) = true
  totals : ∀ a ∈ applies,
    Shows (row.get? a.name) (a.expression.total (group.map (amount a.expression)))

structure Rules (p : PostProcess) (keys : List (String × Expr)) (applies : List Apply) : Prop where
  splitKeys : p.splitKeys = keys.map (·.1)
  distinct : (p.merges.map (·.1)).Nodup
  listed : ∀ a ∈ applies, ∃ m, Sql.Planner.merge a.expression = .ok m ∧ (a.name,m) ∈ p.merges
  apart : ∀ key ∈ keys, key.1 ∉ p.merges.map (·.1)

-- The sums of the rows of a table, some or all of them, are numbers of doubles.
def ExactSums (applies : List Apply) (amount : Expr → Row → Option ℚ) (table : List Row) : Prop :=
  ∀ a ∈ applies, Sql.Planner.merge a.expression = .ok .sum → ∀ part : List Row, part.Subperm table →
    ∀ q, a.expression.total (part.map (amount a.expression)) = some q → ∃ x, value? x = some q

theorem keysOf_map (rules : Rules p keys applies) (row : Row) :
    p.keysOf row = keys.map fun key => (row.get? key.1).getD .null := by
  rw [PostProcess.keysOf,rules.splitKeys,List.map_map]
  rfl

theorem keysOf_reports (rules : Rules p keys applies) {row : Row} {group : List Row}
    (reports : Reports keys applies value amount row group) {member : Row}
    (listed : member ∈ group) : Json.sameItems (p.keysOf row) (tuple keys value member) = true := by
  rw [keysOf_map rules]
  exact Json.sameItems_map.mpr fun key known => reports.keys key known member listed

theorem keysOf_merged (rules : Rules p keys applies) (row other : Row) :
    p.keysOf (p.mergeRow row other) = p.keysOf row := by
  obtain ⟨-,outside⟩ := fold_columns (mergeColumn_acts other) rules.distinct row
  rw [keysOf_map rules,keysOf_map rules]
  apply List.map_congr_left
  intro key known
  rw [PostProcess.mergeRow,outside key.1 (rules.apart key known)]

theorem merged_reports (rules : Rules p keys applies) {row other : Row} {group added : List Row}
    (first : Reports keys applies value amount row group)
    (second : Reports keys applies value amount other added)
    (same : Json.sameItems (p.keysOf row) (p.keysOf other) = true)
    (sums : ExactSums applies amount (group ++ added)) :
    Reports keys applies value amount (p.mergeRow row other) (group ++ added) := by
  obtain ⟨own,outside⟩ := fold_columns (mergeColumn_acts other) rules.distinct row
  constructor
  · intro key known member listed
    rw [PostProcess.mergeRow,outside key.1 (rules.apart key known)]
    rcases List.mem_append.mp listed with early | late
    · exact first.keys key known member early
    · rw [keysOf_map rules,keysOf_map rules] at same
      exact Json.same_trans _ (Json.sameItems_map.mp same key known)
        (second.keys key known member late)
  · intro a asked
    obtain ⟨m,rule,listed⟩ := rules.listed a asked
    have column := own _ listed
    change (p.mergeRow row other).get? a.name = _ at column
    rw [column,List.map_append,total_append rule]
    refine shows_merged (first.totals a asked) (second.totals a asked) ?_
    rintro rfl q r left right
    refine sums a asked rule _ (List.Subperm.refl _) (q + r) ?_
    rw [List.map_append,total_append rule,left,right]
    rfl

theorem addToGroups_cases (p : PostProcess) (row : Row) (groups : List (List Json × Row)) :
    ((∀ entry ∈ groups, Json.sameItems entry.1 (p.keysOf row) = false) ∧
        p.addToGroups row groups = groups ++ [(p.keysOf row,row)]) ∨
      ∃ before keys merged after, groups = before ++ (keys,merged) :: after ∧
        Json.sameItems keys (p.keysOf row) = true ∧
        p.addToGroups row groups = before ++ (keys,p.mergeRow merged row) :: after := by
  induction groups with
  | nil => exact .inl ⟨fun _ none => (nomatch none),rfl⟩
  | cons entry rest ih =>
      obtain ⟨keys,merged⟩ := entry
      unfold PostProcess.addToGroups
      by_cases same : Json.sameItems keys (p.keysOf row) = true
      · rw [if_pos same]
        exact .inr ⟨[],keys,merged,rest,rfl,same,rfl⟩
      · rw [if_neg same]
        rcases ih with ⟨none,added⟩ | ⟨before,others,found,after,rfl,match',merges⟩
        · refine .inl ⟨?_,by rw [added]; rfl⟩
          intro entry listed
          rcases List.mem_cons.mp listed with rfl | later
          · simpa using same
          · exact none entry later
        · exact .inr ⟨(keys,merged) :: before,others,found,after,rfl,match',by rw [merges]; rfl⟩

-- A group of the loop, and the rows of the table that were merged into it.
structure Entry (p : PostProcess) (keys : List (String × Expr)) (applies : List Apply)
    (value : String × Expr → Row → Json) (amount : Expr → Row → Option ℚ)
    (entry : List Json × Row) (group : List Row) : Prop where
  keyed : entry.1 = p.keysOf entry.2
  occupied : group ≠ []
  reports : Reports keys applies value amount entry.2 group

def Apart (keys : List (String × Expr)) (value : String × Expr → Row → Json)
    (g h : List Row) : Prop :=
  ∀ a ∈ g, ∀ b ∈ h, Json.sameItems (tuple keys value a) (tuple keys value b) = false

theorem Apart.symm {g h : List Row} (apart : Apart keys value g h) : Apart keys value h g := by
  intro a first b second
  rw [Json.sameItems_comm]
  exact apart b second a first

theorem Apart.extend {g h added : List Row} (apart : Apart keys value g h)
    (alike : ∀ b ∈ added, ∃ c ∈ h,
      Json.sameItems (tuple keys value b) (tuple keys value c) = true) :
    Apart keys value g (h ++ added) := by
  intro a first b second
  rcases List.mem_append.mp second with early | late
  · exact apart a first b early
  · obtain ⟨c,listed,same⟩ := alike b late
    by_contra joined
    have through := Json.sameItems_trans _ (by simpa using joined) same
    rw [apart a first c listed] at through
    cases through

theorem forall_middle {related : α → β → Prop} {before after : List α} {a : α} {bs : List β}
    (each : List.Forall₂ related (before ++ a :: after) bs) :
    ∃ early b late, bs = early ++ b :: late ∧ List.Forall₂ related before early ∧ related a b ∧
      List.Forall₂ related after late := by
  induction before generalizing bs with
  | nil =>
      cases each with
      | cons first rest => exact ⟨[],_,_,rfl,.nil,first,rest⟩
  | cons x before ih =>
      cases each with
      | @cons _ y _ ys first rest =>
          obtain ⟨early,b,late,rfl,prior,holds,later⟩ := ih rest
          exact ⟨y :: early,b,late,rfl,.cons first prior,holds,later⟩

theorem addToGroups_entries (rules : Rules p keys applies) {row : Row} {added : List Row}
    (occupied : added ≠ []) (reports : Reports keys applies value amount row added)
    {groups : List (List Json × Row)} {direct : List (List Row)}
    (entries : List.Forall₂ (Entry p keys applies value amount) groups direct)
    (apart : direct.Pairwise (Apart keys value))
    (sums : ∀ group ∈ direct, ExactSums applies amount (group ++ added)) :
    ∃ next, List.Forall₂ (Entry p keys applies value amount) (p.addToGroups row groups) next ∧
      next.Pairwise (Apart keys value) ∧ next.flatten.Perm (direct.flatten ++ added) := by
  rcases addToGroups_cases p row groups with
    ⟨new,result⟩ | ⟨before,found,merged,after,rfl,same,result⟩
  · refine ⟨direct ++ [added],?_,?_,by simp⟩
    · rw [result]
      exact List.rel_append entries (.cons ⟨rfl,occupied,reports⟩ .nil)
    · refine List.pairwise_append.mpr ⟨apart,List.pairwise_singleton _ _,?_⟩
      intro group listed _ last a first b second
      cases List.mem_singleton.mp last
      obtain ⟨entry,member,holds⟩ := Expr.related_source entries listed
      by_contra joined
      have left := keysOf_reports rules holds.reports first
      have right := keysOf_reports rules reports second
      rw [Json.sameItems_comm] at right
      have through := Json.sameItems_trans _ left
        (Json.sameItems_trans _ (by simpa using joined) right)
      rw [← holds.keyed,new entry member] at through
      cases through
  · obtain ⟨early,group,late,rfl,prior,holds,later⟩ := forall_middle entries
    have equal : found = p.keysOf merged := holds.keyed
    subst equal
    have alike : ∀ b ∈ added, ∃ c ∈ group,
        Json.sameItems (tuple keys value b) (tuple keys value c) = true := by
      intro b second
      obtain ⟨c,listed⟩ := List.exists_mem_of_ne_nil group holds.occupied
      refine ⟨c,listed,?_⟩
      have left := keysOf_reports rules reports second
      rw [Json.sameItems_comm] at left same
      exact Json.sameItems_trans _ left
        (Json.sameItems_trans _ same (keysOf_reports rules holds.reports listed))
    refine ⟨early ++ (group ++ added) :: late,?_,?_,?_⟩
    · rw [result]
      refine List.rel_append prior (.cons ⟨(keysOf_merged rules merged row).symm,?_,?_⟩ later)
      · exact List.append_ne_nil_of_left_ne_nil holds.occupied added
      · exact merged_reports rules holds.reports reports same (sums group (by simp))
    · obtain ⟨first,second,cross⟩ := List.pairwise_append.mp apart
      obtain ⟨middle,second⟩ := List.pairwise_cons.mp second
      refine List.pairwise_append.mpr ⟨first,List.pairwise_cons.mpr ⟨?_,second⟩,?_⟩
      · intro h listed
        exact ((middle h listed).symm.extend alike).symm
      · intro g listed h member
        rcases List.mem_cons.mp member with rfl | others
        · exact (cross g listed group List.mem_cons_self).extend alike
        · exact cross g listed h (List.mem_cons_of_mem _ others)
    · simp only [List.flatten_append,List.flatten_cons,List.append_assoc]
      exact (List.perm_append_comm.append_left group).append_left early.flatten

theorem grouped_entries (rules : Rules p keys applies) {table : List Row} {rows : List Row}
    {groups : List (List Row)}
    (reports : List.Forall₂ (Reports keys applies value amount) rows groups)
    (occupied : ∀ group ∈ groups, group ≠ []) (sums : ExactSums applies amount table)
    {state : List (List Json × Row)} {direct : List (List Row)}
    (entries : List.Forall₂ (Entry p keys applies value amount) state direct)
    (apart : direct.Pairwise (Apart keys value))
    (whole : (direct.flatten ++ groups.flatten).Perm table) :
    ∃ last, List.Forall₂ (Entry p keys applies value amount)
        (rows.foldl (fun state row => p.addToGroups row state) state) last ∧
      last.Pairwise (Apart keys value) ∧ last.flatten.Perm table := by
  induction reports generalizing state direct with
  | nil => exact ⟨direct,entries,apart,by simpa using whole⟩
  | @cons row added rows groups first rest ih =>
      have part : ∀ group ∈ direct, (group ++ added).Subperm table := by
        intro group listed
        refine List.Subperm.trans (List.Sublist.subperm ?_) whole.subperm
        exact (List.sublist_flatten_of_mem listed).append
          (List.sublist_flatten_of_mem List.mem_cons_self)
      obtain ⟨next,entries,apart,joined⟩ := addToGroups_entries rules
        (occupied added List.mem_cons_self) first entries apart
        fun group listed a asked rule some inside => sums a asked rule some
          (inside.trans (part group listed))
      refine ih (fun group listed => occupied group (List.mem_cons_of_mem _ listed))
        entries apart ?_
      refine (joined.append_right _).trans ?_
      simpa using whole

end Groups

namespace Sql.Planner

-- What the engine groups a row of the table by, for a key.
def columnValue (p : Planner) (read : Expr → Row → Json) (key : String × Expr) (row : Row) : Json :=
  read (p.groupedKey key).2 row

-- The key of a row of the table, looked up where the key is a lookup.
def keyValue (p : Planner) (read : Expr → Row → Json) (key : String × Expr) (row : Row) : Json :=
  match p.clientLookup? key.2 with
  | some (column,table) => lookedUp table (read column row)
  | none => read key.2 row

theorem clientKey_name {p : Planner} {key : String × Expr} {found : ClientKey}
    (is : p.clientKey? key = some found) : found.name = key.1 := by
  obtain ⟨_,-,rfl⟩ := Option.map_eq_some_iff.mp is
  rfl

theorem clientKeys_names (p : Planner) (keys : List (String × Expr)) :
    ((keys.filterMap p.clientKey?).map (·.name)).Sublist (keys.map (·.1)) := by
  induction keys with
  | nil => exact .slnil
  | cons key keys ih =>
      rw [List.filterMap_cons]
      split
      · exact ih.cons _
      · rename_i found is
        rw [List.map_cons,List.map_cons,clientKey_name is]
        exact ih.cons_cons _

theorem lookUps_report {p : Planner} {keys : List (String × Expr)} {applies : List Apply}
    {read : Expr → Row → Json} {amount : Expr → Row → Option ℚ} {row : Row} {group : List Row}
    (distinct : (keys.map (·.1) ++ applies.map (·.name)).Nodup)
    (reports : Reports keys applies (p.columnValue read) amount row group) :
    Reports keys applies (p.keyValue read) amount
      ((keys.filterMap p.clientKey?).foldl PostProcess.lookUp row) group := by
  obtain ⟨names,-,apart⟩ := List.nodup_append.mp distinct
  have listed := p.clientKeys_names keys
  obtain ⟨own,outside⟩ := @fold_columns ClientKey PostProcess.lookUp (·.name)
    (fun key cell => some (lookedUp key.lookup (cell.getD .null))) lookUp_acts _
    (names.sublist listed) row
  constructor
  · intro key known member inside
    have column := reports.keys key known member inside
    unfold columnValue groupedKey at column
    unfold keyValue
    cases found : p.clientLookup? key.2 with
    | some entry =>
        obtain ⟨expression,table⟩ := entry
        have is : p.clientKey? key = some { name := key.1,lookup := table } := by
          rw [clientKey?,found]
          rfl
        have cell := own _ (List.mem_filterMap.mpr ⟨key,known,is⟩)
        rw [found] at column
        rw [cell]
        exact lookedUp_same table column
    | none =>
        have free : key.1 ∉ (keys.filterMap p.clientKey?).map (·.name) := by
          intro taken
          obtain ⟨clientKey,member,same⟩ := List.mem_map.mp taken
          obtain ⟨other,known',is⟩ := List.mem_filterMap.mp member
          obtain rfl : other = key := by
            refine List.inj_on_of_nodup_map names known' known ?_
            rw [← clientKey_name is,same]
          rw [clientKey?,found] at is
          cases is
        rw [found] at column
        rwa [outside key.1 free]
  · intro a asked
    rw [outside a.name ?_]
    · exact reports.totals a asked
    · intro taken
      exact apart _ (listed.subset taken) _ (List.mem_map_of_mem asked) rfl

theorem Shared.listed {p : Planner} {plan : Plan} {keys : List (String × Expr)} {select : Select}
    (shared : p.Shared plan keys select) (once : (p.folded.applies.map (·.name)).Nodup) :
    (plan.merges.map (·.1)).Perm (p.folded.applies.map (·.name)) ∧
      ∀ a ∈ p.folded.applies, ∃ m, merge a.expression = .ok m ∧ (a.name,m) ∈ plan.merges := by
  obtain ⟨rules,made,is⟩ := shared.merges
  have each : List.Forall₂ (fun a rule => rule.1 = a.name ∧
      merge a.expression = .ok rule.2) p.folded.applies rules := by
    refine (mapM_ok made).imp fun a rule found => ?_
    obtain ⟨m,merged,made⟩ := Compiled.bind_ok.mp found
    cases Compiled.pure_ok.mp made
    exact ⟨rfl,merged⟩
  have names : rules.map (·.1) = p.folded.applies.map (·.name) := by
    clear made is once
    generalize p.folded.applies = applies at each ⊢
    induction each with
    | nil => rfl
    | cons first rest ih => rw [List.map_cons,List.map_cons,first.1,ih]
  have listed : plan.merges.Perm rules := by
    rw [is]
    exact Table.ofList_perm (names ▸ once)
  refine ⟨names ▸ listed.map _,fun a asked => ?_⟩
  obtain ⟨rule,known,name,merged⟩ := Expr.related_source each.flip asked
  exact ⟨rule.2,merged,listed.mem_iff.mpr (name ▸ known)⟩

theorem shared_rules {p : Planner} {plan : Plan} {keys : List (String × Expr)} {select : Select}
    {post : PostProcess} (shared : p.Shared plan keys select)
    (distinct : (keys.map (·.1) ++ p.folded.applies.map (·.name)).Nodup)
    (splits : post.splitKeys = keys.map (·.1)) (merges : post.merges = plan.merges) :
    Rules post keys p.folded.applies := by
  obtain ⟨-,once,apart⟩ := List.nodup_append.mp distinct
  obtain ⟨names,listed⟩ := shared.listed once
  rw [← merges] at names listed
  refine ⟨splits,names.nodup_iff.mpr once,listed,fun key known taken => ?_⟩
  exact apart _ (List.mem_map_of_mem known) _ (names.mem_iff.mp taken) rfl

-- Splitting by the engine's columns and merging gives the groups of the looked-up keys, each
-- once and with its totals.
theorem client_split_direct {p : Planner} {plan : Plan} {post : PostProcess}
    {read : Expr → Row → Json} {amount : Expr → Row → Option ℚ} {table rows : List Row}
    {groups : List (List Row)} (ran : p.split = .ok plan) (left : plan.clientKeys ≠ [])
    (splits : post.splitKeys = p.folded.splitKeys.map (·.1))
    (looksUp : post.clientKeys = plan.clientKeys) (merges : post.merges = plan.merges)
    (distinct : (p.folded.splitKeys.map (·.1) ++ p.folded.applies.map (·.name)).Nodup)
    (grouping : Grouping (tuple p.folded.splitKeys (p.columnValue read)) table groups)
    (reports : List.Forall₂ (Reports p.folded.splitKeys p.folded.applies (p.columnValue read) amount)
      rows groups)
    (sums : ExactSums p.folded.applies amount table) :
    ∃ direct, Grouping (tuple p.folded.splitKeys (p.keyValue read)) table direct ∧
      List.Forall₂ (Reports p.folded.splitKeys p.folded.applies (p.keyValue read) amount)
        (post.regroup rows) direct := by
  cases keyed : p.folded.split with
  | none =>
      rw [split,keyed] at ran
      exact absurd ran Compiled.unsupported_ok
  | some s =>
      obtain ⟨select,-,-,alone | shared⟩ := split_cases keyed ran
      · exact absurd alone.clientKeys left
      have keysAre : p.folded.splitKeys = s.keys := by rw [FoldedQuery.splitKeys,keyed]
      rw [← keysAre] at shared
      have rules := shared_rules shared distinct splits merges
      have looked := List.forall₂_map_left_iff.mpr
        (reports.imp fun _ _ holds => lookUps_report distinct holds)
      rw [← shared.clientKeys,← looksUp] at looked
      obtain ⟨direct,entries,apart,whole⟩ := grouped_entries rules looked grouping.occupied sums
        .nil .nil (by simpa using grouping.whole)
      refine ⟨direct,⟨whole,?_,?_,apart⟩,?_⟩
      · intro group listed
        obtain ⟨entry,-,holds⟩ := Expr.related_source entries listed
        exact holds.occupied
      · intro group listed a first b second
        obtain ⟨entry,-,holds⟩ := Expr.related_source entries listed
        have left := keysOf_reports rules holds.reports first
        rw [Json.sameItems_comm] at left
        exact Json.sameItems_trans _ left (keysOf_reports rules holds.reports second)
      · exact List.forall₂_map_left_iff.mpr (entries.imp fun _ _ holds => holds.reports)

namespace ByName

def sales : Dataset :=
  { engine := .postgres,source := "sales",allowClientSideSplits := true
    attributes := [{ name := "code",type := .string },{ name := "price",type := .number }]
    lookups := [("names",[("a","Apple"),("p","Apple")])] }

def planner : Planner :=
  { renderer := { dialect := Family.postgres.dialect,dataset := sales }
    folded := {
      mode := .split,dataName := "data",filter := .bool true
      split := some { keys := [("Name",.lookup (.ref "code") "names")],dataName := "data" }
      applies := [{ name := "Sold",expression := .count (.ref "data") },
        { name := "Top",expression := .max (.ref "data") (.ref "price") }] } }

def sale (code : String) (price : Json) : Row := [("code",.str code),("price",price)]

def read : Expr → Row → Json
  | .ref name,row => (row.get? name).getD .null
  | _,_ => .null

def amount : Expr → Row → Option ℚ
  | .max _ x,row => (read x row).number?.bind value?
  | _,_ => some 1

def table : List Row :=
  [sale "a" (.int 3),sale "p" (.int 5),sale "a" (.int 4),sale "x" .null]

def groups : List (List Row) :=
  [[sale "x" .null],[sale "p" (.int 5)],[sale "a" (.int 3),sale "a" (.int 4)]]

def reported : List Row :=
  [[("Name",.str "x"),("Sold",.int 1),("Top",.null)],
    [("Name",.str "p"),("Sold",.int 1),("Top",.int 5)],
    [("Name",.str "a"),("Sold",.int 2),("Top",.int 4)]]

def client : PostProcess :=
  { splitKeys := ["Name"]
    clientKeys := [{ name := "Name",lookup := [("a","Apple"),("p","Apple")] }]
    merges := [("Sold",.sum),("Top",.max)] }

theorem planned : ∃ plan, planner.split = .ok plan ∧ plan.clientKeys = client.clientKeys ∧
    plan.merges = client.merges := by
  have found : planner.split.toOption.map (fun plan => (plan.clientKeys,plan.merges))
      = some (client.clientKeys,client.merges) := by decide +kernel
  obtain ⟨plan,made,same⟩ := Option.map_eq_some_iff.mp found
  exact ⟨plan,toOption_ok.mp made,congrArg Prod.fst same,congrArg Prod.snd same⟩

theorem counts_exact : ExactSums planner.folded.applies amount table := by
  intro a asked rule part inside q total
  simp only [planner,List.mem_cons,List.not_mem_nil,or_false] at asked
  rcases asked with rfl | rfl
  · have few : (part.map (amount (.count (.ref "data")))).reduceOption.length ≤ 4 := by
      refine (List.reduceOption_length_le _).trans ?_
      rw [List.length_map]
      exact inside.length_le
    rw [← Option.some.inj total]
    interval_cases (part.map (amount (.count (.ref "data")))).reduceOption.length
    · exact ⟨Float.ofInt 0,by decide +kernel⟩
    · exact ⟨Float.ofInt 1,by decide +kernel⟩
    · exact ⟨Float.ofInt 2,by decide +kernel⟩
    · exact ⟨Float.ofInt 3,by decide +kernel⟩
    · exact ⟨Float.ofInt 4,by decide +kernel⟩
  · cases rule

theorem grouped_by_code :
    Grouping (tuple planner.folded.splitKeys (planner.columnValue read)) table groups := by
  refine ⟨?_,by simp [groups],by decide +kernel,by decide +kernel⟩
  exact (@List.perm_append_comm _ [sale "x" .null] _).trans (.swap _ _ _)

theorem reported_by_code : List.Forall₂ (Reports planner.folded.splitKeys planner.folded.applies
    (planner.columnValue read) amount) reported groups := by
  have shown {row : Row} {group : List Row} (sold : Shows (row.get? "Sold")
        (Expr.total (.count (.ref "data")) (group.map (amount (.count (.ref "data"))))))
      (top : Shows (row.get? "Top") (Expr.total (.max (.ref "data") (.ref "price"))
        (group.map (amount (.max (.ref "data") (.ref "price")))))) :
      ∀ a ∈ planner.folded.applies,
        Shows (row.get? a.name) (a.expression.total (group.map (amount a.expression))) := by
    intro a asked
    simp only [planner,List.mem_cons,List.not_mem_nil,or_false] at asked
    rcases asked with rfl | rfl
    · exact sold
    · exact top
  have number {cell : Option Json} {total : Option ℚ} (q : ℚ) (is : total = some q)
      (holds : (cell.bind Json.number?).bind value? = some q) : Shows cell total := is ▸ holds
  refine .cons ⟨by decide +kernel,shown ?_ rfl⟩ (.cons ⟨by decide +kernel,shown ?_ ?_⟩
    (.cons ⟨by decide +kernel,shown ?_ ?_⟩ .nil))
  · exact number 1 (by decide +kernel) (by decide +kernel)
  · exact number 1 (by decide +kernel) (by decide +kernel)
  · exact number 5 (by decide +kernel) (by decide +kernel)
  · exact number 2 (by decide +kernel) (by decide +kernel)
  · exact number 4 (by decide +kernel) (by decide +kernel)

theorem sold_by_name : ∃ direct,
    Grouping (tuple planner.folded.splitKeys (planner.keyValue read)) table direct ∧
      List.Forall₂ (Reports planner.folded.splitKeys planner.folded.applies
        (planner.keyValue read) amount) (client.regroup reported) direct := by
  obtain ⟨plan,ran,looksUp,merges⟩ := planned
  refine client_split_direct ran ?_ rfl looksUp.symm merges.symm (by decide) grouped_by_code
    reported_by_code counts_exact
  rw [looksUp]
  exact List.cons_ne_nil _ _

end ByName

end Sql.Planner

end OlapQuery
