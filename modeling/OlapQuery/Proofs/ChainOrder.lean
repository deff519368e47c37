import OlapQuery.Proofs.FoldedFilter
import OlapQuery.Proofs.RowOrder

-- The filters, sorts and limits on the rows that a chain gives, in the order written. Folding keeps
-- one condition, one sort and one limit, to be applied in this order. Rows that a filter drops
-- after a stable sort can as well be dropped before it, and of several limits the smallest holds.

namespace OlapQuery

section Sorting

variable {le : α → α → Bool}

theorem dropWhile_follows (trans : ∀ a b c, le a b → le b c → le a c) (a : α) {sorted : List α}
    (ordered : sorted.Pairwise (le · ·)) : ∀ b ∈ sorted.dropWhile (fun b => !le a b), le a b := by
  induction sorted with
  | nil => intro b listed; cases listed
  | cons first rest ih =>
      obtain ⟨least,later⟩ := List.pairwise_cons.mp ordered
      intro b listed
      cases follows : le a first with
      | false => exact ih later b (by simpa [List.dropWhile_cons,follows] using listed)
      | true =>
          rw [List.dropWhile_cons,if_neg (by simp [follows])] at listed
          rcases List.mem_cons.mp listed with rfl | behind
          · exact follows
          · exact trans a first b follows (least b behind)

theorem while_filter (trans : ∀ a b c, le a b → le b c → le a c) (a : α) {sorted : List α}
    (ordered : sorted.Pairwise (le · ·)) (p : α → Bool) :
    (sorted.filter p).takeWhile (fun b => !le a b)
        = (sorted.takeWhile (fun b => !le a b)).filter p ∧
      (sorted.filter p).dropWhile (fun b => !le a b)
        = (sorted.dropWhile (fun b => !le a b)).filter p := by
  have parts : sorted.filter p = (sorted.takeWhile (fun b => !le a b)).filter p
      ++ (sorted.dropWhile (fun b => !le a b)).filter p := by
    rw [← List.filter_append,List.takeWhile_append_dropWhile]
  have early : ∀ b ∈ (sorted.takeWhile (fun b => !le a b)).filter p, (!le a b) = true := by
    intro b listed
    exact @List.mem_takeWhile_imp _ (fun b => !le a b) _ _ (List.mem_filter.mp listed).1
  have late : ∀ b ∈ (sorted.dropWhile (fun b => !le a b)).filter p, (!le a b) = false := by
    intro b listed
    simp [dropWhile_follows trans a ordered b (List.mem_filter.mp listed).1]
  have split := while_append ((sorted.takeWhile (fun b => !le a b)).filter p) late
  rw [List.takeWhile_eq_self_iff.mpr early,List.dropWhile_eq_nil_iff.mpr early,List.nil_append]
    at split
  rw [parts]
  exact split

theorem filter_mergeSort (trans : ∀ a b c, le a b → le b c → le a c)
    (total : ∀ a b, le a b || le b a) (p : α → Bool) (rows : List α) :
    (rows.mergeSort le).filter p = (rows.filter p).mergeSort le := by
  induction rows with
  | nil => simp
  | cons a rows ih =>
      obtain ⟨early,late⟩ := while_filter trans a (List.pairwise_mergeSort trans total rows) p
      rw [ih] at early late
      rw [mergeSort_first trans total a rows,List.filter_append]
      cases test : p a with
      | false =>
          rw [List.filter_cons_of_neg (by simp [test]),List.filter_cons_of_neg (by simp [test]),
            ← early,← late,List.takeWhile_append_dropWhile]
      | true =>
          rw [List.filter_cons_of_pos test,List.filter_cons_of_pos test,
            mergeSort_first trans total a,early,late]

end Sorting

-- A reading of rows that can be run, with the order in which an expression puts them.
structure RowReading (ρ : Type u) extends Reading ρ where
  decided : ∀ row e, Decidable (holds row e)
  before : Expr → Direction → ρ → ρ → Bool
  before_trans : ∀ key direction a b c,
    before key direction a b → before key direction b c → before key direction a c
  before_total : ∀ key direction a b, before key direction a b || before key direction b a

attribute [instance] RowReading.decided

def Step.isSort : Step → Bool
  | .sort _ _ => true
  | _ => false

-- The steps on the rows that a chain gives; a split makes rows of its own.
def outputSteps (steps : List Step) : List Step :=
  steps.foldl (fun output step => if step.isSplit then [] else output ++ [step]) []

theorem outputSteps_append (taken : List Step) (step : Step) :
    outputSteps (taken ++ [step])
      = if step.isSplit then [] else outputSteps taken ++ [step] := by
  simp [outputSteps,List.foldl_append]

namespace RowReading

variable {ρ : Type u} (S : RowReading ρ)

def sorted (key : Expr) (direction : Direction) (rows : List ρ) : List ρ :=
  rows.mergeSort (S.before key direction)

def kept (conditions : List Expr) (rows : List ρ) : List ρ :=
  rows.filter (fun row => ∀ c ∈ conditions, S.holds row c)

-- What a step does to the rows as it stands; the others add columns to them.
def perform (rows : List ρ) : Step → List ρ
  | .filter condition => S.kept [condition] rows
  | .sort key direction => S.sorted key direction rows
  | .limit count => rows.take count.toNat
  | .split _ _ => rows
  | .apply _ _ => rows

-- Conditions first, then one sort, then one limit.
def arrange (conditions : List Expr) (sort : Option SortBy) (limit : Option UInt64)
    (rows : List ρ) : List ρ :=
  let chosen := S.kept conditions rows
  let ordered := match sort with
    | some s => S.sorted (.ref s.name) s.direction chosen
    | none => chosen
  match limit with
  | some count => ordered.take count.toNat
  | none => ordered

theorem kept_append (early late : List Expr) (rows : List ρ) :
    S.kept (early ++ late) rows = S.kept late (S.kept early rows) := by
  simp only [kept,List.filter_filter,List.forall_mem_append,Bool.decide_and,Bool.and_comm]

theorem kept_andAll (conditions : List Expr) (rows : List ρ) :
    S.kept [.andAll conditions] rows = S.kept conditions rows := by
  simp only [kept,List.forall_mem_singleton,S.holds_andAll]

theorem kept_sorted (conditions : List Expr) (key : Expr) (direction : Direction) (rows : List ρ) :
    S.kept conditions (S.sorted key direction rows)
      = S.sorted key direction (S.kept conditions rows) :=
  filter_mergeSort (S.before_trans key direction) (S.before_total key direction) _ rows

-- A condition before any limit joins those in front of the sort.
theorem kept_arrange (conditions late : List Expr) (sort : Option SortBy) (rows : List ρ) :
    S.kept late (S.arrange conditions sort none rows)
      = S.arrange (conditions ++ late) sort none rows := by
  cases sort with
  | none => exact (S.kept_append conditions late rows).symm
  | some s => simp only [arrange,kept_sorted,kept_append]

theorem arrange_congr {conditions others : List Expr} (sort : Option SortBy) (limit : Option UInt64)
    (same : ∀ rows, S.kept conditions rows = S.kept others rows) (rows : List ρ) :
    S.arrange conditions sort limit rows = S.arrange others sort limit rows := by
  simp only [arrange,same]

theorem take_arrange (conditions : List Expr) (sort : Option SortBy) (limit : Option UInt64)
    (count : UInt64) (rows : List ρ) :
    (S.arrange conditions sort limit rows).take count.toNat
      = S.arrange conditions sort (some (Fold.smallerLimit limit count)) rows := by
  cases limit with
  | none => rfl
  | some other =>
      have smaller := (Fold.smallerLimit_toNat other count).trans (Nat.min_comm _ _)
      simp only [arrange,List.take_take,smaller]

end RowReading

namespace Fold

def Rows.conditions (q : Rows) : List Expr :=
  if q.split.isSome then (q.having.map (fun h => h.expression)).toList else q.filters

-- No condition on the rows of a split stands after a limit.
def Early (having : Option Having) : Prop :=
  ∀ h, having = some h → h.afterLimit = false

section
variable {ρ : Type u} (S : RowReading ρ)

def performed (taken : List Step) (rows : List ρ) : List ρ :=
  (outputSteps taken).foldl S.perform rows

theorem performed_append (taken : List Step) {step : Step} (noSplit : step.isSplit = false)
    (rows : List ρ) : performed S (taken ++ [step]) rows = S.perform (performed S taken rows) step := by
  simp [performed,outputSteps_append,noSplit,List.foldl_append]

-- What the state owes to the steps taken.
structure InOrder (taken : List Step) (q : Rows) : Prop where
  unsorted : taken.countP Step.isSort = 0 → q.sort = none
  unsplit : q.split = none → q.having = none
  same : taken.countP Step.isSort ≤ 1 → Early q.having →
    ∀ rows, performed S taken rows = S.arrange q.conditions q.sort q.limit rows

theorem inOrder_start (scope : Scope) : InOrder S [] { scope } :=
  ⟨fun _ => rfl,fun _ => rfl,fun _ _ rows => by simp [performed,outputSteps,Rows.conditions,
    RowReading.arrange,RowReading.kept]⟩

variable {S} {root : String} {taken : List Step} {q next : Rows} {step : Step}

theorem InOrder.further (before : InOrder S taken q) (noSplit : step.isSplit = false)
    (noSort : step.isSort = false) (sameSort : next.sort = q.sort)
    (unsplit : next.split = none → next.having = none) (earlier : Early next.having → Early q.having)
    (same : Early next.having → ∀ rows,
      S.perform (S.arrange q.conditions q.sort q.limit rows) step
        = S.arrange next.conditions next.sort next.limit rows) :
    InOrder S (taken ++ [step]) next := by
  have count : (taken ++ [step]).countP Step.isSort = taken.countP Step.isSort := by
    simp [List.countP_append,noSort]
  refine ⟨?_,unsplit,?_⟩
  · rw [count,sameSort]; exact before.unsorted
  · rw [count]
    intro once early rows
    rw [performed_append S taken noSplit,before.same once (earlier early) rows,same early]

theorem InOrder.column (before : InOrder S taken q) (sameSplit : next.split = q.split)
    (sameFilters : next.filters = q.filters) (sameHaving : next.having = q.having)
    (sameSort : next.sort = q.sort) (sameLimit : next.limit = q.limit) :
    InOrder S (taken ++ [.apply name e]) next := by
  refine before.further rfl rfl sameSort ?_ (sameHaving ▸ id) ?_
  · rw [sameSplit,sameHaving]; exact before.unsplit
  · intro early rows
    simp only [RowReading.perform,Rows.conditions,sameSplit,sameFilters,sameHaving,sameSort,sameLimit]

theorem early_further {condition : Expr} (early : Early (some (furtherHaving q condition))) :
    q.limit = none ∧ Early q.having := by
  have noLimit := early _ rfl
  unfold furtherHaving at noLimit
  unfold Early
  cases having : q.having with
  | none =>
      rw [having] at noLimit
      exact ⟨by simpa using noLimit,by simp⟩
  | some h =>
      rw [having] at noLimit
      simp only [Bool.or_eq_false_iff] at noLimit
      exact ⟨by simpa using noLimit.2,by simp [noLimit.1]⟩

theorem inOrder_step (before : InOrder S taken q) (ran : RowsTaken root q step next) :
    InOrder S (taken ++ [step]) next := by
  cases ran with
  | @filtered condition checked unsplit unsorted unlimited =>
      refine before.further rfl rfl rfl before.unsplit id fun _ rows => ?_
      simp only [RowReading.perform,Rows.conditions,unsplit,unlimited,S.kept_arrange]
      rfl
  | @having condition split checked already =>
      refine before.further rfl rfl rfl (by simp [already]) (fun early => (early_further early).2) ?_
      intro early rows
      obtain ⟨unlimited,-⟩ := early_further early
      have conditions : Rows.conditions { q with having := some (furtherHaving q condition) }
          = [(furtherHaving q condition).expression] := by
        simp [Rows.conditions,already]
      change S.kept [condition] (S.arrange q.conditions q.sort q.limit rows)
        = S.arrange (Rows.conditions { q with having := some (furtherHaving q condition) }) q.sort
          q.limit rows
      rw [conditions,unlimited,S.kept_arrange]
      refine S.arrange_congr _ _ (fun rows => ?_) rows
      cases having : q.having with
      | none => simp [Rows.conditions,already,having,furtherHaving]
      | some h => simp [Rows.conditions,already,having,furtherHaving,S.kept_andAll]
  | @split keys dataName scope unsplit unsorted unlimited keyed declared =>
      refine ⟨fun _ => unsorted,by simp,fun _ _ rows => ?_⟩
      simp [performed,outputSteps_append,Step.isSplit,Rows.conditions,before.unsplit unsplit,unsorted,
        unlimited,RowReading.arrange,RowReading.kept]
  | nested already inner => exact before.column rfl rfl rfl rfl rfl
  | applied already flat typed resolves => exact before.column rfl rfl rfl rfl rfl
  | @sorted name key direction named known unlimited =>
      have count : (taken ++ [Step.sort key direction]).countP Step.isSort
          = taken.countP Step.isSort + 1 := by
        simp [List.countP_append,Step.isSort]
      refine ⟨by simp [count],before.unsplit,fun once early rows => ?_⟩
      have first : taken.countP Step.isSort = 0 := by omega
      rw [performed_append S taken rfl,before.same (by omega) early rows,before.unsorted first,unlimited]
      have is : key = .ref name := by cases key <;> cases named; rfl
      rw [is]
      rfl
  | @limited count =>
      refine before.further rfl rfl rfl before.unsplit id fun _ rows => ?_
      exact S.take_arrange _ _ _ _ rows

end

end Fold

-- The conditions on the rows that a folded query gives: on rows of the dataset those written before
-- the split, next to the base filter, and on rows of a split those written after it.
def FoldedQuery.outputConditions (q : FoldedQuery) (filters : List Expr) : List Expr :=
  if q.split.isSome then (q.having.map (fun h => h.expression)).toList else filters

-- One condition, one sort and one limit do to the rows what all steps of the chain do in turn, as
-- long as there is one sort at most and no condition follows a limit.
theorem folded_order_exact {ρ : Type u} (S : RowReading ρ) {dataset : Dataset} {e : Expr}
    {folded : FoldedQuery} (ran : fold dataset e = .ok folded)
    (chain : folded.mode = .raw ∨ folded.mode = .split) (once : e.chainSteps.countP Step.isSort ≤ 1)
    (early : Fold.Early folded.having) :
    ∃ filters, Fold.ownFilters dataset e = .ok filters ∧
      folded.filter = queryFilter dataset filters ∧
      ∀ rows, Fold.performed S e.chainSteps rows
        = S.arrange (folded.outputConditions filters) folded.sort folded.limit rows := by
  rcases fold_cases ran with ⟨single,value⟩ | ⟨chained,base,totals⟩ | ⟨chained,root,base,rows⟩
  · obtain ⟨resolved,expanded,-,rfl⟩ := Fold.value_parts value
    rcases chain with raw | split <;> contradiction
  · obtain ⟨t,-,rfl⟩ := Fold.totals_parts totals
    rcases chain with raw | split <;> contradiction
  · obtain ⟨filters,own,filter⟩ := Fold.folded_filter ran
    obtain ⟨q,run,rfl⟩ := Fold.rows_parts rows
    have inOrder := Compiled.run_keeps (Fold.InOrder S)
      (fun _ _ _ _ before step => Fold.inOrder_step before (Fold.rowsStep_taken step))
      (Fold.inOrder_start S _) run
    have collected : q.filters = filters := by
      rw [Fold.ownFilters,if_neg (by simp [chained]),base] at own
      rw [(Fold.rows_reached run).filters]
      exact Except.ok.inj own
    exact ⟨filters,own,filter,fun rows => collected ▸ inOrder.same once early rows⟩

namespace Columns

def reading : RowReading Row where
  holds row e := Plain.holds (fun name => match row.get? name with
    | some (.str text) => .text text
    | _ => .other) e = true
  holds_bool _ := Plain.reading.holds_bool _
  holds_and _ := Plain.reading.holds_and _
  decided _ _ := inferInstanceAs (Decidable (_ = true))
  before key direction := SortBy.before { name := key.refName?.getD "",direction }
  before_trans _ _ := SortBy.before_trans _
  before_total _ _ := SortBy.before_total _

def visits : Dataset :=
  { engine := .postgres,source := "visits",attributes := [{ name := "city",type := .string }] }

def inOslo : Expr :=
  .is (.ref "City") (.literal (.string "Oslo"))

def busiest : Expr :=
  .limit (.limit (.filter (.sort (.apply (.split (.ref "visits") [("City",.ref "city")] "data")
    "Visits" (.count (.ref "data"))) (.ref "Visits") .descending) inOslo) 5) 10

theorem busiest_in_order :
    ∃ folded, fold visits busiest = .ok folded ∧ folded.mode = .split ∧
      busiest.chainSteps.countP Step.isSort = 1 ∧ Fold.Early folded.having ∧
      ∀ rows, ((reading.kept [inOslo] (reading.sorted (.ref "Visits") .descending rows)).take 5).take 10
        = (reading.sorted (.ref "Visits") .descending (reading.kept [inOslo] rows)).take 5 := by
  have early : Fold.Early (some { expression := inOslo,afterLimit := false }) := by
    intro h is; cases is; rfl
  obtain ⟨filters,-,-,same⟩ :=
    @folded_order_exact _ reading visits busiest _ rfl (.inr rfl) (by decide) early
  exact ⟨_,rfl,rfl,by decide,early,same⟩

end Columns

end OlapQuery
