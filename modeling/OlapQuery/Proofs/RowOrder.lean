import Mathlib.Data.List.TakeWhile
import Mathlib.Data.Prod.Lex
import Mathlib.Data.String.Basic
import OlapQuery.Proofs.ExactNumbers

-- The order in which the client puts rows. On columns whose numbers are finite it is a total
-- preorder, so that the rows of a sorted list are the same whether its first rows are sorted
-- apart from the rest or not, as long as none of the rest belongs before them.

namespace OlapQuery

open Decimal (value?)

-- A column value whose number, if it is one, is finite.
def FiniteCell (cell : Option Json) : Prop :=
  ∀ x, cell.bind Json.number? = some x → (value? x).isSome

def cellNumber : Option Json → ℚ
  | some (.bool true) => 1
  | cell => ((cell.bind Json.number?).bind value?).getD 0

def cellText : Option Json → String
  | some (.str text) => text
  | _ => ""

-- What a column value is compared by.
def cellKey (cell : Option Json) : ℕ ×ₗ ℚ ×ₗ String :=
  toLex (columnRank cell,toLex (cellNumber cell,cellText cell))

theorem compare_cellKey (a b : Option Json) :
    compare (cellKey a) (cellKey b) = (compare (columnRank a) (columnRank b)).then
      ((compare (cellNumber a) (cellNumber b)).then (compare (cellText a) (cellText b))) := by
  simp only [Prod.Lex.compare_def,compareLex,compareOn]
  rfl

theorem compareNumbers_value {x y : Float} {q r : ℚ} (left : value? x = some q)
    (right : value? y = some r) : compareNumbers x y = compare q r := by
  unfold compareNumbers
  simp only [Decimal.lt_value left right,Decimal.lt_value right left]
  rcases lt_trichotomy q r with order | rfl | order
  · rw [if_pos order,compare_lt_iff_lt.mpr order]
  · rw [if_neg (lt_irrefl q),if_neg (lt_irrefl q),compare_eq_iff_eq.mpr rfl]
  · rw [if_neg order.asymm,if_pos order,compare_gt_iff_gt.mpr order]

theorem compareColumns_rank {a b : Option Json} (different : columnRank a ≠ columnRank b) :
    compareColumns a b = compare (columnRank a) (columnRank b) := by
  rcases a with _ | (_ | x | x | x | x | x | x) <;>
    rcases b with _ | (_ | y | y | y | y | y | y) <;>
    first
      | rfl
      | exact absurd rfl different

theorem cellNumber_value {cell : Option Json} {x : Float} {q : ℚ}
    (number : cell.bind Json.number? = some x) (is : value? x = some q) : cellNumber cell = q := by
  rcases cell with _ | (_ | _ | _ | _ | _ | _ | _) <;> cases number <;>
    simp [cellNumber,Json.number?,is]

theorem compareColumns_numbers {a b : Option Json} {x y : Float} (left : FiniteCell a)
    (right : FiniteCell b) (first : a.bind Json.number? = some x)
    (second : b.bind Json.number? = some y) :
    compareColumns a b = compare (cellNumber a) (cellNumber b) := by
  obtain ⟨q,leftValue⟩ := Option.isSome_iff_exists.mp (left x first)
  obtain ⟨r,rightValue⟩ := Option.isSome_iff_exists.mp (right y second)
  have compared : compareColumns a b = compareNumbers x y := by
    rcases a with _ | (_ | _ | _ | _ | _ | _ | _) <;> cases first <;>
      rcases b with _ | (_ | _ | _ | _ | _ | _ | _) <;> cases second <;> rfl
  rw [compared,cellNumber_value first leftValue,cellNumber_value second rightValue]
  exact compareNumbers_value leftValue rightValue

theorem compareColumns_key {a b : Option Json} (left : FiniteCell a) (right : FiniteCell b) :
    compareColumns a b = compare (cellKey a) (cellKey b) := by
  rw [compare_cellKey]
  by_cases same : columnRank a = columnRank b
  · rcases a with _ | (_ | x | x | x | x | x | x) <;>
      rcases b with _ | (_ | y | y | y | y | y | y) <;>
      first
        | rfl
        | cases same
    · cases x <;> cases y <;> decide
    all_goals
      rw [compareColumns_numbers left right rfl rfl]
      exact Ordering.then_eq.symm
  · rw [compareColumns_rank same]
    cases order : compare (columnRank a) (columnRank b) with
    | eq => exact absurd (compare_eq_iff_eq.mp order) same
    | lt => rfl
    | gt => rfl

section Sorting

variable {le : α → α → Bool}

theorem while_append {p : α → Bool} (first : List α) {second : List α}
    (stop : ∀ b ∈ second, p b = false) :
    (first ++ second).takeWhile p = first.takeWhile p ∧
      (first ++ second).dropWhile p = first.dropWhile p ++ second := by
  induction first with
  | nil =>
      cases second with
      | nil => exact ⟨rfl,rfl⟩
      | cons b others => simp [stop b List.mem_cons_self]
  | cons a first ih =>
      cases test : p a with
      | true => simpa [test] using ih
      | false => simp [test]

-- A stable sort puts a first element right before those that it does not come after.
theorem mergeSort_first (trans : ∀ a b c, le a b → le b c → le a c)
    (total : ∀ a b, le a b || le b a) (a : α) (rows : List α) :
    (a :: rows).mergeSort le = (rows.mergeSort le).takeWhile (fun b => !le a b)
      ++ a :: (rows.mergeSort le).dropWhile (fun b => !le a b) := by
  obtain ⟨before,after,whole,rest,apart⟩ := List.mergeSort_cons trans total a rows
  have sorted := List.pairwise_mergeSort trans total (a :: rows)
  rw [whole] at sorted
  have follows : ∀ b ∈ after, (!le a b) = false := by
    intro b listed
    simp [(List.pairwise_cons.mp (List.pairwise_append.mp sorted).2.1).1 b listed]
  have all : before.takeWhile (fun b => !le a b) = before ∧
      before.dropWhile (fun b => !le a b) = [] :=
    ⟨List.takeWhile_eq_self_iff.mpr apart,List.dropWhile_eq_nil_iff.mpr apart⟩
  rw [whole,rest,(while_append before follows).1,(while_append before follows).2,all.1,all.2,
    List.nil_append]

theorem mergeSort_append (trans : ∀ a b c, le a b → le b c → le a c)
    (total : ∀ a b, le a b || le b a) {first second : List α}
    (order : ∀ a ∈ first, ∀ b ∈ second, le a b = true) :
    (first ++ second).mergeSort le = first.mergeSort le ++ second.mergeSort le := by
  induction first with
  | nil => simp
  | cons a first ih =>
      have stop : ∀ b ∈ second.mergeSort le, (!le a b) = false := by
        intro b listed
        simp [order a List.mem_cons_self b (List.mem_mergeSort.mp listed)]
      have rest := ih fun c listed => order c (List.mem_cons_of_mem a listed)
      rw [List.cons_append,mergeSort_first trans total,mergeSort_first trans total,rest,
        (while_append _ stop).1,(while_append _ stop).2,List.append_assoc,List.cons_append]

-- Sorting the first elements alone gives the first of all, just when no later one belongs
-- before an earlier.
theorem mergeSort_take (trans : ∀ a b c, le a b → le b c → le a c)
    (total : ∀ a b, le a b || le b a) (rows : List α) (n : Nat) :
    (rows.take n).mergeSort le = (rows.mergeSort le).take n ↔
      ∀ a ∈ rows.take n, ∀ b ∈ rows.drop n, le a b = true := by
  constructor
  · intro same a early b late
    have parts : (rows.mergeSort le).take n ++ (rows.mergeSort le).drop n = rows.mergeSort le :=
      List.take_append_drop n _
    have split : rows.take n ++ rows.drop n = rows := List.take_append_drop n rows
    have heads : ((rows.mergeSort le).take n).Perm (rows.take n) :=
      same ▸ List.mergeSort_perm (rows.take n) le
    have tails : ((rows.mergeSort le).drop n).Perm (rows.drop n) := by
      have whole := List.mergeSort_perm rows le
      rw [← parts,← split] at whole
      exact (List.perm_append_left_iff _).mp ((heads.symm.append_right _).trans (by
        simpa [parts,split] using whole))
    have sorted := List.pairwise_mergeSort trans total rows
    rw [← parts] at sorted
    exact (List.pairwise_append.mp sorted).2.2 a (heads.mem_iff.mpr early) b
      (tails.mem_iff.mpr late)
  · intro order
    by_cases long : n ≤ rows.length
    · have whole := mergeSort_append trans total order
      rw [List.take_append_drop] at whole
      rw [whole,List.take_left' (by simp [long])]
    · have short : rows.length ≤ n := Nat.le_of_not_le long
      rw [List.take_of_length_le short,List.take_of_length_le (by rwa [List.length_mergeSort])]

end Sorting

namespace SortBy

-- The order of rows by what their columns are compared by.
def before (s : SortBy) (a b : Row) : Bool :=
  match s.direction with
  | .ascending => cellKey (a.get? s.name) ≤ cellKey (b.get? s.name)
  | .descending => cellKey (b.get? s.name) ≤ cellKey (a.get? s.name)

theorem before_trans (s : SortBy) (a b c : Row) (first : s.before a b) (second : s.before b c) :
    s.before a c := by
  cases direction : s.direction <;>
    simp only [before,direction,decide_eq_true_eq] at first second ⊢
  · exact first.trans second
  · exact second.trans first

theorem before_total (s : SortBy) (a b : Row) : s.before a b || s.before b a := by
  cases direction : s.direction <;> simp only [before,direction,Bool.or_eq_true,decide_eq_true_eq]
  · exact le_total _ _
  · exact le_total _ _

theorem compareRows_before {s : SortBy} {a b : Row} (left : FiniteCell (a.get? s.name))
    (right : FiniteCell (b.get? s.name)) :
    (s.compareRows a b != .gt) = s.before a b ∧ (s.compareRows b a ≠ .lt ↔ s.before a b) := by
  cases direction : s.direction <;>
    simp only [compareRows,before,direction,compareColumns_key left right,
      compareColumns_key right left]
  · rw [Bool.eq_iff_iff]
    simp [compare_gt_iff_gt,compare_lt_iff_lt]
  · rw [Bool.eq_iff_iff]
    simp [compare_gt_iff_gt,compare_lt_iff_lt]

theorem sortRows_before {s : SortBy} {rows : List Row}
    (finite : ∀ row ∈ rows, FiniteCell (row.get? s.name)) :
    s.sortRows rows = rows.mergeSort s.before := by
  have same := @List.map_mergeSort Row Row (fun a b => s.compareRows a b != .gt) s.before id rows
    (fun a first b second => (compareRows_before (finite a first) (finite b second)).1)
  rw [List.map_id,List.map_id] at same
  exact same

theorem sortRows_take {s : SortBy} {rows : List Row}
    (finite : ∀ row ∈ rows, FiniteCell (row.get? s.name)) (n : Nat) :
    s.sortRows (rows.take n) = (s.sortRows rows).take n ↔
      ∀ a ∈ rows.take n, ∀ b ∈ rows.drop n, s.compareRows b a ≠ .lt := by
  rw [sortRows_before finite,sortRows_before fun row listed => finite row (List.mem_of_mem_take listed),
    mergeSort_take s.before_trans s.before_total]
  have exact {a b : Row} (early : a ∈ rows.take n) (late : b ∈ rows.drop n) :=
    (compareRows_before (finite a (List.mem_of_mem_take early))
      (finite b (List.mem_of_mem_drop late))).2
  constructor
  · intro order a early b late
    exact (exact early late).mpr (order a early b late)
  · intro order a early b late
    exact (exact early late).mp (order a early b late)

end SortBy

end OlapQuery
