import OlapQuery.Proofs.ClientSort
import OlapQuery.Proofs.NumberIdentity
import OlapQuery.Proofs.Tables
import OlapQuery.Proofs.WordDoubles

-- Sorting what an engine answered. JSON has no numbers but finite ones, and what the client makes
-- of an answer has no others either, so that the order of column values is a total preorder on all
-- of its columns. The sort puts the same rows in that order, and leaves equal ones as they are.

namespace OlapQuery

open Decimal (value?)

-- No number but finite ones, in the values inside of a value either.
inductive Json.Finite : Json → Prop where
  | null : Finite .null
  | bool (b : Bool) : Finite (.bool b)
  | int {n : Int} (finite : (value? (Float.ofInt n)).isSome) : Finite (.int n)
  | float {x : Float} (finite : (value? x).isSome) : Finite (.float x)
  | str (text : String) : Finite (.str text)
  | arr {items : List Json} (each : ∀ j ∈ items, Finite j) : Finite (.arr items)
  | obj {columns : List (String × Json)} (each : ∀ column ∈ columns, Finite column.2) :
      Finite (.obj columns)

def Row.Finite (row : Row) : Prop :=
  ∀ column ∈ row, column.2.Finite

namespace Json

variable {j : Json}

theorem ofNumber_finite (x : Float) : (ofNumber x).Finite := by
  unfold ofNumber
  split
  · rename_i n whole
    have is := Decimal.value_magnitude (Decimal.whole_finite whole)
    have same := Decimal.value_of_beq is (Decimal.beq_of_whole whole)
    exact .int (Option.isSome_iff_exists.mpr ⟨_,same⟩)
  · split
    · exact .null
    · rename_i other
      simp only [Bool.or_eq_true,not_or,Bool.not_eq_true] at other
      exact .float (Option.isSome_iff_exists.mpr ⟨_,Decimal.value_magnitude other⟩)

theorem float_finite {x : Float} (finite : x.isFinite = true) : (Json.float x).Finite := by
  refine .float ?_
  change x.toModel.unpack.isFinite = true at finite
  unfold value?
  cases shape : x.toModel.unpack with
  | zero | finite => rfl
  | infinity | notANumber =>
      rw [shape] at finite
      cases finite

-- Whatever JSON value is kept has finite numbers.
mutual
theorem kept_finite : ∀ j {k}, kept? j = some k → k.Finite
  | .null,_,kept => by
      cases kept
      exact .null
  | .bool b,_,kept => by
      cases kept
      exact .bool b
  | .str text,_,kept => by
      cases kept
      exact .str text
  | .int n,_,kept => by
      obtain ⟨word,same⟩ := Option.ite_none_right_eq_some.mp kept
      cases same
      simp only [Bool.and_eq_true,decide_eq_true_eq] at word
      exact .int (Decimal.ofInt_finite word.1 word.2)
  | .float x,_,kept => by
      rw [kept?] at kept
      split at kept
      · rename_i finite
        cases kept
        exact float_finite finite
      · cases kept
        exact .null
  | .arr items,_,kept => by
      obtain ⟨made,each,rfl⟩ := Option.map_eq_some_iff.mp kept
      exact .arr (keptItems_finite items each)
  | .obj fields,_,kept => by
      obtain ⟨made,each,rfl⟩ := Option.map_eq_some_iff.mp kept
      exact .obj (keptFields_finite fields each)

theorem keptItems_finite : ∀ items {made}, keptItems? items = some made → ∀ k ∈ made, k.Finite
  | [],_,kept => by
      cases kept
      exact nofun
  | j :: rest,_,kept => by
      obtain ⟨first,head,kept⟩ := Option.bind_eq_some_iff.mp kept
      obtain ⟨others,tail,same⟩ := Option.bind_eq_some_iff.mp kept
      cases same
      exact List.forall_mem_cons.mpr ⟨kept_finite j head,keptItems_finite rest tail⟩

theorem keptFields_finite :
    ∀ fields {made}, keptFields? fields = some made → ∀ column ∈ made, column.2.Finite
  | [],_,kept => by
      cases kept
      exact nofun
  | (name,j) :: rest,_,kept => by
      obtain ⟨first,head,kept⟩ := Option.bind_eq_some_iff.mp kept
      obtain ⟨others,tail,same⟩ := Option.bind_eq_some_iff.mp kept
      cases same
      exact List.forall_mem_cons.mpr ⟨kept_finite j head,keptFields_finite rest tail⟩
end

theorem Finite.cell (finite : j.Finite) : FiniteCell (some j) := by
  intro x number
  cases finite with
  | int finite => cases number; exact finite
  | float finite => cases number; exact finite
  | _ => cases number

theorem Finite.row {row : Row} (finite : j.Finite) (is : j.obj? = some row) : row.Finite := by
  cases finite with
  | obj each => cases is; exact each
  | _ => cases is

theorem Finite.member {name : String} {inner : Json} (finite : j.Finite)
    (found : j.get? name = some inner) : inner.Finite := by
  cases finite with
  | obj each => exact each _ (Table.lookup_mem found)
  | _ => cases found

theorem items_finite {found : Option Json} (finite : ∀ j ∈ found, j.Finite) :
    ∀ item ∈ (found.bind arr?).getD [], item.Finite := by
  cases found with
  | none => exact nofun
  | some j =>
      cases finite j rfl with
      | arr each => exact each
      | _ => exact nofun

theorem readAs_finite (type : DataType) (finite : j.Finite) : (readAs type j).Finite := by
  unfold readAs
  split
  · split
    · rename_i text _
      cases Decimal.readFloat text with
      | none => exact finite
      | some x => exact ofNumber_finite x
    · split
      · exact .bool true
      · split
        · exact .bool false
        · exact finite
    · exact finite
  · exact finite

end Json

namespace Row

variable {row other : Row}

theorem Finite.get (finite : row.Finite) {name : String} {j : Json}
    (found : row.get? name = some j) : j.Finite :=
  finite _ (Table.lookup_mem found)

theorem Finite.cell (finite : row.Finite) (name : String) : FiniteCell (row.get? name) := by
  cases found : row.get? name with
  | none => exact nofun
  | some j => exact (finite.get found).cell

theorem Finite.insert (finite : row.Finite) (name : String) {j : Json} (value : j.Finite) :
    Row.Finite (Table.insert name j row) := by
  intro column listed
  rcases Table.mem_insert listed with rfl | old
  · exact value
  · exact finite column old

theorem Finite.erase (finite : row.Finite) (name : String) : Row.Finite (row.erase name) :=
  fun column listed => finite column (List.mem_filter.mp listed).1

end Row

namespace PostProcess

variable {p : PostProcess} {row other : Row}

theorem stamped_finite (finite : row.Finite) {timestamp : Option Json}
    (stamp : ∀ t ∈ timestamp, t.Finite) : (p.stamped timestamp row).Finite := by
  unfold stamped
  split
  · exact finite.insert _ (stamp _ rfl)
  · exact finite

theorem selectedRow_finite {event : Json} (finite : event.Finite)
    (chosen : p.selectedRow event = some row) : row.Finite := by
  obtain ⟨bare,found,made⟩ := Option.bind_eq_some_iff.mp chosen
  obtain ⟨j,within,is⟩ := Option.bind_eq_some_iff.mp found
  cases made
  have inner := (finite.member within).row is
  exact stamped_finite (inner.erase _) fun t stamp => inner.get stamp

theorem unwrap_finite (finite : row.Finite) : ∀ inner ∈ p.unwrap row, inner.Finite := by
  have member (name : String) : ∀ inner ∈ (((row.get? name).bind Json.obj?).map
      (p.stamped (row.get? "timestamp"))).toList, Row.Finite inner := by
    intro inner listed
    obtain ⟨bare,found,rfl⟩ := Option.map_eq_some_iff.mp (Option.mem_toList.mp listed)
    obtain ⟨j,found,is⟩ := Option.bind_eq_some_iff.mp found
    exact stamped_finite ((finite.get found).row is) fun t stamp => finite.get stamp
  unfold unwrap
  dsimp only
  split
  · exact List.forall_mem_singleton.mpr finite
  · exact member _
  · exact member _
  · exact member _
  · intro inner listed
    obtain ⟨j,within,is⟩ := List.mem_filterMap.mp listed
    exact (Json.items_finite (fun j found => finite.get found) j within).row is
  · intro inner listed
    obtain ⟨event,within,chosen⟩ := List.mem_filterMap.mp listed
    refine selectedRow_finite (Json.items_finite (fun j found => ?_) event within) chosen
    obtain ⟨result,answered,inner⟩ := Option.bind_eq_some_iff.mp found
    exact (finite.get answered).member inner

theorem rename_finite (finite : row.Finite) (entry : String × String) :
    (rename row entry).Finite := by
  unfold rename
  split
  · rename_i value found
    exact (finite.erase entry.1).insert _ (finite.get found)
  · exact finite

theorem clean_finite (finite : row.Finite) : (p.clean row).Finite := by
  have renamed : (p.renames.foldl rename row).Finite :=
    List.foldlRecOn p.renames rename finite fun row finite entry _ => rename_finite finite entry
  intro column listed
  obtain ⟨old,kept,rfl⟩ := List.mem_map.mp listed
  have before := renamed old (List.mem_filter.mp kept).1
  split
  · exact Json.readAs_finite _ before
  · exact before

theorem lookUp_finite (finite : row.Finite) (key : Sql.ClientKey) : (lookUp row key).Finite := by
  refine finite.insert _ ?_
  split
  · cases key.lookup.get? _ with
    | none => exact .null
    | some text => exact .str text
  · exact .null

theorem mergeColumn_finite (finite : row.Finite) (column : String × Sql.Merge) :
    (mergeColumn other row column).Finite := by
  unfold mergeColumn
  dsimp only
  split
  · exact finite.insert _ (Json.ofNumber_finite _)
  · exact finite

theorem mergeRow_finite (finite : row.Finite) : (p.mergeRow row other).Finite :=
  List.foldlRecOn p.merges (mergeColumn other) finite fun _ finite column _ =>
    mergeColumn_finite finite column

theorem addToGroups_finite (finite : row.Finite) {groups : List (List Json × Row)}
    (each : ∀ group ∈ groups, group.2.Finite) :
    ∀ group ∈ p.addToGroups row groups, group.2.Finite := by
  induction groups with
  | nil => exact List.forall_mem_singleton.mpr finite
  | cons group rest ih =>
      obtain ⟨first,later⟩ := List.forall_mem_cons.mp each
      unfold addToGroups
      split
      · exact List.forall_mem_cons.mpr ⟨mergeRow_finite first,later⟩
      · exact List.forall_mem_cons.mpr ⟨first,ih later⟩

theorem regroup_finite {rows : List Row} (finite : ∀ row ∈ rows, row.Finite) :
    ∀ row ∈ p.regroup rows, row.Finite := by
  have lookedUp : ∀ row ∈ rows.map fun row => p.clientKeys.foldl lookUp row, row.Finite := by
    refine List.forall_mem_map.mpr fun row listed => ?_
    exact List.foldlRecOn p.clientKeys lookUp (finite row listed) fun _ finite key _ =>
      lookUp_finite finite key
  refine List.forall_mem_map.mpr ?_
  exact List.foldlRecOn (motive := fun groups : List (List Json × Row) => ∀ group ∈ groups,
    group.2.Finite) _ _ (List.forall_mem_nil _) fun _ each row listed =>
      addToGroups_finite (lookedUp row listed) each

theorem gathered_finite {answer : List Row} (finite : ∀ row ∈ answer, row.Finite) :
    ∀ row ∈ p.gathered answer, row.Finite := by
  have rows : ∀ row ∈ (answer.flatMap p.unwrap).map p.clean, row.Finite := by
    refine List.forall_mem_map.mpr fun row listed => ?_
    obtain ⟨item,answered,inner⟩ := List.mem_flatMap.mp listed
    exact clean_finite (unwrap_finite (finite item answered) row inner)
  unfold gathered
  dsimp only
  split
  · exact rows
  · exact regroup_finite rows

end PostProcess

section Order

variable {a b c : Option Json}

theorem compareColumns_swap (left : FiniteCell a) (right : FiniteCell b) :
    compareColumns a b = (compareColumns b a).swap := by
  rw [compareColumns_key left right,compareColumns_key right left]
  exact Std.OrientedCmp.eq_swap

theorem compareColumns_self (finite : FiniteCell a) : compareColumns a a = .eq := by
  rw [compareColumns_key finite finite]
  exact Std.ReflCmp.compare_self

theorem compareColumns_trans (first : FiniteCell a) (second : FiniteCell b) (third : FiniteCell c)
    (left : compareColumns a b ≠ .gt) (right : compareColumns b c ≠ .gt) :
    compareColumns a c ≠ .gt := by
  rw [compareColumns_key first second] at left
  rw [compareColumns_key second third] at right
  rw [compareColumns_key first third]
  exact Ordering.isLE_iff_ne_gt.mp (Std.TransCmp.isLE_trans (Ordering.isLE_iff_ne_gt.mpr left)
    (Ordering.isLE_iff_ne_gt.mpr right))

theorem compareColumns_equal (first : FiniteCell a) (second : FiniteCell b) (third : FiniteCell c)
    (left : compareColumns a b = .eq) (right : compareColumns b c = .eq) :
    compareColumns a c = .eq := by
  rw [compareColumns_key first second] at left
  rw [compareColumns_key second third] at right
  rw [compareColumns_key first third]
  exact Std.TransCmp.eq_trans left right

end Order

-- The same rows in order. Rows that were in order before stay one after the other, equal ones
-- among them.
structure SortBy.Sorts (s : SortBy) (rows sorted : List Row) : Prop where
  perm : sorted.Perm rows
  ordered : sorted.Pairwise fun a b => s.compareRows a b ≠ .gt
  stable : ∀ chosen : List Row, chosen.Sublist rows →
    (chosen.Pairwise fun a b => s.compareRows a b ≠ .gt) → chosen.Sublist sorted

theorem SortBy.sortRows_sorts {s : SortBy} {rows : List Row}
    (finite : ∀ row ∈ rows, FiniteCell (row.get? s.name)) : s.Sorts rows (s.sortRows rows) := by
  have order {a b : Row} (first : a ∈ rows) (second : b ∈ rows) :
      s.before a b = true ↔ s.compareRows a b ≠ .gt := by
    rw [← (compareRows_before (finite a first) (finite b second)).1]
    exact bne_iff_ne
  rw [sortRows_before finite]
  have perm := List.mergeSort_perm rows s.before
  refine ⟨perm,?_,?_⟩
  · refine (List.pairwise_mergeSort s.before_trans s.before_total rows).imp_of_mem ?_
    intro a b first second before
    exact (order (perm.mem_iff.mp first) (perm.mem_iff.mp second)).mp before
  · intro chosen within ordered
    refine List.sublist_mergeSort s.before_trans s.before_total (ordered.imp_of_mem ?_) within
    intro a b first second before
    exact (order (within.subset first) (within.subset second)).mpr before

theorem limited_prefix (limit : Option UInt64) (rows : List α) : limited limit rows <+: rows := by
  cases limit with
  | none => exact List.prefix_rfl
  | some n => exact List.take_prefix n.toNat rows

-- On the columns that JSON can hold, the order of the client is a total preorder. Whatever an
-- engine answered, the client gives the first of all gathered rows in that order or its reverse.
theorem client_sort_sound :
    (∀ j k, Json.kept? j = some k → k.Finite) ∧
    (∀ a b c, FiniteCell a → FiniteCell b → FiniteCell c →
      compareColumns a b = (compareColumns b a).swap ∧ compareColumns a a = .eq ∧
        (compareColumns a b ≠ .gt → compareColumns b c ≠ .gt → compareColumns a c ≠ .gt) ∧
        (compareColumns a b = .eq → compareColumns b c = .eq → compareColumns a c = .eq)) ∧
    ∀ (p : PostProcess) (s : SortBy) (answer : List Row), p.sort = some s →
      (∀ row ∈ answer, row.Finite) → ∃ sorted, s.Sorts (p.gathered answer) sorted ∧
        p.apply answer = limited p.limit sorted ∧ p.apply answer <+: sorted := by
  refine ⟨fun j _ => Json.kept_finite j,?_,?_⟩
  · intro a b c first second third
    exact ⟨compareColumns_swap first second,compareColumns_self first,
      compareColumns_trans first second third,compareColumns_equal first second third⟩
  · intro p s answer sorts finite
    have given : p.apply answer = limited p.limit (s.sortRows (p.gathered answer)) := by
      rw [PostProcess.apply_gathered,PostProcess.sortAndLimit_sorted sorts]
    refine ⟨_,SortBy.sortRows_sorts ?_,given,given ▸ limited_prefix p.limit _⟩
    exact fun row listed => (PostProcess.gathered_finite finite row listed).cell s.name

namespace MixedViews

def byViews : SortBy := { name := "views",direction := .descending }

def post : PostProcess := { sort := some byViews,limit := some 3 }

def counted : Row := [("page",.str "A"),("views",.int 9007199254740992)]

def uncounted : Row := [("page",.str "B")]

def recounted : Row := [("page",.str "C"),("views",.int 9007199254740993)]

def described : Row := [("page",.str "D"),("views",.str "many")]

def answer : List Row := [counted,uncounted,recounted,described]

theorem answer_finite : ∀ row ∈ answer, row.Finite := by
  have kept : Json.kept? (.arr (answer.map .obj)) = some (.arr (answer.map .obj)) := rfl
  intro row listed
  cases Json.kept_finite _ kept with
  | arr each => exact (each _ (List.mem_map_of_mem listed)).row rfl

-- A text comes after the numbers. Two counts that are one double stay in their order, and the
-- page without any is cut off.
theorem mixed_views_sorted :
    compareColumns (uncounted.get? "views") (described.get? "views") ≠ .gt ∧
    (∃ sorted, byViews.Sorts answer sorted ∧ post.apply answer = sorted.take 3 ∧
      post.apply answer <+: sorted) ∧
    post.apply answer = [described,counted,recounted] := by
  obtain ⟨-,order,sorting⟩ := client_sort_sound
  have cell (row : Row) (listed : row ∈ answer) : FiniteCell (row.get? "views") :=
    (answer_finite row listed).cell "views"
  have through := order _ _ _ (cell uncounted (by simp [answer])) (cell counted (by simp [answer]))
    (cell described (by simp [answer]))
  refine ⟨through.2.2.1 (by decide) (by decide),sorting post byViews answer rfl answer_finite,?_⟩
  have unread : byViews.compareRows counted uncounted = .lt := by decide
  have first : byViews.compareRows counted described = .gt := by decide
  have second : byViews.compareRows recounted described = .gt := by decide
  have last : byViews.compareRows uncounted recounted = .gt := by decide
  have equal : byViews.compareRows counted recounted = .eq := by decide +kernel
  have sorted : byViews.sortRows answer = [described,counted,recounted,uncounted] := by
    simp [SortBy.sortRows,List.mergeSort,answer,unread,first,second,last,equal]
  exact congrArg (List.take 3) sorted

end MixedViews

end OlapQuery
