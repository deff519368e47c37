import OlapQuery.Proofs.RowOrder
import OlapQuery.Proofs.Statements

-- Sorting that is left to the client, next to what the engine may leave out before. Buckets of
-- time and splits whose keys the client looks up reach the client whole, and it limits them
-- after sorting. Selected rows are cut to the limit by the engine, in an order of its own.

namespace OlapQuery

open Compiled

-- What an engine finds in a table, with timestamps where it reports them. Nothing is known
-- about it but that it is found before anything is cut off.
structure Backend where
  passes : Druid.Scan → Row → Bool
  event : Druid.Select → Row → Row
  buckets : Druid.Timeseries → List Row → List (Json × Row)
  ranked : Druid.TopN → List Row → List (Json × Row)
  groups : Druid.GroupBy → List Row → List (Json × Row)
  bounds : Druid.TimeBoundary → List Row → List (Json × Row)
  rows : Sql.Select → List Row → List (Json × Row)
  ordered : List Sql.OrderBy → List (Json × Row) → List (Json × Row)

namespace Backend

def found (engine : Backend) (table : List Row) : Statement → List (Json × Row)
  | .druid (.timeseries q) => engine.buckets q table
  | .druid (.topN q) => engine.ranked q table
  | .druid (.groupBy q) => engine.groups q table
  | .druid (.select q) =>
      (table.filter (engine.passes q.scan)).map (fun row => (.null,engine.event q row))
  | .druid (.timeBoundary q) => engine.bounds q table
  | .sql _ select =>
      (engine.ordered select.orderBy (engine.rows { select with
        orderBy := [],limit := none,offset := none } table)).drop
          (select.offset.getD 0).toNat

end Backend

def limited (limit : Option UInt64) (rows : List α) : List α :=
  match limit with
  | some n => rows.take n.toNat
  | none => rows

namespace Statement

def wrap : Statement → List (Json × Row) → List Row
  | .druid (.select _),rows =>
      [[("result",.obj [("events",.arr (rows.map fun row => .obj [("event",.obj row.2)]))])]]
  | .druid (.topN _),rows => [[("result",.arr (rows.map fun row => .obj row.2))]]
  | .druid (.groupBy _),rows => rows.map fun row => [("timestamp",row.1),("event",.obj row.2)]
  | .druid _,rows => rows.map fun row => [("timestamp",row.1),("result",.obj row.2)]
  | .sql _ _,rows => rows.map (·.2)

end Statement

namespace Backend

def answer (engine : Backend) (table : List Row) (statement : Statement) : List Row :=
  statement.wrap (limited statement.cap (engine.found table statement))

def whole (engine : Backend) (table : List Row) (statement : Statement) : List Row :=
  statement.wrap (engine.found table statement)

end Backend

namespace PostProcess

-- The rows of an answer, merged where the client merges, but neither sorted nor limited.
def gathered (p : PostProcess) (answer : List Row) : List Row :=
  let rows := (answer.flatMap p.unwrap).map p.clean
  if p.clientKeys.isEmpty then rows else p.regroup rows

theorem apply_gathered (p : PostProcess) (answer : List Row) :
    p.apply answer = p.sortAndLimit (p.gathered answer) := rfl

theorem sortAndLimit_sorted {p : PostProcess} {s : SortBy} (sorts : p.sort = some s)
    (rows : List Row) : p.sortAndLimit rows = limited p.limit (s.sortRows rows) := by
  unfold sortAndLimit
  rw [sorts]
  rfl

theorem unwrap_selected {p : PostProcess} (envelope : p.envelope = .select) (q : Druid.Select)
    (rows : List (Json × Row)) : ((Statement.druid (.select q)).wrap rows).flatMap p.unwrap =
      rows.map fun row => p.stamped (row.2.get? "timestamp") (row.2.erase "timestamp") := by
  have each (row : Json × Row) : p.selectedRow (.obj [("event",.obj row.2)])
      = some (p.stamped (row.2.get? "timestamp") (row.2.erase "timestamp")) := rfl
  have events : p.unwrap [("result",.obj [("events",
        .arr (rows.map fun row => .obj [("event",.obj row.2)]))])]
      = (rows.map fun row => Json.obj [("event",.obj row.2)]).filterMap p.selectedRow := by
    unfold unwrap
    rw [envelope]
    rfl
  simp only [Statement.wrap,List.flatMap_singleton]
  rw [events,List.filterMap_map]
  exact congrFun List.filterMap_eq_map rows

theorem gathered_selected {p : PostProcess} (envelope : p.envelope = .select)
    (unkeyed : p.clientKeys = []) (q : Druid.Select) (rows : List (Json × Row)) (n : Nat) :
    p.gathered ((Statement.druid (.select q)).wrap (rows.take n))
      = (p.gathered ((Statement.druid (.select q)).wrap rows)).take n := by
  unfold gathered
  simp only [unkeyed,List.isEmpty_nil,↓reduceIte,unwrap_selected envelope,List.map_map,
    List.map_take]

end PostProcess

namespace Druid.Planner

theorem clientSort_cases {p : Planner} {plan : Plan} {s : SortBy} (ran : p.plan = .ok plan)
    (sorts : plan.clientSort = some s) :
    (∃ q, plan.query = .select q ∧ q.threshold = p.folded.limit.getD selectThreshold ∧
        plan.clientLimit = none) ∨
      ∃ q, plan.query = .timeseries q ∧ plan.clientLimit = p.folded.limit := by
  cases plan_planned ran with
  | selected _ query threshold _ unlimited => exact .inl ⟨_,query,threshold,unlimited⟩
  | bucketed _ query _ limit => exact .inr ⟨_,query,limit⟩
  | ranked _ _ _ unsorted => exact nomatch unsorted.symm.trans sorts
  | grouped _ _ _ unsorted => exact nomatch unsorted.symm.trans sorts
  | bounded _ _ found =>
      obtain ⟨_,_,-,rfl⟩ := timeBoundary_made found
      cases sorts
  | totalled _ _ _ unsorted => exact nomatch unsorted.symm.trans sorts

end Druid.Planner

-- Nothing that is cut off belongs before what stays.
def Undisturbed (s : SortBy) (limit : Option UInt64) (rows : List Row) : Prop :=
  match limit with
  | some n => ∀ a ∈ rows.take n.toNat,∀ b ∈ rows.drop n.toNat,s.compareRows b a ≠ .lt
  | none => rows.length ≤ Druid.selectThreshold.toNat

theorem sortRows_cut {s : SortBy} {rows : List Row} (limit : Option UInt64)
    (finite : ∀ row ∈ rows,FiniteCell (row.get? s.name)) :
    s.sortRows (rows.take (limit.getD Druid.selectThreshold).toNat)
      = limited limit (s.sortRows rows) ↔ Undisturbed s limit rows := by
  cases limit with
  | some n => exact SortBy.sortRows_take finite n.toNat
  | none =>
      constructor
      · intro same
        have lengths := congrArg List.length same
        simp only [SortBy.sortRows,limited,List.length_mergeSort,List.length_take,
          Option.getD_none] at lengths
        change rows.length ≤ _
        omega
      · intro short
        rw [Option.getD_none,List.take_of_length_le short]
        rfl

-- What the client gets where the sorting is left to it.
structure Sorted (folded : FoldedQuery) (statement : Statement) (post : PostProcess) : Prop where
  isSelect : statement.isSelect = true → post.envelope = .select ∧ post.clientKeys = [] ∧
    statement.cap = some (folded.limit.getD Druid.selectThreshold) ∧ post.limit = none
  other : statement.isSelect = false → statement.cap = none ∧ post.limit = folded.limit

theorem planQuery_sorted {dataset : Dataset} {folded : FoldedQuery} {post post' : PostProcess}
    {query : NativeQuery} {s : SortBy} (unkeyed : post.clientKeys = [])
    (planned : planQuery dataset folded post = .ok (query,post')) (sorts : post'.sort = some s) :
    ∃ statement, planStatement dataset folded = .ok statement ∧ statement.native = query ∧
      Sorted folded statement post' := by
  unfold planQuery at planned
  split at planned
  · rename_i engine
    obtain ⟨plan,ran,planned⟩ := bind_ok.mp planned
    cases pure_ok.mp planned
    have statement : planStatement dataset folded = .ok (.druid plan.query) := by
      unfold planStatement
      rw [engine]
      exact bind_ok.mpr ⟨_,ran,rfl⟩
    refine ⟨_,statement,rfl,?_⟩
    obtain ⟨p,made,chosen⟩ := bind_ok.mp ran
    obtain ⟨rfl,rfl,-⟩ := Druid.Planner.make_parts made
    rcases Druid.Planner.clientSort_cases chosen sorts with ⟨q,is,threshold,unlimited⟩ | ⟨q,is,limit⟩
    · rw [is]
      exact ⟨fun _ => ⟨rfl,unkeyed,congrArg some threshold,unlimited⟩,fun other => (by cases other)⟩
    · rw [is]
      exact ⟨fun select => (by cases select),fun _ => ⟨rfl,limit⟩⟩
  · rename_i engine
    obtain ⟨plan,ran,planned⟩ := bind_ok.mp planned
    cases pure_ok.mp planned
    unfold Sql.plan at ran
    split at ran
    · cases ran
    · rename_i dialect known
      obtain ⟨select,written,text,rest⟩ := Sql.Planner.plan_cases ran
      refine ⟨.sql dialect select,?_,congrArg NativeQuery.sql text.symm,?_⟩
      · unfold planStatement
        split
        · rename_i druid
          exact absurd druid engine
        · rw [known]
          exact bind_ok.mpr ⟨_,written,rfl⟩
      · rcases rest with alone | ⟨keys,-,shared⟩
        · rw [alone.clientSort] at sorts
          cases sorts
        · exact ⟨fun select => (by cases select),
            fun _ => ⟨(Sql.Planner.grouped_plain shared.grouped).2.1,shared.clientLimit⟩⟩

-- The client's rows are the first of all rows in order just when the engine cut nothing off,
-- or nothing that belongs before what it left. The engine is free to cut off only what it
-- selects.
theorem client_sort_whole_iff (engine : Backend) (table : List Row) {dataset : Dataset}
    {folded : FoldedQuery} {query : NativeQuery} {post : PostProcess} {s : SortBy}
    (planned : planQuery dataset folded
      { types := folded.types,splitKeys := folded.splitKeys.map (·.1) } = .ok (query,post))
    (sorts : post.sort = some s) :
    ∃ statement, planStatement dataset folded = .ok statement ∧ statement.native = query ∧
      ((statement.cap = none ∧ post.limit = folded.limit) ↔ statement.isSelect = false) ∧
      ((∀ row ∈ post.gathered (engine.whole table statement),FiniteCell (row.get? s.name)) →
        (post.apply (engine.answer table statement)
            = limited folded.limit (s.sortRows (post.gathered (engine.whole table statement))) ↔
          (statement.isSelect = true →
            Undisturbed s folded.limit (post.gathered (engine.whole table statement))))) := by
  obtain ⟨statement,written,native,sorted⟩ := planQuery_sorted rfl planned sorts
  refine ⟨statement,written,native,⟨?_,sorted.other⟩,?_⟩
  · rintro ⟨uncut,-⟩
    by_contra selects
    obtain ⟨-,-,cut,-⟩ := sorted.isSelect (by simpa using selects)
    rw [cut] at uncut
    cases uncut
  intro finite
  rw [PostProcess.apply_gathered,PostProcess.sortAndLimit_sorted sorts,Backend.answer]
  cases shape : statement.isSelect with
  | false =>
      obtain ⟨uncut,limit⟩ := sorted.other shape
      rw [uncut,limit]
      exact ⟨fun _ selects => (nomatch selects),fun _ => rfl⟩
  | true =>
      obtain ⟨envelope,unkeyed,cut,unlimited⟩ := sorted.isSelect shape
      obtain ⟨q,rfl⟩ : ∃ q, statement = .druid (.select q) := by
        unfold Statement.isSelect at shape
        split at shape
        · exact ⟨_,rfl⟩
        · cases shape
      rw [cut,unlimited]
      change s.sortRows (post.gathered (Statement.wrap _ (List.take _ _))) = _ ↔ _
      rw [PostProcess.gathered_selected envelope unkeyed]
      exact (sortRows_cut folded.limit finite).trans ⟨fun calm _ => calm,fun calm => calm rfl⟩

namespace LastPage

def pages : Dataset :=
  { engine := .druid,source := "pages",allowSelectQueries := true
    attributes := [{ name := "page",type := .string }] }

def byPage : SortBy := { name := "page",direction := .descending }

def asked : FoldedQuery :=
  { mode := .raw,dataName := "data",filter := .bool true,sort := some byPage
    limit := some 1 }

def engine : Backend :=
  { passes := fun _ _ => true,event := fun _ row => row,buckets := fun _ _ => []
    ranked := fun _ _ => [],groups := fun _ _ => [],bounds := fun _ _ => []
    rows := fun _ _ => [],ordered := fun _ rows => rows }

def page (name : String) : Row := [("page",.str name)]

def Gives (table given last : List Row) : Prop :=
  ∃ query post statement, planQuery pages asked
      { types := asked.types,splitKeys := asked.splitKeys.map (·.1) } = .ok (query,post) ∧
    post.sort = some byPage ∧ planStatement pages asked = .ok statement ∧
    statement.native = query ∧ post.apply (engine.answer table statement) = given ∧
    limited asked.limit (byPage.sortRows (post.gathered (engine.whole table statement))) = last

theorem last_page_found : Gives [page "B",page "A"] [page "B"] [page "B"] := by
  have planned : planQuery pages asked
      { types := asked.types,splitKeys := asked.splitKeys.map (·.1) } = .ok (_,_) := rfl
  obtain ⟨statement,written,native,-,exactly⟩ :=
    client_sort_whole_iff engine [page "B",page "A"] planned (s := byPage) rfl
  cases written
  have first : byPage.sortRows [page "B"] = [page "B"] := List.mergeSort_singleton (page "B")
  have whole := (exactly ?_).mpr ?_
  · exact ⟨_,_,_,rfl,rfl,rfl,rfl,first,whole.symm.trans first⟩
  · intro row listed x number
    change row ∈ [page "B",page "A"] at listed
    simp only [List.mem_cons,List.not_mem_nil,or_false] at listed
    rcases listed with rfl | rfl <;> cases number
  · intro _ a early b late
    cases List.mem_singleton.mp (show a ∈ [page "B"] from early)
    cases List.mem_singleton.mp (show b ∈ [page "A"] from late)
    decide

-- The engine leaves the first row of the table, whichever page it is.
theorem last_page_missed : Gives [page "A",page "B"] [page "A"] [page "B"] ∧
    [page "A"] ≠ [page "B"] := by
  refine ⟨⟨_,_,_,rfl,rfl,rfl,rfl,?_,?_⟩,by simp [page]⟩
  · exact List.mergeSort_singleton (page "A")
  · have order : byPage.compareRows (page "A") (page "B") = .gt := by decide
    have sorted : byPage.sortRows [page "A",page "B"] = [page "B",page "A"] := by
      simp [SortBy.sortRows,List.mergeSort,order]
    exact congrArg (List.take 1) sorted

end LastPage

end OlapQuery
