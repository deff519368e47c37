import OlapQuery.Proofs.Checked
import OlapQuery.Proofs.PlainRows
import OlapQuery.TimeFilter

-- Conditions on the time column taken out of a filter. Ranges end before an instant, so a
-- condition that includes or excludes one instant is put into ranges by the next millisecond;
-- that is exact where times are counted in milliseconds.

namespace OlapQuery

namespace Time.Instant

-- On a millisecond; this may be one inside a leap second.
def OnMillis (t : Instant) : Prop :=
  t.nanos % 1000000 = 0 ∧ t.nanos < 2000000000

-- A whole number of milliseconds since 1970. An instant inside a leap second has no number of
-- its own: the count gives it that of the second after.
def IsMillis (t : Instant) : Prop :=
  t.nanos % 1000000 = 0 ∧ t.nanos < 1000000000

theorem le_exact {a b : Instant} :
    a.le b = true ↔ a.seconds < b.seconds ∨ (a.seconds = b.seconds ∧ a.nanos ≤ b.nanos) := by
  simp [le]

theorem le_false {a b : Instant} :
    a.le b = false ↔ b.seconds < a.seconds ∨ (b.seconds = a.seconds ∧ b.nanos < a.nanos) := by
  rw [← Bool.not_eq_true,le_exact]
  omega

theorem eq_exact {a b : Instant} : a = b ↔ a.le b = true ∧ b.le a = true := by
  constructor
  · rintro rfl; simp [le]
  · obtain ⟨s,n⟩ := a
    obtain ⟨s',n'⟩ := b
    rw [le_exact,le_exact]
    simp only [mk.injEq]
    omega

theorem max_le {a b t : Instant} : (max a b).le t = true ↔ a.le t = true ∧ b.le t = true := by
  unfold max
  split
  · rename_i order; rw [le_exact] at order; rw [le_exact,le_exact]; omega
  · rename_i order; rw [Bool.not_eq_true,le_false] at order; rw [le_exact,le_exact]; omega

theorem min_le {a b t : Instant} : (min a b).le t = false ↔ a.le t = false ∧ b.le t = false := by
  unfold min
  split
  · rename_i order; rw [le_exact] at order; rw [le_false,le_false]; omega
  · rename_i order; rw [Bool.not_eq_true,le_false] at order; rw [le_false,le_false]; omega

-- No count of milliseconds lies between an instant on a millisecond and the next one.
theorem next_le {u t : Instant} (literal : u.OnMillis) (counted : t.IsMillis) :
    (u.addMillis 1).le t = true ↔ t.le u = false := by
  obtain ⟨onMillis,inSecond⟩ := literal
  obtain ⟨whole,noLeap⟩ := counted
  rw [le_exact,le_false]
  unfold addMillis
  dsimp only
  split
  · split <;> dsimp only <;> omega
  · split <;> dsimp only <;> omega

end Time.Instant

open Time (Instant)

namespace TimeRange

theorem contains_exact {r : TimeRange} {t : Instant} :
    r.contains t = true ↔
      (∀ s, r.start = some s → s.le t = true) ∧ ∀ e, r.finish = some e → e.le t = false := by
  obtain ⟨start,finish⟩ := r
  cases start <;> cases finish <;> simp [contains]

theorem combine_max {a b : Option Instant} {t : Instant} :
    (∀ s, combine Instant.max a b = some s → s.le t = true) ↔
      (∀ s, a = some s → s.le t = true) ∧ ∀ s, b = some s → s.le t = true := by
  cases a <;> cases b <;> simp [combine,Instant.max_le]

theorem combine_min {a b : Option Instant} {t : Instant} :
    (∀ e, combine Instant.min a b = some e → e.le t = false) ↔
      (∀ e, a = some e → e.le t = false) ∧ ∀ e, b = some e → e.le t = false := by
  cases a <;> cases b <;> simp [combine,Instant.min_le]

theorem contains_inverted {s e t : Instant} (inverted : e.le s = true) :
    contains { start := some s,finish := some e } t = false := by
  rw [← Bool.not_eq_true,contains_exact]
  rintro ⟨early,late⟩
  have early := early s rfl
  have late := late e rfl
  rw [Instant.le_exact] at inverted early
  rw [Instant.le_false] at late
  omega

theorem contains_intersect {a b : TimeRange} {t : Instant} :
    (∃ r, a.intersect b = some r ∧ r.contains t = true) ↔
      a.contains t = true ∧ b.contains t = true := by
  have common :
      contains ⟨combine Instant.max a.start b.start,combine Instant.min a.finish b.finish⟩ t = true ↔
        a.contains t = true ∧ b.contains t = true := by
    rw [contains_exact,contains_exact,contains_exact,combine_max,combine_min]
    exact and_and_and_comm
  rw [← common]
  unfold intersect
  dsimp only
  split
  · rename_i s e foundStart foundFinish
    rw [foundStart,foundFinish]
    split
    · rename_i inverted; simp [contains_inverted inverted]
    · simp
  · simp

end TimeRange

-- The literals of an expression that are instants, alone or in a set, are on a millisecond.
-- The bounds of ranges may be any instants.
def Value.OnMillis : Value → Prop
  | .time t => t.OnMillis
  | .set _ elements => ∀ t, .time t ∈ elements → t.OnMillis
  | _ => True

def Expr.OnMillis (e : Expr) : Prop :=
  ∀ v, .literal v ∈ e.nodes → v.OnMillis

namespace TimeFilter

-- Some range of a list holds the instant; without a list, every instant will do.
def Admits (t : Instant) : Option (List TimeRange) → Prop
  | none => True
  | some ranges => ∃ r ∈ ranges, r.contains t = true

theorem instant_contains {u t : Instant} (literal : u.OnMillis) (counted : t.IsMillis) :
    (TimeRange.instant u).contains t = true ↔ t = u := by
  have next := Instant.next_le literal counted
  have excluded : (u.addMillis 1).le t = false ↔ t.le u = true := by
    rw [← Bool.not_eq_true,next,Bool.not_eq_false]
  rw [TimeRange.contains_exact,Instant.eq_exact,← excluded]
  simp [TimeRange.instant,and_comm]

theorem elements_contain {t : Instant} (counted : t.IsMillis) {elements : List Value}
    {ranges : List TimeRange} (found : elements.mapM elementRange? = some ranges)
    (literals : ∀ u, .time u ∈ elements → u.OnMillis) :
    (∃ v ∈ elements, v = .time t ∨ ∃ r, v = .timeRange r ∧ r.contains t = true) ↔
      ∃ r ∈ ranges, r.contains t = true := by
  induction elements generalizing ranges with
  | nil =>
      simp only [List.mapM_nil,Option.pure_def,Option.some.injEq] at found
      subst ranges; simp
  | cons v rest ih =>
      simp only [List.mapM_cons,Option.bind_eq_bind,Option.bind_eq_some_iff,Option.pure_def,
        Option.some.injEq] at found
      obtain ⟨first,element,others,tail,rfl⟩ := found
      have later := ih tail (fun u member => literals u (List.mem_cons_of_mem _ member))
      simp only [List.mem_cons,exists_eq_or_imp,later]
      refine or_congr_left ?_
      cases v with
      | timeRange r => cases element; simp
      | time u =>
          cases element
          rw [instant_contains (literals u List.mem_cons_self) counted]
          simp only [Value.time.injEq,reduceCtorEq,false_and,exists_false,or_false]
          exact eq_comm
      | _ => cases element

section
variable {ρ : Type u} {S : Reading ρ} {row : ρ} {column : String} {t : Instant}

theorem ranges_exact (reads : S.ReadsTime row column t) (counted : t.IsMillis) {op : BinaryOp}
    {value : Value} {ranges : List TimeRange} (literal : value.OnMillis)
    (found : literalRanges? op value = some ranges) :
    S.holds row (.binary op (.ref column) (.literal value)) ↔ ∃ r ∈ ranges, r.contains t = true := by
  have next := fun {u : Instant} (onMillis : u.OnMillis) => Instant.next_le onMillis counted
  unfold literalRanges? at found
  split at found
  · cases found; simpa using reads.inRange _
  · rw [← elements_contain counted found literal]; exact reads.inSet _ _
  · cases found
    rw [reads.is]
    simpa using (instant_contains literal counted).symm
  · cases found
    rw [reads.greaterThan,← next literal]
    simp [TimeRange.contains]
  · cases found
    rw [reads.greaterThanOrEqual]
    simp [TimeRange.contains]
  · cases found
    rw [reads.lessThan]
    simp [TimeRange.contains]
  · cases found
    rw [reads.lessThanOrEqual,← Bool.not_eq_false,← next literal]
    simp [TimeRange.contains]
  · cases found

theorem clause_exact (reads : S.ReadsTime row column t) (counted : t.IsMillis) {clause : Expr}
    {ranges : List TimeRange} (literals : clause.OnMillis)
    (found : clauseRanges? column clause = some ranges) :
    S.holds row clause ↔ ∃ r ∈ ranges, r.contains t = true := by
  unfold clauseRanges? at found
  split at found
  · rename_i op name value
    split at found
    · rename_i same
      cases beq_iff_eq.mp same
      exact ranges_exact reads counted (literals value (by simp [Expr.nodes])) found
    · cases found
  · cases found

theorem intersectAll_exact {a b : List TimeRange} :
    (∃ r ∈ intersectAll a b, r.contains t = true) ↔
      (∃ r ∈ a, r.contains t = true) ∧ ∃ r ∈ b, r.contains t = true := by
  simp only [intersectAll,List.mem_flatMap,List.mem_filterMap]
  constructor
  · rintro ⟨r,⟨x,left,y,right,met⟩,holds⟩
    obtain ⟨inLeft,inRight⟩ := TimeRange.contains_intersect.mp ⟨r,met,holds⟩
    exact ⟨⟨x,left,inLeft⟩,y,right,inRight⟩
  · rintro ⟨⟨x,left,inLeft⟩,y,right,inRight⟩
    obtain ⟨r,met,holds⟩ := TimeRange.contains_intersect.mpr ⟨inLeft,inRight⟩
    exact ⟨r,⟨x,left,y,right,met⟩,holds⟩

-- What the clauses taken into account so far ask of the row.
def Asks (S : Reading ρ) (row : ρ) (t : Instant) (state : Option (List TimeRange) × List Expr) : Prop :=
  Admits t state.1 ∧ ∀ e ∈ state.2, S.holds row e

theorem addClause_asks (reads : S.ReadsTime row column t) (counted : t.IsMillis) {clause : Expr}
    (literals : clause.OnMillis) (state : Option (List TimeRange) × List Expr) :
    Asks S row t (addClause column state clause) ↔ Asks S row t state ∧ S.holds row clause := by
  obtain ⟨intervals,rest⟩ := state
  unfold addClause
  split
  · rename_i ranges found none
    simp only at none
    rw [clause_exact reads counted literals found,none]
    simp [Asks,Admits,and_comm]
  · rename_i ranges current found some
    simp only at some
    rw [clause_exact reads counted literals found,some]
    simp only [Asks,Admits,intersectAll_exact]
    exact and_right_comm
  · simp only [Asks,List.forall_mem_append,List.forall_mem_singleton]
    exact and_assoc.symm

theorem clauses_asks (reads : S.ReadsTime row column t) (counted : t.IsMillis)
    (clauses : List Expr) (literals : ∀ c ∈ clauses, c.OnMillis)
    (state : Option (List TimeRange) × List Expr) :
    Asks S row t (clauses.foldl (addClause column) state) ↔
      Asks S row t state ∧ ∀ c ∈ clauses, S.holds row c := by
  induction clauses generalizing state with
  | nil => simp
  | cons clause rest ih =>
      rw [List.foldl_cons,ih (fun c member => literals c (List.mem_cons_of_mem _ member)),
        addClause_asks reads counted (literals clause List.mem_cons_self),List.forall_mem_cons,
        and_assoc]

theorem split_parts (filter : Expr) (column : String) :
    split filter (some column) =
      { intervals := ((clauses filter).foldl (addClause column) (none,[])).1
        rest := .andAll ((clauses filter).foldl (addClause column) (none,[])).2 } :=
  rfl

theorem holds_clauses (S : Reading ρ) (row : ρ) (filter : Expr) :
    S.holds row filter ↔ ∀ c ∈ clauses filter, S.holds row c := by
  unfold clauses
  split
  · exact S.holds_and row _
  · simp

theorem clauses_onMillis {filter : Expr} (literals : filter.OnMillis) :
    ∀ c ∈ clauses filter, c.OnMillis := by
  unfold clauses
  split
  · rename_i operands
    intro c member v inClause
    apply literals v
    simp only [Expr.nodes,Expr.nodesAll_flatMap,List.mem_cons,List.mem_flatMap]
    exact .inr ⟨c,member,inClause⟩
  · intro c member
    rw [List.mem_singleton.mp member]
    exact literals

end

-- A row satisfies a filter exactly when its time lies in one of the ranges that were taken out
-- and the row satisfies the rest. No list of ranges means no condition on the time; an empty
-- list is one that no time meets. The time of a row is a count of milliseconds, in which the
-- engines keep times; a literal may be an instant inside a leap second, which no row has. Taking
-- apart goes on unless a range would have to end after the calendar does.
theorem lifted_exact (S : Reading ρ) (row : ρ) (column : String) (t : Instant) (filter : Expr)
    (reads : S.ReadsTime row column t) (counted : t.IsMillis) (literals : filter.OnMillis) :
    (∀ lifted, lift filter (some column) = .ok lifted ↔ lifted = split filter (some column) ∧
      ∀ c ∈ clauses filter, ∀ u ∈ clauseEdges column c, (u.addMillis 1).inCalendar = true) ∧
    (S.holds row filter ↔
      Admits t (split filter (some column)).intervals ∧
        S.holds row (split filter (some column)).rest) := by
  refine ⟨fun lifted => ?_,?_⟩
  · rw [lift_ok,and_comm]
    refine and_congr_right fun _ => ?_
    simp only [Option.mem_def,Option.some.injEq,forall_eq',clauseRanges_ok,and_true,
      Instant.next_ok]
  · rw [split_parts,S.holds_andAll,holds_clauses]
    have run := clauses_asks reads counted (clauses filter) (clauses_onMillis literals) (none,[])
    simpa [Asks,Admits] using run.symm

def lastMillis : Instant := ⟨1426118399,999000000⟩
def nextSecond : Instant := ⟨1426118400,0⟩

-- After the one, and the other or up to a day before.
def secondStarts : Expr :=
  .and [.greaterThan (.ref "time") (.literal (.time lastMillis)),
    .is (.ref "page") (.literal (.string "start")),
    .member (.ref "time") (.literal (.set .time
      [.time nextSecond,.timeRange ⟨some ⟨1426032000,0⟩,some lastMillis⟩]))]

def startPage : Plain.Record
  | "time" => .time nextSecond
  | _ => .text "start"

theorem lifted_second_starts :
    Plain.reading.holds startPage secondStarts ∧
      lift secondStarts (some "time") = .ok (split secondStarts (some "time")) ∧
      Admits nextSecond (split secondStarts (some "time")).intervals ∧
        Plain.reading.holds startPage (split secondStarts (some "time")).rest := by
  have literals : secondStarts.OnMillis := by
    intro v member
    simp only [secondStarts,Expr.nodes,Expr.nodesAll,List.mem_cons,List.mem_append,
      List.not_mem_nil,or_false,false_or,reduceCtorEq,Expr.literal.injEq] at member
    rcases member with rfl | rfl | rfl
    · exact ⟨by decide,by decide⟩
    · trivial
    · intro t inSet
      simp only [List.mem_cons,Value.time.injEq,reduceCtorEq,List.not_mem_nil,or_false] at inSet
      subst inSet
      exact ⟨by decide,by decide⟩
  obtain ⟨goes,exactly⟩ := lifted_exact Plain.reading.toReading startPage "time" nextSecond secondStarts
    (Plain.reads_time rfl) ⟨by decide,by decide⟩ literals
  have held : Plain.reading.holds startPage secondStarts := by
    show Plain.holds startPage secondStarts = true
    decide
  have edges : ∀ c ∈ clauses secondStarts, ∀ u ∈ clauseEdges "time" c,
      (u.addMillis 1).inCalendar = true := by decide
  exact ⟨held,(goes _).mpr ⟨rfl,edges⟩,exactly.mp held⟩

end TimeFilter

end OlapQuery
