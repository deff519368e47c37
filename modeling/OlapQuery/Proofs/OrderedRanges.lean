import OlapQuery.Proofs.IntervalTexts
import OlapQuery.Proofs.JsonRecords
import OlapQuery.Proofs.LiteralSources
import OlapQuery.Proofs.TimeLifting

-- Filters of which all ranges are in order: times of a clock, from the year 1000 up to the year 3000,
-- and ranges of such times that end no earlier than they start. Common parts of ranges in order are
-- in order, and so are the ranges that end or start a millisecond after a time.

namespace OlapQuery

namespace Time.Instant

-- The times that a clock comes to: past its end a second goes on only in a leap second.
structure Clocked (t : Instant) : Prop where
  nanos : t.nanos < 2000000000
  leap : 1000000000 ≤ t.nanos → t.utcClock.second = 59

theorem Proper.clocked {t : Instant} (proper : t.Proper) : t.Clocked :=
  ⟨proper.nanos,proper.leap⟩

theorem told_clocked {t : Instant} (clocked : t.Clocked) : t.told = t.cut :=
  if_neg fun late => late.2 (clocked.leap late.1)

theorem cut_mono {a b : Instant} (order : a.le b = true) : a.cut.le b.cut = true := by
  rw [le_exact] at order ⊢
  simp only [cut]
  omega

theorem addMillis_clocked {t : Instant} (clocked : t.Clocked) : (t.addMillis 1).Clocked := by
  obtain ⟨nanos,leap⟩ := clocked
  unfold addMillis
  dsimp only
  split
  · rename_i late
    split
    · exact ⟨by dsimp only; omega,fun still => by dsimp only at still; omega⟩
    · exact ⟨by dsimp only; omega,fun _ => leap late⟩
  · split
    · exact ⟨by dsimp only; omega,fun still => by dsimp only at still; omega⟩
    · exact ⟨by dsimp only; omega,fun still => by dsimp only at still; omega⟩

theorem le_addMillis (t : Instant) : t.le (t.addMillis 1) = true := by
  rw [le_exact]
  unfold addMillis
  dsimp only
  split
  · split <;> dsimp only <;> omega
  · split <;> dsimp only <;> omega

theorem le_trans {a b c : Instant} (first : a.le b = true) (second : b.le c = true) :
    a.le c = true := by
  rw [le_exact] at *
  omega

-- Where a range with an open end may start, and where one with an open start may end.
structure Starts (t : Instant) : Prop where
  clocked : t.Clocked
  late : t.cut.le lastTime = true

structure Ends (t : Instant) : Prop where
  clocked : t.Clocked
  early : firstTime.le t.cut = true

-- A time of a clock before the last one, and not before the first.
structure Within (t : Instant) : Prop where
  clocked : t.Clocked
  early : firstTime.le t = true
  late : lastTime.le t = false

section Bounds
variable {t : Instant} (within : t.Within)
include within

theorem Within.starts : t.Starts := by
  obtain ⟨clocked,-,late⟩ := within
  refine ⟨clocked,?_⟩
  rw [le_false] at late
  rw [le_exact]
  simp only [cut,lastTime] at *
  omega

theorem Within.ends : t.Ends :=
  ⟨within.clocked,cut_mono within.early⟩

theorem Within.next_starts : (t.addMillis 1).Starts := by
  obtain ⟨clocked,-,late⟩ := within
  refine ⟨addMillis_clocked clocked,?_⟩
  have bound := clocked.nanos
  rw [le_false] at late
  rw [le_exact]
  unfold addMillis cut
  simp only [lastTime] at *
  split
  · split <;> dsimp only <;> omega
  · split <;> dsimp only <;> omega

theorem Within.next_ends : (t.addMillis 1).Ends :=
  ⟨addMillis_clocked within.clocked,cut_mono (le_trans within.early (le_addMillis t))⟩

end Bounds

end Time.Instant

open Time (Instant)
open Druid

namespace TimeRange

structure Inside (r : TimeRange) : Prop where
  start : ∀ s ∈ r.start, s.Starts
  finish : ∀ f ∈ r.finish, f.Ends
  order : ∀ s ∈ r.start, ∀ f ∈ r.finish, s.le f = true

theorem Inside.ordered {r : TimeRange} (inside : r.Inside) : r.Ordered := by
  obtain ⟨start,finish,order⟩ := inside
  refine ⟨fun t bound => (start t bound).clocked.nanos,
    fun t bound => (finish t bound).clocked.nanos,?_⟩
  obtain ⟨first,last⟩ := r
  cases first with
  | none =>
      cases last with
      | none => rfl
      | some f =>
          obtain ⟨clocked,early⟩ := finish f rfl
          simpa [Instant.told_clocked clocked] using early
  | some s =>
      obtain ⟨clocked,late⟩ := start s rfl
      cases last with
      | none => simpa [Instant.told_clocked clocked] using late
      | some f =>
          have ends := (finish f rfl).clocked
          simpa [Instant.told_clocked clocked,Instant.told_clocked ends] using
            Instant.cut_mono (order s rfl f rfl)

theorem combine_either {choose : Instant → Instant → Instant}
    (either : ∀ a b, choose a b = a ∨ choose a b = b) {a b : Option Instant} {t : Instant}
    (bound : t ∈ combine choose a b) : t ∈ a ∨ t ∈ b := by
  unfold combine at bound
  split at bound
  · rename_i s u
    cases bound
    rcases either s u with is | is <;> simp [is]
  · exact .inl bound
  · exact .inr bound

theorem intersect_parts {a b r : TimeRange} (met : a.intersect b = some r) :
    r = { start := combine Instant.max a.start b.start
          finish := combine Instant.min a.finish b.finish } ∧
      ∀ s ∈ r.start, ∀ f ∈ r.finish, f.le s = false := by
  unfold intersect at met
  dsimp only at met
  split at met
  · rename_i s f first last
    obtain ⟨apart,equal⟩ := Option.ite_none_left_eq_some.mp met
    cases equal
    refine ⟨rfl,fun u starts v ends => ?_⟩
    cases first.symm.trans starts
    cases last.symm.trans ends
    simpa using apart
  · rename_i unbounded
    cases met
    exact ⟨rfl,fun s starts f ends => (unbounded s f starts ends).elim⟩

theorem intersect_inside {a b r : TimeRange} (left : a.Inside) (right : b.Inside)
    (met : a.intersect b = some r) : r.Inside := by
  obtain ⟨parts,apart⟩ := intersect_parts met
  have order : ∀ s ∈ r.start, ∀ f ∈ r.finish, s.le f = true := by
    intro s starts f ends
    have apart := apart s starts f ends
    rw [Instant.le_false] at apart
    rw [Instant.le_exact]
    omega
  subst parts
  refine ⟨fun s bound => ?_,fun f bound => ?_,order⟩
  · have either : ∀ a b : Instant, a.max b = a ∨ a.max b = b := fun a b => by
      unfold Instant.max
      split <;> simp
    exact (combine_either either bound).elim (left.start s) (right.start s)
  · have either : ∀ a b : Instant, a.min b = a ∨ a.min b = b := fun a b => by
      unfold Instant.min
      split <;> simp
    exact (combine_either either bound).elim (left.finish f) (right.finish f)

theorem instant_inside {t : Instant} (within : t.Within) : (TimeRange.instant t).Inside := by
  refine ⟨?_,?_,?_⟩
  · rintro s ⟨⟩; exact within.starts
  · rintro f ⟨⟩; exact within.next_ends
  · rintro s ⟨⟩ f ⟨⟩; exact Instant.le_addMillis t

theorem from_inside {t : Instant} (starts : t.Starts) :
    ({ start := some t,finish := none } : TimeRange).Inside :=
  ⟨fun _ is => Option.some.inj is ▸ starts,nofun,fun _ _ => nofun⟩

theorem until_inside {t : Instant} (ends : t.Ends) :
    ({ start := none,finish := some t } : TimeRange).Inside :=
  ⟨nofun,fun _ is => Option.some.inj is ▸ ends,nofun⟩

end TimeRange

def Value.WithinHere : Value → Prop
  | .time t => t.Within
  | .timeRange r => r.Inside
  | _ => True

def Value.Within : Value → Prop
  | .set _ elements => ∀ v ∈ elements, v.WithinHere
  | v => v.WithinHere

theorem Value.within_boolean (b : Bool) : (Value.boolean b).Within :=
  trivial

def Expr.Within (e : Expr) : Prop :=
  e.Literals Value.Within

namespace TimeFilter

theorem elementRange_inside {v : Value} {r : TimeRange} (within : v.WithinHere)
    (made : elementRange? v = some r) : r.Inside := by
  unfold elementRange? at made
  split at made
  · cases made; exact within
  · cases made; exact TimeRange.instant_inside within
  · cases made

theorem literalRanges_inside {op : BinaryOp} {v : Value} {ranges : List TimeRange}
    (within : v.Within) (found : literalRanges? op v = some ranges) : ∀ r ∈ ranges, r.Inside := by
  unfold literalRanges? at found
  split at found
  case h_2 =>
      intro r listed
      obtain ⟨v,member,made⟩ := Json.mem_mapM found r listed
      exact elementRange_inside (within v member) made
  case h_8 => cases found
  all_goals
    cases found
    rw [List.forall_mem_singleton]
  case h_1 => exact within
  case h_3 => exact TimeRange.instant_inside within
  case h_4 => exact TimeRange.from_inside (Instant.Within.next_starts within)
  case h_5 => exact TimeRange.from_inside (Instant.Within.starts within)
  case h_6 => exact TimeRange.until_inside (Instant.Within.ends within)
  case h_7 => exact TimeRange.until_inside (Instant.Within.next_ends within)

theorem clauseRanges_inside {column : String} {clause : Expr} {ranges : List TimeRange}
    (within : clause.Within) (found : clauseRanges? column clause = some ranges) :
    ∀ r ∈ ranges, r.Inside := by
  unfold clauseRanges? at found
  split at found
  · rename_i value
    exact literalRanges_inside (within value (by simp [Expr.nodes]))
      (Option.ite_none_right_eq_some.mp found).2
  · cases found

-- What the clauses taken into account so far leave.
structure LeavesInside (state : Option (List TimeRange) × List Expr) : Prop where
  ranges : ∀ r ∈ state.1.getD [], r.Inside
  rest : ∀ e ∈ state.2, e.Within

theorem addClause_inside {column : String} {state : Option (List TimeRange) × List Expr}
    {clause : Expr} (before : LeavesInside state) (within : clause.Within) :
    LeavesInside (addClause column state clause) := by
  obtain ⟨intervals,rest⟩ := state
  obtain ⟨inside,others⟩ := before
  unfold addClause
  split
  · rename_i found _
    exact ⟨clauseRanges_inside within found,others⟩
  · rename_i ranges current found given
    cases given
    refine ⟨fun r listed => ?_,others⟩
    obtain ⟨a,left,listed⟩ := List.mem_flatMap.mp listed
    obtain ⟨b,right,met⟩ := List.mem_filterMap.mp listed
    exact TimeRange.intersect_inside (inside a left) (clauseRanges_inside within found b right) met
  · exact ⟨inside,List.forall_mem_append.mpr ⟨others,List.forall_mem_singleton.mpr within⟩⟩

theorem split_inside {filter : Expr} (within : filter.Within) (column : Option String) :
    (∀ r ∈ (split filter column).intervals.getD [], r.Inside) ∧ (split filter column).rest.Within := by
  cases column with
  | none => exact ⟨nofun,within⟩
  | some column =>
      have each : ∀ c ∈ clauses filter, c.Within := by
        unfold clauses
        split
        · exact (Expr.literals_junction .and _).mp within
        · exact List.forall_mem_singleton.mpr within
      have run : ∀ (clauses : List Expr) (state), (∀ c ∈ clauses, c.Within) → LeavesInside state →
          LeavesInside (clauses.foldl (addClause column) state) := by
        intro clauses
        induction clauses with
        | nil => exact fun state _ before => before
        | cons clause rest ih =>
            intro state each before
            obtain ⟨first,later⟩ := List.forall_mem_cons.mp each
            exact ih _ later (addClause_inside before first)
      rw [split_parts]
      obtain ⟨ranges,rest⟩ := run (clauses filter) (none,[]) each ⟨nofun,nofun⟩
      exact ⟨ranges,Expr.andAll_literals Value.within_boolean rest⟩

end TimeFilter

end OlapQuery
