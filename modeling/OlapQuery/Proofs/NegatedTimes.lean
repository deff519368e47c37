import Mathlib.Algebra.Field.Rat
import Mathlib.Algebra.Order.Ring.Rat
import Mathlib.Tactic.Linarith
import Mathlib.Tactic.Ring
import OlapQuery.Proofs.Checked
import OlapQuery.Proofs.LooseTimes
import OlapQuery.Proofs.SqlConditions
import OlapQuery.Sql.Plan

-- A condition on the time and its negation. On its own the condition becomes a range of whole
-- milliseconds, but behind a negation it stays a comparison with the one instant of the literal.
-- Between that instant and the next millisecond the two are no longer opposites.

namespace OlapQuery

namespace Time.Instant

variable {t : Instant}

-- The instant as a timestamp shows it, with the rest of its millisecond cut off.
def cut (t : Instant) : Instant :=
  { t with nanos := t.nanos / 1000000 * 1000000 }

def unixSeconds (t : Instant) : ℚ :=
  t.seconds + t.nanos / 1000000000

theorem cut_proper (proper : t.Proper) : t.cut.Proper := by
  obtain ⟨known,bound,leap⟩ := proper
  refine ⟨known,Nat.lt_of_le_of_lt (Nat.div_mul_le_self _ _) bound,fun late => ?_⟩
  exact leap (Nat.le_trans late (Nat.div_mul_le_self _ _))

-- A millisecond later, unless a leap second is going on.
theorem cut_next (plain : t.nanos < 1000000000) :
    (t.addMillis 1).cut.unixSeconds = t.cut.unixSeconds + 1 / 1000 := by
  have whole : t.nanos / 1000000 < 1000 := by omega
  unfold addMillis
  dsimp only
  rw [if_neg (by omega)]
  split
  · have last : t.nanos / 1000000 = 999 := by omega
    have first : (t.nanos + 1 * 1000000 - 1000000000) / 1000000 = 0 := by omega
    simp only [cut,unixSeconds,last,first]
    push_cast
    ring
  · have next : (t.nanos + 1 * 1000000) / 1000000 = t.nanos / 1000000 + 1 := by omega
    simp only [cut,unixSeconds,next]
    push_cast
    ring

theorem cut_shown (t : Instant) : t.cut.utcClock.shownSecond
    = (t.utcClock.shownSecond.1,t.utcClock.shownSecond.2 / 1000000 * 1000000) := by
  have second : t.cut.utcClock.second = t.utcClock.second := rfl
  have nanos : t.cut.utcClock.nanos = t.utcClock.nanos / 1000000 * 1000000 := rfl
  unfold LocalTime.shownSecond
  by_cases leap : t.utcClock.nanos ≥ 1000000000
  · rw [if_pos leap,if_pos (by omega),second,nanos]
    exact Prod.ext rfl (by simp only []; omega)
  · rw [if_neg leap,if_neg (by omega),second,nanos]

theorem parseLoose_millis {mark : Char} (proper : t.Proper) (parts : isDateTimeMark mark = true) :
    parseLoose? (String.ofList (t.clockChars mark
      ('.' :: (padLeft 3 (t.utcClock.shownSecond.2 / 1000000)).toList))) = some t.cut := by
  have small : t.utcClock.shownSecond.2 / 1000000 < 10 ^ 3 := by
    have short := (shownSecond_bounds proper).2
    omega
  have second : t.cut.utcClock.shownSecond.1 = t.utcClock.shownSecond.1 := by rw [cut_shown]
  have same (fraction : List Char) : t.clockChars mark fraction = t.cut.clockChars mark fraction := by
    simp only [clockChars,second]
    rfl
  rw [same]
  refine parseLoose_clock (cut_proper proper) parts ?_
  rw [cut_shown]
  simpa using takeFraction_padLeft (by decide) (by decide) small

end Time.Instant

namespace Sql

open Time (Instant)

section Clock

variable {d : Dialect} {t : Instant}

-- Engines take a timestamp without a zone for one of Greenwich.
def Dialect.zoneMark (d : Dialect) : List Char :=
  match d.family with
  | .presto => []
  | .bigQuery => []
  | .postgres => ['Z']
  | .mySql => ['Z']

def Dialect.readMoment? (d : Dialect) (text : List Char) : Option Instant :=
  Instant.parseLoose? (String.ofList (text ++ d.zoneMark))

theorem momentText_read (proper : t.Proper) :
    d.readMoment? (d.momentText t).toList = some t.cut := by
  have shown : ∃ mark, Time.isDateTimeMark mark = true ∧
      (d.momentText t).toList ++ d.zoneMark = t.clockChars mark
        ('.' :: (Time.padLeft 3 (t.utcClock.shownSecond.2 / 1000000)).toList) := by
    unfold Dialect.momentText Dialect.zoneMark
    cases d.family
    · exact ⟨'T',rfl,by simp [Instant.millisText,Time.LocalTime.textWithFraction,Time.dateText,
        Instant.clockChars]⟩
    · exact ⟨'T',rfl,by simp [Instant.millisText,Time.LocalTime.textWithFraction,Time.dateText,
        Instant.clockChars]⟩
    · exact ⟨' ',rfl,by simp [Dialect.naiveTimestamp,Time.dateText,Instant.clockChars]⟩
    · exact ⟨' ',rfl,by simp [Dialect.naiveTimestamp,Time.dateText,Instant.clockChars]⟩
  obtain ⟨mark,parts,text⟩ := shown
  rw [Dialect.readMoment?,text,Instant.parseLoose_millis proper parts]

end Clock

def Comparison.operator : Comparison → BinaryOp
  | .equal => .is
  | .less => .lessThan
  | .atMost => .lessThanOrEqual
  | .greater => .greaterThan
  | .atLeast => .greaterThanOrEqual

-- A time compared with a literal, or looked for in a range.
inductive TimeTest where
  | against (op : Comparison) (t : Instant)
  | within (range : TimeRange)
  deriving DecidableEq, Repr

namespace TimeTest

def expr (column : String) : TimeTest → Expr
  | .against op t => .binary op.operator (.ref column) (.literal (.time t))
  | .within range => .binary .member (.ref column) (.literal (.timeRange range))

def range : TimeTest → TimeRange
  | .against .equal t => .instant t
  | .against .less t => { start := none,finish := some t }
  | .against .atMost t => { start := none,finish := some (t.addMillis 1) }
  | .against .greater t => { start := some (t.addMillis 1),finish := none }
  | .against .atLeast t => { start := some t,finish := none }
  | .within range => range

-- The literal, where the range takes its whole millisecond in or leaves it out.
def edge? : TimeTest → Option Instant
  | .against .less _ => none
  | .against .atLeast _ => none
  | .against _ t => some t
  | .within _ => none

-- The millisecond after the literal is in the calendar, where it is asked for.
def Ends (test : TimeTest) : Prop :=
  ∀ t ∈ test.edge?, (t.addMillis 1).inCalendar = true

end TimeTest

section Conditions

variable {column : String}

def inRange (d : Dialect) (column : String) (range : TimeRange) : Condition :=
  let start (s : Instant) : Condition := .compare .atMost (d.momentOf s) (.column column.toList)
  let finish (e : Instant) : Condition := .compare .less (.column column.toList) (d.momentOf e)
  match range.start,range.finish with
  | none,none => .constant true
  | some s,none => start s
  | none,some e => finish e
  | some s,some e => .both (start s) (finish e)

def TimeTest.compared (d : Dialect) (column : String) : TimeTest → Condition
  | .against op t => .compare op (.column column.toList) (d.momentOf t)
  | .within range => inRange d column range

variable {r : Renderer}

theorem timeRange_denotes (range : TimeRange) :
    Denotes r.dialect (r.timeRange (r.identifier column) range)
      (inRange r.dialect column range) := by
  have name : Spells r.dialect (r.identifier column)
      (Operand.tokens r.dialect (.column column.toList)) := .identifier column
  have start (s : Instant) := denotes_compare .atMost (.timestamp s) name
  have finish (e : Instant) := denotes_compare .less name (.timestamp e)
  obtain ⟨low,high⟩ := range
  cases low with
  | none =>
      cases high with
      | none => exact denotes_constant true
      | some e => exact (finish e).alone.grouped
  | some s =>
      cases high with
      | none => exact (start s).alone.grouped
      | some e => exact ((start s).and (finish e).alone).grouped

theorem expr_denotes {a : Attribute} (declared : r.dataset.attribute? column = some a)
    (test : TimeTest) : ∃ text, r.render (test.expr column) = .ok text ∧
      Denotes r.dialect text (test.compared r.dialect column) := by
  have name : Spells r.dialect (r.identifier column)
      (Operand.tokens r.dialect (.column column.toList)) := .identifier column
  have known : r.reference column = .ok (r.identifier column) := by
    simp only [Renderer.reference,declared]
  cases test with
  | against op t =>
      have literal : Spells r.dialect _ _ := .timestamp t
      refine ⟨_,?_,(denotes_compare op name literal).alone.grouped⟩
      have written : r.render (TimeTest.expr column (.against op t))
          = .ok ("(" ++ r.identifier column ++ String.ofList op.mark
            ++ r.dialect.timeToSql (some t) ++ ")") := by
        simp only [TimeTest.expr,Renderer.render,Renderer.rendered,known]
        cases op with
        | equal =>
            change Except.ok (Dialect.isNotDistinctFrom (r.identifier column) _) = _
            rw [Dialect.isNotDistinctFrom,operand_present name,operand_present literal]
            rfl
        | _ => rfl
      simpa only [String.append_assoc] using written
  | within range =>
      refine ⟨_,?_,timeRange_denotes range⟩
      simp only [TimeTest.expr,Renderer.render,Renderer.rendered,known]
      rfl

end Conditions

section Order

variable {T : Type u} [LinearOrder T] {d : Dialect} {column : String} {test : TimeTest}
  {moment row : List Char → T}

-- The text of the next millisecond stands for a later moment than that of the literal.
def TimeTest.Apart (d : Dialect) (moment : List Char → T) (test : TimeTest) : Prop :=
  ∀ t ∈ test.edge?, moment (d.momentText t).toList < moment (d.momentText (t.addMillis 1)).toList

-- After the literal, but before the next millisecond.
def TimeTest.Between (d : Dialect) (moment : List Char → T) (test : TimeTest) (x : T) : Prop :=
  ∃ t ∈ test.edge?, moment (d.momentText t).toList < x ∧
    x < moment (d.momentText (t.addMillis 1)).toList

theorem range_exact (apart : test.Apart d moment) :
    ((inRange d column test.range).holds moment row ↔ (test.compared d column).holds moment row) ↔
      ¬ test.Between d moment (row column.toList) := by
  cases test with
  | within range => simp [TimeTest.range,TimeTest.compared,TimeTest.Between,TimeTest.edge?]
  | against op t =>
      cases op with
      | less => simp [TimeTest.range,TimeTest.compared,TimeTest.Between,TimeTest.edge?,inRange]
      | atLeast =>
          simp [TimeTest.range,TimeTest.compared,TimeTest.Between,TimeTest.edge?,inRange,
            Condition.holds,Comparison.holds]
      | _ =>
          have later := apart t rfl
          simp only [TimeTest.range,TimeRange.instant,TimeTest.compared,TimeTest.Between,
            TimeTest.edge?,inRange,Condition.holds,Comparison.holds,Operand.value,Dialect.momentOf,
            Option.mem_some_iff,exists_eq_left']
          grind

end Order

namespace Planner

variable {p : Planner} {column : String}

def filteredBy (p : Planner) (filter : Expr) : Planner :=
  { p with folded := { p.folded with filter } }

-- The query for a filter has a condition that is read as this one.
def Asks (p : Planner) (filter : Expr) (c : Condition) : Prop :=
  ∃ s text, (p.filteredBy filter).base = .ok s ∧ s.condition = some text ∧
    p.renderer.dialect.condition? text = some c

theorem split_test (test : TimeTest) : TimeFilter.split (test.expr column) (some column)
    = { intervals := some [test.range],rest := .bool true } := by
  have clause : TimeFilter.clauseRanges? column (test.expr column) = some [test.range] := by
    cases test with
    | within range => exact if_pos (beq_self_eq_true column)
    | against op t => cases op <;> exact if_pos (beq_self_eq_true column)
  have alone : TimeFilter.split (test.expr column) (some column)
      = { intervals := (TimeFilter.addClause column (none,[]) (test.expr column)).1
          rest := .andAll (TimeFilter.addClause column (none,[]) (test.expr column)).2 } := by
    cases test <;> rfl
  rw [alone,TimeFilter.addClause,clause]
  rfl

theorem edges_test (test : TimeTest) :
    TimeFilter.clauseEdges column (test.expr column) = test.edge?.toList := by
  cases test with
  | within range => exact if_pos (beq_self_eq_true column)
  | against op t => cases op <;> exact if_pos (beq_self_eq_true column)

theorem lift_test (test : TimeTest) : TimeFilter.lift (test.expr column) (some column)
    = (test.edge?.toList.mapM Instant.next).map fun _ =>
        TimeFilter.split (test.expr column) (some column) := by
  have alone : TimeFilter.clauses (test.expr column) = [test.expr column] := by
    cases test <;> rfl
  simp only [TimeFilter.lift,alone,List.mapM_cons,List.mapM_nil,TimeFilter.clauseRanges,
    edges_test test]
  cases test.edge?.toList.mapM Instant.next <;> rfl

theorem lift_ends {test : TimeTest} (ends : test.Ends) :
    TimeFilter.lift (test.expr column) (some column)
      = .ok (TimeFilter.split (test.expr column) (some column)) := by
  rw [lift_test,mapM_total (g := fun t => t.addMillis 1) fun t edge =>
    Instant.next_ok.mpr ⟨ends t (Option.mem_toList.mp edge),rfl⟩]
  rfl

theorem lift_stops {test : TimeTest} (last : ¬ test.Ends) :
    TimeFilter.lift (test.expr column) (some column) = .error .panic := by
  rw [lift_test]
  cases ends : test.edge?.toList.mapM Instant.next with
  | error => rfl
  | ok nexts =>
      refine absurd (fun t edge => ?_) last
      obtain ⟨u,goes⟩ := mapM_result ends t (Option.mem_toList.mpr edge)
      exact (Instant.next_ok.mp goes).1

variable (timed : p.dataset.timeAttribute = some column) (test : TimeTest)
include timed

theorem base_stops (last : ¬ test.Ends) :
    (p.filteredBy (test.expr column)).base = .error .panicked := by
  have time : (p.filteredBy (test.expr column)).dataset.timeAttribute = some column := timed
  have filter : (p.filteredBy (test.expr column)).folded.filter = test.expr column := rfl
  simp only [base,time,filter,lift_stops last]
  rfl

theorem asks_range (ends : test.Ends) :
    p.Asks (test.expr column) (inRange p.renderer.dialect column test.range) := by
  refine ⟨{ source := some (.parse p.dataset.source)
            condition := some (p.renderer.timeRange (p.renderer.identifier column) test.range) },
    _,?_,rfl,(timeRange_denotes test.range).alone.reads⟩
  have time : (p.filteredBy (test.expr column)).dataset.timeAttribute = some column := timed
  have filter : (p.filteredBy (test.expr column)).folded.filter = test.expr column := rfl
  simp only [base,time,filter,lift_ends ends,split_test test]
  rfl

theorem base_negated : (p.filteredBy (.not (test.expr column))).base
    = (p.renderer.render (test.expr column)).map fun text =>
      { source := some (.parse p.dataset.source),condition := some ("NOT(" ++ text ++ ")") } := by
  have kept : TimeFilter.lift (.not (test.expr column)) (some column)
      = .ok { intervals := none,rest := .not (test.expr column) } := rfl
  have time : (p.filteredBy (.not (test.expr column))).dataset.timeAttribute = some column := timed
  have filter : (p.filteredBy (.not (test.expr column))).folded.filter = .not (test.expr column) :=
    rfl
  have written : (p.filteredBy (.not (test.expr column))).renderer.render (.not (test.expr column))
      = (p.renderer.render (test.expr column)).map fun text => "NOT(" ++ text ++ ")" := by
    change (p.renderer.render (test.expr column) >>= fun text => pure ("NOT(" ++ text ++ ")")) = _
    cases p.renderer.render (test.expr column) <;> rfl
  simp only [base,time,filter,kept]
  change ((p.filteredBy (.not (test.expr column))).renderer.render (.not (test.expr column)) >>=
    fun text => pure (({ source := some (.parse p.dataset.source) } : Select).addCondition text)) = _
  rw [written]
  cases p.renderer.render (test.expr column) <;> rfl

theorem asks_not {a : Attribute} (declared : p.dataset.attribute? column = some a) :
    p.Asks (.not (test.expr column)) (.not (test.compared p.renderer.dialect column)) := by
  obtain ⟨text,written,denotes⟩ := expr_denotes declared test
  refine ⟨{ source := some (.parse p.dataset.source),condition := some ("NOT(" ++ text ++ ")") },
    _,?_,rfl,denotes.alone.negated.alone.reads⟩
  rw [base_negated timed,written]
  rfl

theorem base_unknown (unknown : p.dataset.attribute? column = none) :
    (p.filteredBy (.not (test.expr column))).base
      = .error (.refused (.unknownAttribute column)) := by
  have missing : p.renderer.reference column = .error (.refused (.unknownAttribute column)) := by
    have none : p.renderer.dataset.attribute? column = none := unknown
    simp only [Renderer.reference,none]
  have written : p.renderer.render (test.expr column)
      = .error (.refused (.unknownAttribute column)) := by
    simp only [Renderer.render]
    cases test with
    | within range => simp only [TimeTest.expr,Renderer.rendered,missing]; rfl
    | against op t =>
        simp only [TimeTest.expr,Renderer.rendered,missing]
        cases op <;> rfl
  rw [base_negated timed,written]
  rfl

end Planner

-- The clock shows the moment of each timestamp that is read as an instant.
def ReadsMoments (d : Dialect) (moment : List Char → ℚ) : Prop :=
  ∀ text t, d.readMoment? text = some t → moment text = t.unixSeconds

-- Instants of the calendar outside leap seconds, with a millisecond after them.
structure Counted (t : Instant) : Prop where
  proper : t.Proper
  next : (t.addMillis 1).Proper
  plain : t.nanos < 1000000000

theorem shown_millis {d : Dialect} {moment : List Char → ℚ} {t : Instant} (shows : ReadsMoments d moment)
    (counted : Counted t) : moment (d.momentText t).toList = t.cut.unixSeconds ∧
      moment (d.momentText (t.addMillis 1)).toList = t.cut.unixSeconds + 1 / 1000 := by
  refine ⟨shows _ _ (momentText_read counted.proper),?_⟩
  rw [shows _ _ (momentText_read counted.next),Instant.cut_next counted.plain]

-- A filter that tests the time and its negation are both written as conditions, if the time is a
-- column. Of each row exactly one of them holds, but for the times between the literal and the
-- next millisecond: of these both hold, or neither. At the end of the calendar there may be no
-- next millisecond, and then no query for the filter.
theorem negated_times_exact {p : Planner} {column : String}
    (timed : p.dataset.timeAttribute = some column) (test : TimeTest) :
    (p.dataset.attribute? column = none →
      (p.filteredBy (.not (test.expr column))).base
        = .error (.refused (.unknownAttribute column))) ∧
    (¬ test.Ends → (p.filteredBy (test.expr column)).base = .error .panicked) ∧
    (p.dataset.attribute? column ≠ none → test.Ends → ∃ kept left, p.Asks (test.expr column) kept ∧
      p.Asks (.not (test.expr column)) left ∧
      (∀ {T : Type} [LinearOrder T] (moment row : List Char → T),
        test.Apart p.renderer.dialect moment →
          (Xor (kept.holds moment row) (left.holds moment row) ↔
            ¬ test.Between p.renderer.dialect moment (row column.toList))) ∧
      ∀ moment row : List Char → ℚ, ReadsMoments p.renderer.dialect moment →
        (∀ t ∈ test.edge?, Counted t) →
          (Xor (kept.holds moment row) (left.holds moment row) ↔
            ∀ t ∈ test.edge?, ¬ (t.cut.unixSeconds < row column.toList ∧
              row column.toList < t.cut.unixSeconds + 1 / 1000))) := by
  refine ⟨Planner.base_unknown timed test,Planner.base_stops timed test,fun declared ends => ?_⟩
  obtain ⟨a,found⟩ := Option.ne_none_iff_exists'.mp declared
  have opposed (a b : Prop) : Xor a (¬ b) ↔ (a ↔ b) := by rw [xor_iff_not_iff]; tauto
  refine ⟨_,_,Planner.asks_range timed test ends,Planner.asks_not timed test found,?_,?_⟩
  · intro T _ moment row apart
    exact (opposed _ _).trans (range_exact apart)
  · intro moment row shows counted
    have apart : test.Apart p.renderer.dialect moment := by
      intro t edge
      obtain ⟨first,second⟩ := shown_millis shows (counted t edge)
      rw [first,second]
      linarith
    refine (opposed _ _).trans ((range_exact apart).trans ?_)
    unfold TimeTest.Between
    push Not
    refine forall₂_congr fun t edge => ?_
    obtain ⟨first,second⟩ := shown_millis shows (counted t edge)
    rw [first,second]

namespace Logins

def logins : Dataset :=
  { engine := .postgres,source := "logins",timeAttribute := some "time",
    attributes := [{ name := "time",type := .time },{ name := "user",type := .string }] }

def planner : Planner :=
  { renderer := { dialect := Family.postgres.dialect,dataset := logins }
    folded := { mode := .total,dataName := "data",filter := .bool true } }

def clock (text : List Char) : ℚ :=
  ((Family.postgres.dialect.readMoment? text).map Instant.unixSeconds).getD 0

def midnight : Instant := ⟨1426118400,0⟩

theorem clock_shows : ReadsMoments Family.postgres.dialect clock := by
  intro text t read
  simp only [clock,read,Option.map_some,Option.getD_some]

theorem midnight_counted : Counted midnight where
  proper := ⟨rfl,by decide,fun late => absurd late (by decide)⟩
  next := ⟨rfl,by decide,fun late => absurd late (by decide)⟩
  plain := by decide

def atMidnight : TimeTest := .against .equal midnight

def afterMidnight : TimeTest := .against .greater midnight

-- The filter and its negation part the logins, but for those in the millisecond after midnight.
theorem atMidnight_parts : ∃ kept left, planner.Asks (atMidnight.expr "time") kept ∧
    planner.Asks (.not (atMidnight.expr "time")) left ∧
    ∀ x : ℚ, Xor (kept.holds clock fun _ => x) (left.holds clock fun _ => x) ↔
      ¬ (1426118400 < x ∧ x < 1426118400 + 1 / 1000) := by
  obtain ⟨kept,left,asks,negated,-,parted⟩ :=
    (negated_times_exact (show planner.dataset.timeAttribute = some "time" from rfl)
      atMidnight).2.2 (by decide) (by rintro t ⟨⟩; decide)
  refine ⟨kept,left,asks,negated,fun x => ?_⟩
  refine (parted clock (fun _ => x) clock_shows ?_).trans ?_
  · rintro t ⟨⟩
    exact midnight_counted
  · simp [atMidnight,TimeTest.edge?,Instant.cut,Instant.unixSeconds,midnight]

def halfMillisecond : ℚ := 1426118400 + 1 / 2000

theorem half_between :
    clock (Family.postgres.dialect.momentText midnight).toList < halfMillisecond ∧
      halfMillisecond < clock (Family.postgres.dialect.momentText (midnight.addMillis 1)).toList := by
  obtain ⟨first,second⟩ := shown_millis clock_shows midnight_counted
  rw [first,second]
  norm_num [Instant.cut,Instant.unixSeconds,midnight,halfMillisecond]

-- Half a millisecond after midnight a login is taken by both filters, and by neither if they ask
-- for the logins after midnight.
theorem overlap_and_gap :
    (∃ kept left, planner.Asks (atMidnight.expr "time") kept ∧
      planner.Asks (.not (atMidnight.expr "time")) left ∧
      kept.holds clock (fun _ => halfMillisecond) ∧ left.holds clock fun _ => halfMillisecond) ∧
    ∃ kept left, planner.Asks (afterMidnight.expr "time") kept ∧
      planner.Asks (.not (afterMidnight.expr "time")) left ∧
      ¬ kept.holds clock (fun _ => halfMillisecond) ∧
      ¬ left.holds clock fun _ => halfMillisecond := by
  obtain ⟨after,before⟩ := half_between
  have declared : planner.dataset.attribute? "time" = some { name := "time",type := .time } := rfl
  have atEnds : atMidnight.Ends := by rintro t ⟨⟩; decide
  have afterEnds : afterMidnight.Ends := by rintro t ⟨⟩; decide
  refine ⟨⟨_,_,Planner.asks_range rfl _ atEnds,Planner.asks_not rfl _ declared,?_,?_⟩,
    ⟨_,_,Planner.asks_range rfl _ afterEnds,Planner.asks_not rfl _ declared,?_,?_⟩⟩
  · exact ⟨after.le,before⟩
  · exact fun same => after.ne' same
  · exact not_le.mpr before
  · exact fun outside => outside after

end Logins

end Sql

end OlapQuery
