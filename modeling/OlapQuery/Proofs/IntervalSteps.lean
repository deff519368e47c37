import Mathlib.Tactic.Ring
import OlapQuery.Proofs.Shifts
import OlapQuery.Sql.Dialect

-- Shifts as SQL engines do them: an interval for each unit, one inside the other. Every interval of
-- months or years has its own end of the month, so that a day can be lost that moving by all months
-- at once keeps: the leap day, where the months alone lead to a February without one.

namespace OlapQuery.Time

def LocalTime.addUnit (clock : LocalTime) (unit : CalendarUnit) (amount : Int) : LocalTime :=
  match unit with
  | .year => clock.addMonths (12 * amount)
  | .month => clock.addMonths amount
  | .week => clock.addSeconds (604800 * amount)
  | .day => clock.addSeconds (86400 * amount)
  | .hour => clock.addSeconds (3600 * amount)
  | .minute => clock.addSeconds (60 * amount)
  | .second => clock.addSeconds amount

namespace Duration

-- The intervals of a shift one after the other, added or taken away.
def stepped (d : Duration) (clock : LocalTime) (step : Int) : LocalTime :=
  (Sql.Dialect.shiftComponents d step).foldl
    (fun clock part => clock.addUnit part.1 (if step < 0 then -part.2 else part.2)) clock

end Duration

-- The day is past the 28th, the months alone end in a February that has no more days, and with the
-- years it is one that has.
def Date.LosesLeapDay (date : Date) (months years : Int) : Prop :=
  28 < date.day ∧ (date.addMonths months).month = 2 ∧
    isLeapYear (date.addMonths months).year = false ∧
    isLeapYear ((date.addMonths months).addMonths (12 * years)).year = true

instance (date : Date) (months years : Int) : Decidable (date.LosesLeapDay months years) :=
  inferInstanceAs (Decidable (_ ∧ _ ∧ _ ∧ _))

section Seconds

variable {t : LocalTime}

theorem addSeconds_addSeconds (shown : t.nanos < 2000000000) {a b : Int} (alike : 0 ≤ a ∧ 0 ≤ b ∨ a ≤ 0 ∧ b ≤ 0) :
    (t.addSeconds a).addSeconds b = t.addSeconds (a + b) := by
  by_cases still : a = 0
  · rw [still,LocalTime.addSeconds_zero,Int.zero_add]
  by_cases plain : t.nanos < 1000000000
  · rw [LocalTime.addSeconds_plain plain,LocalTime.addSeconds_plain plain]
    rw [LocalTime.addSeconds_plain (t := { t with seconds := t.seconds + a }) plain,Int.add_assoc]
  · have leap : t.nanos ≥ 1000000000 := by omega
    have below : t.nanos - 1000000000 < 1000000000 := by omega
    have moves : a + b ≠ 0 := by omega
    by_cases forward : a > 0
    · have both : a + b > 0 := by omega
      simp only [LocalTime.addSeconds,leap,still,forward,moves,both,bne_iff_ne,ne_eq,
        not_false_eq_true,decide_true,Bool.true_and,if_true]
      rw [if_neg (by simp; omega)]
      simp only [LocalTime.mk.injEq,and_true]
      omega
    · have both : ¬ a + b > 0 := by omega
      simp only [LocalTime.addSeconds,leap,still,forward,moves,both,bne_iff_ne,ne_eq,
        not_false_eq_true,decide_true,Bool.true_and,if_true,if_false]
      rw [if_neg (by simp; omega)]
      simp only [LocalTime.mk.injEq,and_true]
      omega

theorem addSeconds_all (shown : t.nanos < 2000000000) (counts : List Nat) (step : Int) :
    counts.foldl (fun clock n => clock.addSeconds (n * step)) t
      = t.addSeconds (counts.sum * step) := by
  induction counts generalizing t with
  | nil => simp [LocalTime.addSeconds_zero]
  | cons n rest ih =>
      have still : (t.addSeconds (n * step)).nanos < 2000000000 := by
        unfold LocalTime.addSeconds
        split
        · split <;> dsimp only <;> omega
        · exact shown
      have alike : 0 ≤ n * step ∧ 0 ≤ rest.sum * step ∨ n * step ≤ 0 ∧ rest.sum * step ≤ 0 := by
        rcases Int.le_total 0 step with forward | back
        · exact .inl ⟨Int.mul_nonneg (Int.natCast_nonneg _) forward,
            Int.mul_nonneg (Int.natCast_nonneg _) forward⟩
        · exact .inr ⟨Int.mul_nonpos_of_nonneg_of_nonpos (Int.natCast_nonneg _) back,
            Int.mul_nonpos_of_nonneg_of_nonpos (Int.natCast_nonneg _) back⟩
      rw [List.foldl_cons,ih still,addSeconds_addSeconds shown alike,List.sum_cons,Int.natCast_add,
        Int.add_mul]

theorem addSeconds_later (shift delta : Int) :
    ({ t with seconds := t.seconds + shift } : LocalTime).addSeconds delta
      = { t.addSeconds delta with seconds := (t.addSeconds delta).seconds + shift } := by
  unfold LocalTime.addSeconds
  dsimp only
  split
  · split
    · simp only [LocalTime.mk.injEq,and_true]
      omega
    · simp only [LocalTime.mk.injEq,and_true]
      omega
  · simp only [LocalTime.mk.injEq,and_true]
    omega

end Seconds

section Months

theorem daysInMonth_year {month : Nat} (other : month ≠ 2) (year later : Int) :
    daysInMonth year month = daysInMonth later month := by
  simp [daysInMonth,other]

variable {date : Date} (months years : Int)

-- The years do not change the month that the months lead to, and no more is lost than the end of
-- that month takes away.
theorem addMonths_years : (date.addMonths months).addMonths (12 * years)
    = { date.addMonths (months + 12 * years) with
        day := min (date.addMonths months).day (daysInMonth
          (date.addMonths (months + 12 * years)).year
          (date.addMonths (months + 12 * years)).month) } := by
  have count : (date.addMonths months).year * 12 + ((date.addMonths months).month : Int) - 1
      + 12 * years = date.year * 12 + (date.month : Int) - 1 + (months + 12 * years) := by
    have number := monthNumber_addMonths (d := date) months
    unfold Date.monthNumber at number
    omega
  rw [Date.addMonths,count]
  rfl

variable (date)

theorem month_addMonths_years :
    (date.addMonths (months + 12 * years)).month = (date.addMonths months).month := by
  dsimp only [Date.addMonths]
  omega

theorem addMonths_apart : ((date.addMonths months).addMonths (12 * years)).dayNumber
    = (date.addMonths (months + 12 * years)).dayNumber
      - if date.LosesLeapDay months years then 1 else 0 := by
  have year : ((date.addMonths months).addMonths (12 * years)).year
      = (date.addMonths (months + 12 * years)).year := by
    rw [addMonths_years]
  have month := month_addMonths_years date months years
  simp only [Date.LosesLeapDay,year]
  rw [addMonths_years]
  have between := day_addMonths (d := date) months
  have together := day_addMonths (d := date) (months + 12 * years)
  rw [month] at together
  generalize date.addMonths (months + 12 * years) = last at *
  generalize date.addMonths months = first at *
  have days := dayNumber_day last.year last.month
  have lasting := days last.day
  change last.dayNumber = _ at lasting
  have shorter : (min first.day (daysInMonth last.year last.month) : Nat) = (last.day : Int)
      - if 28 < date.day ∧ first.month = 2 ∧ isLeapYear first.year = false ∧
            isLeapYear last.year = true then 1 else 0 := by
    by_cases february : first.month = 2
    · rw [month,between,february,daysInMonth_february,daysInMonth_february]
      rw [february,daysInMonth_february] at together
      cases leap : isLeapYear first.year with
      | true => grind
      | false => grind
    · rw [month,between,daysInMonth_year february last.year first.year]
      rw [daysInMonth_year february last.year first.year] at together
      rw [if_neg (fun lost => february lost.2.1)]
      omega
  rw [days,lasting,shorter]
  omega

end Months

section Steps

variable (d : Duration) (step : Int) (clock : LocalTime)

theorem addUnit_zero (unit : CalendarUnit) : clock.addUnit unit 0 = clock := by
  cases unit <;>
    simp only [LocalTime.addUnit,Int.mul_zero,LocalTime.addMonths_zero,LocalTime.addSeconds_zero]

theorem interval_counted (unit : CalendarUnit) (count : Nat) :
    (if (count != 0) = true then clock.addUnit unit
        (if step < 0 then -((count * step.natAbs : Nat) : Int) else ((count * step.natAbs : Nat) : Int))
      else clock) = clock.addUnit unit (count * step) := by
  by_cases none : count = 0
  · subst none
    rw [Int.natCast_zero,Int.zero_mul,addUnit_zero]
    rfl
  · rw [if_pos (by simpa using none)]
    congr 1
    rw [Int.natCast_mul]
    split
    · rw [← Int.mul_neg]
      congr 1
      omega
    · congr 1
      omega

theorem stepped_units : d.stepped clock step
    = (((((((clock.addUnit .week (d.weeks.toNat * step)).addUnit .month (d.months.toNat * step)).addUnit
        .year (d.years.toNat * step)).addUnit .day (d.days.toNat * step)).addUnit
        .hour (d.hours.toNat * step)).addUnit .minute (d.minutes.toNat * step)).addUnit
        .second (d.seconds.toNat * step)) := by
  unfold Duration.stepped Sql.Dialect.shiftComponents
  simp only [List.foldl_map,List.foldl_filter,List.map_cons,List.map_nil,List.foldl_cons,
    List.foldl_nil,interval_counted]
  rfl

variable {d}

-- Weeks stand alone, so that they can as well be added after the months.
theorem stepped_parts (alone : d.weeks ≠ 0 → d.wholeMonths = 0)
    (shown : clock.nanos < 2000000000) : d.stepped clock step
      = (clock.onDate ((clock.date.addMonths (d.months.toNat * step)).addMonths
          (12 * (d.years.toNat * step)))).addSeconds (d.fixedSeconds * step) := by
  have weeksLast : ((clock.addSeconds (604800 * (d.weeks.toNat * step))).addMonths
        (d.months.toNat * step)).addMonths (12 * (d.years.toNat * step))
      = (clock.onDate ((clock.date.addMonths (d.months.toNat * step)).addMonths
          (12 * (d.years.toNat * step)))).addSeconds (604800 * (d.weeks.toNat * step)) := by
    rw [← LocalTime.addMonths_addMonths]
    by_cases weeks : d.weeks = 0
    · simp [weeks,LocalTime.addSeconds_zero]
    · have none := alone weeks
      unfold Duration.wholeMonths at none
      have years : d.years.toNat = 0 := by omega
      have months : d.months.toNat = 0 := by omega
      simp [years,months,LocalTime.addMonths_zero]
  have together := addSeconds_all (t := clock.onDate ((clock.date.addMonths
    (d.months.toNat * step)).addMonths (12 * (d.years.toNat * step)))) shown
    [604800 * d.weeks.toNat,86400 * d.days.toNat,3600 * d.hours.toNat,60 * d.minutes.toNat,
      d.seconds.toNat] step
  have sum : d.fixedSeconds = ([604800 * d.weeks.toNat,86400 * d.days.toNat,3600 * d.hours.toNat,
      60 * d.minutes.toNat,d.seconds.toNat].sum : Nat) := by
    simp only [Duration.fixedSeconds,List.sum_cons,List.sum_nil]
    omega
  rw [sum,← together,stepped_units]
  simp only [LocalTime.addUnit,weeksLast,List.foldl_cons,List.foldl_nil,Int.natCast_mul,Int.mul_assoc]
  rfl

-- Set against moving by all months at once, the intervals lose a day or nothing.
theorem stepped_moved (alone : d.weeks ≠ 0 → d.wholeMonths = 0)
    (shown : clock.nanos < 2000000000) : d.stepped clock step
      = { d.moved clock step with
          seconds := (d.moved clock step).seconds
            + if clock.date.LosesLeapDay (d.months.toNat * step) (d.years.toNat * step)
              then -86400 else 0 } := by
  have total : (d.wholeMonths : Int) * step
      = d.months.toNat * step + 12 * (d.years.toNat * step) := by
    rw [Duration.wholeMonths]
    push_cast
    ring
  have apart := addMonths_apart clock.date (d.months.toNat * step) (d.years.toNat * step)
  have earlier : clock.onDate ((clock.date.addMonths (d.months.toNat * step)).addMonths
        (12 * (d.years.toNat * step)))
      = { clock.addMonths (d.wholeMonths * step) with
          seconds := (clock.addMonths (d.wholeMonths * step)).seconds
            + if clock.date.LosesLeapDay (d.months.toNat * step) (d.years.toNat * step)
              then -86400 else 0 } := by
    simp only [LocalTime.addMonths,LocalTime.onDate,total,apart,LocalTime.mk.injEq,and_true]
    split <;> omega
  rw [stepped_parts step clock alone shown,earlier,addSeconds_later]
  rfl

end Steps

-- The intervals give what the shift gives but for the leap day that they lose, and then a day
-- before it.
theorem steps_agree_iff {text : String} {d : Duration} (parsed : Duration.parse? text = some d)
    {t next : Instant} {step : Int} (shown : t.nanos < 2000000000)
    (word : (d.wholeMonths * step).natAbs < 4294967296)
    (shifts : d.shift t Zone.utc step = .ok (some next)) :
    (d.stepped t.utcClock step = next.utcClock ↔
        ¬ t.utcClock.date.LosesLeapDay (d.months.toNat * step) (d.years.toNat * step)) ∧
      (t.utcClock.date.LosesLeapDay (d.months.toNat * step) (d.years.toNat * step) →
        d.stepped t.utcClock step = { next.utcClock with seconds := next.seconds - 86400 }) := by
  have steps := stepped_moved step t.utcClock (Duration.parse_weeks parsed) shown
  rw [← Duration.shift_moved d step word shifts] at steps
  rw [steps]
  by_cases lost : t.utcClock.date.LosesLeapDay (d.months.toNat * step) (d.years.toNat * step)
  · rw [if_pos lost]
    refine ⟨⟨fun same => ?_,fun kept => absurd lost kept⟩,fun _ => rfl⟩
    have seconds := congrArg LocalTime.seconds same
    dsimp only at seconds
    omega
  · rw [if_neg lost,Int.add_zero]
    exact ⟨⟨fun _ => lost,fun _ => rfl⟩,fun isLost => absurd isLost lost⟩

namespace Duration

-- 2015-01-31T12:00:00Z. A year and a month later is the end of a February in a leap year, the month
-- alone that of one in a common year.
def januaryEnd : Instant := ⟨1422705600,0⟩

theorem steps_agree_back :
    parse? "P1Y1M1D" = some { years := 1,months := 1,days := 1 } ∧
    ({ years := 1,months := 1,days := 1 } : Duration).shift januaryEnd Zone.utc (-1)
      = .ok (some ⟨1388404800,0⟩) ∧
    ({ years := 1,months := 1,days := 1 } : Duration).stepped januaryEnd.utcClock (-1)
      = ⟨1388404800,0⟩ := by
  have parsed : parse? "P1Y1M1D" = some { years := 1,months := 1,days := 1 } := by
    decide +kernel
  have shifts : ({ years := 1,months := 1,days := 1 } : Duration).shift januaryEnd Zone.utc (-1)
      = .ok (some ⟨1388404800,0⟩) := by decide
  exact ⟨parsed,shifts,
    (steps_agree_iff parsed (by decide) (by decide) shifts).1.mpr (by decide)⟩

theorem leap_day_lost :
    parse? "P1Y1M" = some { years := 1,months := 1 } ∧
    ({ years := 1,months := 1 } : Duration).shift januaryEnd Zone.utc 1
      = .ok (some ⟨1456747200,0⟩) ∧
    ({ years := 1,months := 1 } : Duration).stepped januaryEnd.utcClock 1
      = ⟨1456660800,0⟩ := by
  decide +kernel

end Duration

end OlapQuery.Time
