import OlapQuery.Proofs.Checked
import OlapQuery.Proofs.Months

-- Shifting an instant by a multiple of a duration: by its months on the calendar, and then by its
-- fixed part. The months of the duration must fit in a word, the months to move are cut off to one,
-- and the fixed part is not checked, so that a shift is exact, or refused where there is no such
-- date, only up to these.

namespace OlapQuery.Time

namespace Duration

def wholeMonths (d : Duration) : Nat :=
  12 * d.years.toNat + d.months.toNat

-- What a clock shows when it is moved by exactly this many times the duration: its date by months,
-- to the end of the month at most, and then the clock by seconds.
def moved (d : Duration) (clock : LocalTime) (step : Int) : LocalTime :=
  (clock.addMonths (d.wholeMonths * step)).addSeconds (d.fixedSeconds * step)

-- The instant moved, unless it is outside the calendar.
def movedInstant? (d : Duration) (t : Instant) (step : Int) : Option Instant :=
  let clock := d.moved t.utcClock step
  if clock.date.inCalendar then some { seconds := clock.seconds,nanos := clock.nanos } else none

def MonthsFit (d : Duration) : Prop :=
  d.wholeMonths ≤ Word.max32

instance (d : Duration) : Decidable d.MonthsFit :=
  inferInstanceAs (Decidable (_ ≤ _))

-- The count of months to move fits in a word, or what is left of it leaves the calendar as well.
def MonthsKept (d : Duration) (t : Instant) (step : Int) : Prop :=
  (d.wholeMonths * step).natAbs < 4294967296 ∨
    ∀ n, monthStep? (d.wholeMonths * step) = some n → (t.utcClock.date.addMonths n).inCalendar = false

-- Seconds do not leave the calendar after months that stay in it.
def SecondsStay (d : Duration) (t : Instant) (step : Int) : Prop :=
  (t.utcClock.date.addMonths (d.wholeMonths * step)).inCalendar = true →
    (d.moved t.utcClock step).date.inCalendar = true

section Parts

variable {d : Duration} {unit : CalendarUnit} {word : UInt32}

theorem part_listed : (unit,word) ∈ d.components ↔ d.count unit = word ∧ word ≠ 0 := by
  unfold Duration.components
  rw [List.mem_filter,List.mem_map]
  simp only [bne_iff_ne,ne_eq,and_congr_left_iff,Prod.mk.injEq]
  intro _
  constructor
  · rintro ⟨u,-,rfl,count⟩
    exact count
  · intro count
    exact ⟨unit,by cases unit <;> simp,rfl,count⟩

theorem lonePart_count (only : d.components = [(unit,word)]) :
    word ≠ 0 ∧ ∀ other, d.count other = if other = unit then word else 0 := by
  have self : (unit,word) ∈ d.components := by rw [only]; exact List.mem_singleton_self _
  obtain ⟨count,some⟩ := part_listed.mp self
  refine ⟨some,fun other => ?_⟩
  split
  · rename_i same
    rw [same,count]
  · rename_i different
    apply Classical.byContradiction
    intro counted
    have listed : (other,d.count other) ∈ d.components := part_listed.mpr ⟨rfl,counted⟩
    rw [only,List.mem_singleton,Prod.mk.injEq] at listed
    exact different listed.1

theorem parse_weeks {text : String} (parsed : parse? text = some d) (weeks : d.weeks ≠ 0) :
    d.wholeMonths = 0 := by
  have self : (.week,d.weeks) ∈ d.components := part_listed.mpr ⟨rfl,weeks⟩
  have few : d.components.length ≤ 1 := by
    unfold parse? at parsed
    simp only [Option.bind_eq_bind] at parsed
    split at parsed
    · rw [Option.bind_some] at parsed
      obtain ⟨read,-,given⟩ := Option.bind_eq_some_iff.mp parsed
      split at given
      · cases given
      · split at given
        · cases given
        · rename_i alone
          cases given
          simpa [weeks] using alone
    · cases parsed
  obtain ⟨only,same⟩ := List.length_eq_one_iff.mp
    (Nat.le_antisymm few (List.length_pos_of_mem self))
  rw [same,List.mem_singleton] at self
  subst self
  obtain ⟨-,counts⟩ := lonePart_count same
  have years : d.years = 0 := counts .year
  have months : d.months = 0 := counts .month
  rw [wholeMonths,years,months]
  rfl

end Parts

section Months

theorem monthStep_small {months : Int} (small : months.natAbs < 2147483648) :
    monthStep? months = some months := by
  unfold monthStep?
  dsimp only
  rw [if_neg (by omega)]
  congr 1
  omega

theorem monthStep_large {months : Int} (large : 2147483648 ≤ months.natAbs)
    (word : months.natAbs < 4294967296) : monthStep? months = none := by
  unfold monthStep?
  dsimp only
  rw [if_pos (by omega)]

theorem monthStep_word {months n : Int} (word : months.natAbs < 4294967296)
    (found : monthStep? months = some n) : n = months := by
  by_cases small : months.natAbs < 2147483648
  · rw [monthStep_small small] at found
    exact (Option.some.inj found).symm
  · rw [monthStep_large (by omega) word] at found
    cases found

theorem shiftMonths_some {clock shifted : LocalTime} {months : Int}
    (word : months.natAbs < 4294967296) (shifts : shiftMonths clock months = some shifted) :
    shifted = clock.addMonths months := by
  unfold shiftMonths at shifts
  obtain ⟨n,found,moves⟩ := Option.bind_eq_some_iff.mp shifts
  cases monthStep_word word found
  split at moves
  · rename_i none
    rw [beq_iff_eq.mp none,LocalTime.addMonths_zero]
    exact (Option.some.inj moves).symm
  · dsimp only at moves
    split at moves
    · exact (Option.some.inj moves).symm
    · cases moves

-- No date of the calendar stays in it over so many months.
theorem addMonths_far {date : Date} (valid : date.isValid = true) (known : date.inCalendar = true)
    {months : Int} (far : 2147483648 ≤ months.natAbs) :
    (date.addMonths months).inCalendar = false := by
  obtain ⟨first,last,-,-⟩ := (isValid_iff date).mp valid
  rw [inCalendar_iff] at known
  rw [← Bool.not_eq_true,inCalendar_iff,year_addMonths]
  unfold firstYear lastYear Date.monthNumber at *
  omega

theorem shiftMonths_exact (clock : LocalTime) (known : clock.date.inCalendar = true) (months : Int) :
    shiftMonths clock months = (monthStep? months).bind fun n =>
      if (clock.date.addMonths n).inCalendar then some (clock.addMonths n) else none := by
  unfold shiftMonths
  refine congrArg (monthStep? months).bind (funext fun n => ?_)
  by_cases none : n = 0
  · subst none
    rw [addMonths_zero clock.date_valid,known,LocalTime.addMonths_zero]
    rfl
  · simp [none,LocalTime.addMonths,LocalTime.onDate]

end Months

section Leaving

variable {clock : LocalTime} (d : Duration) (step : Int)

-- Months and seconds go in one direction: what the months take out of the calendar the seconds do
-- not bring back.
theorem moved_outside (known : clock.date.inCalendar = true)
    (left : (clock.date.addMonths (d.wholeMonths * step)).inCalendar = false) :
    (d.moved clock step).date.inCalendar = false := by
  rw [← LocalTime.date_addMonths] at left
  rw [← Bool.not_eq_true,inCalendar_iff] at left ⊢
  rw [inCalendar_iff] at known
  obtain ⟨first,last,-,-⟩ := (isValid_iff clock.date).mp clock.date_valid
  have year := year_addMonths (d := clock.date) (d.wholeMonths * step)
  rw [← LocalTime.date_addMonths] at year
  have fixed : 0 ≤ d.fixedSeconds := by unfold fixedSeconds; omega
  unfold Date.monthNumber at year
  intro stays
  rw [LocalTime.firstYear_le,LocalTime.le_lastYear] at stays left
  by_cases forward : 0 ≤ step
  · have months : 0 ≤ d.wholeMonths * step := Int.mul_nonneg (Int.natCast_nonneg _) forward
    have seconds : 0 ≤ d.fixedSeconds * step := Int.mul_nonneg fixed forward
    have later := LocalTime.addSeconds_forward (clock.addMonths (d.wholeMonths * step)) seconds
    have early : firstYear ≤ (clock.addMonths (d.wholeMonths * step)).date.year := by omega
    rw [LocalTime.firstYear_le] at early
    exact left ⟨early,Int.lt_of_le_of_lt later stays.2⟩
  · have months : d.wholeMonths * step ≤ 0 :=
      Int.mul_nonpos_of_nonneg_of_nonpos (Int.natCast_nonneg _) (by omega)
    have seconds : d.fixedSeconds * step ≤ 0 :=
      Int.mul_nonpos_of_nonneg_of_nonpos fixed (by omega)
    have earlier := LocalTime.addSeconds_back (clock.addMonths (d.wholeMonths * step)) seconds
    have late : (clock.addMonths (d.wholeMonths * step)).date.year ≤ lastYear := by omega
    rw [LocalTime.le_lastYear] at late
    exact left ⟨Int.le_trans stays.1 earlier,late⟩

end Leaving

section Shift

variable {t : Instant} (d : Duration) (step : Int)

theorem shift_months (known : t.inCalendar = true) :
    d.shift t Zone.utc step =
      if d.MonthsFit then
        match shiftMonths t.utcClock (d.wholeMonths * step) with
        | none => .ok none
        | some clock =>
            let shifted := clock.addSeconds (d.fixedSeconds * step)
            if shifted.date.inCalendar then .ok (Zone.utc.instant? shifted) else .error .panic
      else .error .panic := by
  have count : d.years.toNat * 12 + d.months.toNat = d.wholeMonths := by
    rw [wholeMonths,Nat.mul_comm]
  have months : Checked.word32 (d.years.toNat * 12 + d.months.toNat)
      = if d.MonthsFit then .ok d.wholeMonths else .error .panic := by
    rw [count]
    rfl
  rw [shift,utc_clock known,months]
  by_cases fits : d.MonthsFit
  · rw [if_pos fits,if_pos fits]
    rfl
  · rw [if_neg fits,if_neg fits]
    rfl

theorem shift_refused (known : t.inCalendar = true) (fits : d.MonthsFit)
    (refused : shiftMonths t.utcClock (d.wholeMonths * step) = none) :
    d.shift t Zone.utc step = .ok none := by
  rw [shift_months d step known,if_pos fits,refused]

theorem shift_made {clock : LocalTime} (known : t.inCalendar = true) (fits : d.MonthsFit)
    (moves : shiftMonths t.utcClock (d.wholeMonths * step) = some clock) :
    d.shift t Zone.utc step =
      if (clock.addSeconds (d.fixedSeconds * step)).date.inCalendar then
        .ok (some { seconds := (clock.addSeconds (d.fixedSeconds * step)).seconds,
                    nanos := (clock.addSeconds (d.fixedSeconds * step)).nanos })
      else .error .panic := by
  rw [shift_months d step known,if_pos fits,moves]
  dsimp only
  split
  · rename_i inside
    rw [utc_instant inside]
  · rfl

theorem shift_goes {next : Option Instant} (shifts : d.shift t Zone.utc step = .ok next) :
    t.inCalendar = true ∧ d.MonthsFit := by
  have known : t.inCalendar = true := by
    cases inside : t.inCalendar with
    | true => rfl
    | false => simp [shift,utc_clock_outside inside,bind,Except.bind] at shifts
  refine ⟨known,Classical.byContradiction fun large => ?_⟩
  rw [shift_months d step known,if_neg large] at shifts
  cases shifts

theorem shift_moved {next : Instant} (word : (d.wholeMonths * step).natAbs < 4294967296)
    (shifts : d.shift t Zone.utc step = .ok (some next)) :
    next.utcClock = d.moved t.utcClock step := by
  obtain ⟨known,fits⟩ := shift_goes d step shifts
  cases months : shiftMonths t.utcClock (d.wholeMonths * step) with
  | none =>
      rw [shift_refused d step known fits months] at shifts
      cases shifts
  | some clock =>
      rw [shift_made d step known fits months] at shifts
      split at shifts
      · cases shifts
        rw [moved,← shiftMonths_some word months]
        rfl
      · cases shifts

theorem shift_inside {next : Instant} (shifts : d.shift t Zone.utc step = .ok (some next)) :
    next.inCalendar = true := by
  obtain ⟨known,fits⟩ := shift_goes d step shifts
  cases months : shiftMonths t.utcClock (d.wholeMonths * step) with
  | none =>
      rw [shift_refused d step known fits months] at shifts
      cases shifts
  | some clock =>
      rw [shift_made d step known fits months] at shifts
      split at shifts
      · rename_i inside
        cases shifts
        exact inside
      · cases shifts

theorem shiftMonths_near (known : t.utcClock.date.inCalendar = true)
    (near : (d.wholeMonths * step).natAbs < 2147483648) :
    shiftMonths t.utcClock (d.wholeMonths * step) =
      if (t.utcClock.date.addMonths (d.wholeMonths * step)).inCalendar
      then some (t.utcClock.addMonths (d.wholeMonths * step)) else none := by
  rw [shiftMonths_exact _ known,monthStep_small near]
  rfl

-- As long as the months fit in a signed word, all that a shift can lack is room for the seconds.
theorem shift_near (known : t.inCalendar = true) (fits : d.MonthsFit)
    (near : (d.wholeMonths * step).natAbs < 2147483648) :
    d.shift t Zone.utc step = .ok (d.movedInstant? t step) ↔ d.SecondsStay t step := by
  have moves := shiftMonths_near d step known near
  by_cases months : (t.utcClock.date.addMonths (d.wholeMonths * step)).inCalendar = true
  · rw [if_pos months] at moves
    rw [shift_made d step known fits moves]
    change (if (d.moved t.utcClock step).date.inCalendar then _ else _) = _ ↔ _
    by_cases stays : (d.moved t.utcClock step).date.inCalendar = true
    · simp only [SecondsStay,stays,movedInstant?,if_true,implies_true,iff_true]
      rfl
    · simp [SecondsStay,months,stays]
  · rw [if_neg months] at moves
    have outside := moved_outside d step known (Bool.not_eq_true _ ▸ months)
    simp [shift_refused d step known fits moves,SecondsStay,months,outside,movedInstant?]

-- Beyond that the shift has to be refused, and it is if the months that are left of the word are.
theorem shift_far (known : t.inCalendar = true) (fits : d.MonthsFit)
    (far : 2147483648 ≤ (d.wholeMonths * step).natAbs) :
    d.shift t Zone.utc step = .ok (d.movedInstant? t step) ↔
      shiftMonths t.utcClock (d.wholeMonths * step) = none := by
  have left := addMonths_far t.utcClock.date_valid known far
  have outside := moved_outside d step known left
  simp only [movedInstant?,outside,Bool.false_eq_true,if_false]
  cases moves : shiftMonths t.utcClock (d.wholeMonths * step) with
  | none => simp [shift_refused d step known fits moves]
  | some clock =>
      rw [shift_made d step known fits moves]
      split <;> simp

theorem shiftMonths_none (known : t.utcClock.date.inCalendar = true)
    (far : 2147483648 ≤ (d.wholeMonths * step).natAbs) :
    shiftMonths t.utcClock (d.wholeMonths * step) = none ↔ d.MonthsKept t step := by
  rw [shiftMonths_exact _ known,MonthsKept]
  cases word : monthStep? (d.wholeMonths * step) with
  | none => simp
  | some n =>
      have wrapped : ¬ (d.wholeMonths * step).natAbs < 4294967296 := by
        intro fits
        rw [monthStep_large far fits] at word
        cases word
      simp [wrapped]

end Shift

-- A shift is exact, or refused if there is no such instant, just when the months of the duration fit
-- in a word, the months to move are not cut off to others that are in the calendar, and the fixed part
-- does not run out of it. Months that do not fit are a panic, whatever the step.
theorem shift_exact_iff {t : Instant} (d : Duration) (step : Int)
    (known : t.utcClock.date.inCalendar = true) :
    (d.shift t Zone.utc step = .ok (d.movedInstant? t step) ↔
      d.MonthsFit ∧ d.MonthsKept t step ∧ d.SecondsStay t step) ∧
      (¬ d.MonthsFit → d.shift t Zone.utc step = .error .panic) := by
  by_cases fits : d.MonthsFit
  · refine ⟨?_,fun large => absurd fits large⟩
    by_cases near : (d.wholeMonths * step).natAbs < 2147483648
    · have kept : d.MonthsKept t step := .inl (by omega)
      rw [shift_near d step known fits near]
      exact ((and_iff_right fits).trans (and_iff_right kept)).symm
    · have far : 2147483648 ≤ (d.wholeMonths * step).natAbs := by omega
      have stays : d.SecondsStay t step := fun inside => absurd inside
        (Bool.not_eq_true _ ▸ addMonths_far t.utcClock.date_valid known far)
      rw [shift_far d step known fits far,shiftMonths_none d step known far]
      exact ((and_iff_right fits).trans (and_iff_left stays)).symm
  · have breaks : d.shift t Zone.utc step = .error .panic := by
      rw [shift_months d step known,if_neg fits]
    rw [breaks]
    exact ⟨⟨nofun,fun exact => absurd exact.1 fits⟩,fun _ => rfl⟩

def endOfJanuary : Instant := ⟨1422705600,0⟩

def monthAndDay : Duration := { months := 1,days := 1 }

theorem shift_exact_january : endOfJanuary.utcClock.date.inCalendar = true ∧
    monthAndDay.shift endOfJanuary Zone.utc 1
      = .ok (monthAndDay.movedInstant? endOfJanuary 1) := by
  have known : endOfJanuary.utcClock.date.inCalendar = true := by decide
  have stays : monthAndDay.SecondsStay endOfJanuary 1 := fun _ => by decide
  exact ⟨known,(shift_exact_iff monthAndDay 1 known).1.mpr ⟨by decide,.inl (by decide),stays⟩⟩

-- Twice 2^31 months are cut off to none at all, 2^31 days are a panic, and so are more years than a
-- word has months for, even if nothing is to be moved.
theorem shift_cut_off :
    (∃ ages, parse? "P2147483648M" = some ages ∧ ages.movedInstant? endOfJanuary 2 = none ∧
      ages.shift endOfJanuary Zone.utc 2 = .ok (some endOfJanuary)) ∧
    (∃ day, parse? "P1D" = some day ∧ day.movedInstant? endOfJanuary 2147483647 = none ∧
      day.shift endOfJanuary Zone.utc 2147483647 = .error .panic) ∧
    ∃ years, parse? "P357913942Y" = some years ∧
      years.movedInstant? endOfJanuary 0 = some endOfJanuary ∧
      years.shift endOfJanuary Zone.utc 0 = .error .panic := by
  have known : endOfJanuary.inCalendar = true := by decide
  have stays : shiftMonths endOfJanuary.utcClock (({ days := 1 } : Duration).wholeMonths * 2147483647)
      = some endOfJanuary.utcClock := by decide
  refine ⟨⟨{ months := 2147483648 },by decide +kernel,by decide,rfl⟩,
    ⟨{ days := 1 },by decide +kernel,by decide,?_⟩,
    { years := 357913942 },by decide +kernel,by decide,?_⟩
  · rw [shift_made _ _ known (by decide) stays,if_neg (by decide)]
  · rw [shift_months _ _ known,if_neg (by decide)]

end Duration
end OlapQuery.Time
