import OlapQuery.Proofs.Calendar
import OlapQuery.Time.Zone

-- Months one after the other. A month has a number, counted from that of January of the year 0; the
-- first days of the months ascend with it, so that a day lies in the month between whose first day
-- and that of the next it lies. Moving a date by months moves its number and keeps the day, unless
-- the month is too short.

namespace OlapQuery.Time

def Date.monthNumber (d : Date) : Int :=
  d.year * 12 + d.month - 1

def firstOfMonth (n : Int) : Date :=
  { year := n / 12,month := (n % 12).toNat + 1,day := 1 }

def monthStart (n : Int) : Int :=
  (firstOfMonth n).dayNumber

section Starts

theorem daysInMonth_pos (year : Int) (month : Nat) : 28 ≤ daysInMonth year month := by
  unfold daysInMonth
  split
  · split <;> omega
  · split <;> omega

theorem firstOfMonth_valid {year : Int} {month : Nat} (least : 1 ≤ month) (most : month ≤ 12) :
    ({ year,month,day := 1 : Date }).isValid = true := by
  have length := daysInMonth_pos year month
  exact (isValid_iff _).mpr ⟨least,most,Nat.le_refl 1,by dsimp only; omega⟩

theorem monthStart_valid (n : Int) : (firstOfMonth n).isValid = true :=
  firstOfMonth_valid (by omega) (by omega)

theorem firstOfMonth_monthNumber {d : Date} (valid : d.isValid = true) :
    firstOfMonth d.monthNumber = { d with day := 1 } := by
  obtain ⟨first,last,-,-⟩ := (isValid_iff d).mp valid
  unfold firstOfMonth Date.monthNumber
  congr 1 <;> omega

theorem dayNumber_day (year : Int) (month day : Nat) :
    ({ year,month,day : Date }).dayNumber
      = ({ year,month,day := 1 : Date }).dayNumber + day - 1 := by
  simp only [Date.dayNumber]
  omega

theorem february_march (year : Int) : marchDays year 0
    = marchDays (year - 1) (337 + daysInMonth year 2) := by
  rw [daysInMonth_february]
  by_cases leap : isLeapYear year = true
  · rw [if_pos leap]
    rw [isLeapYear_iff] at leap
    unfold marchDays
    omega
  · rw [if_neg leap]
    rw [isLeapYear_iff] at leap
    unfold marchDays
    omega

theorem nextMonth_start {year : Int} {month : Nat} (first : 1 ≤ month) (last : month ≤ 11) :
    ({ year,month := month + 1,day := 1 : Date }).dayNumber
      = ({ year,month,day := 1 : Date }).dayNumber + daysInMonth year month := by
  by_cases winter : month = 1
  · subst winter
    rw [dayNumber_winter (by decide),dayNumber_winter (by decide)]
    simp [marchDays,daysBeforeMonth,daysInMonth]
    omega
  · by_cases february : month = 2
    · subst february
      rw [dayNumber_spring (by decide),dayNumber_winter (by decide)]
      have next := february_march year
      unfold marchDays daysBeforeMonth at *
      omega
    · rw [dayNumber_spring (by omega),dayNumber_spring (by omega)]
      have months : month = 3 ∨ month = 4 ∨ month = 5 ∨ month = 6 ∨ month = 7 ∨ month = 8 ∨
          month = 9 ∨ month = 10 ∨ month = 11 := by omega
      rcases months with rfl | rfl | rfl | rfl | rfl | rfl | rfl | rfl | rfl <;>
        simp [marchDays,daysBeforeMonth,daysInMonth] <;> omega

theorem nextYear_start (year : Int) :
    ({ year := year + 1,month := 1,day := 1 : Date }).dayNumber
      = ({ year,month := 12,day := 1 : Date }).dayNumber + 31 := by
  rw [dayNumber_winter (by decide),dayNumber_spring (by decide),Int.add_sub_cancel]
  simp [marchDays,daysBeforeMonth]
  omega

theorem monthStart_next (n : Int) :
    monthStart (n + 1) = monthStart n + daysInMonth (n / 12) ((n % 12).toNat + 1) := by
  by_cases last : n % 12 = 11
  · have year : (n + 1) / 12 = n / 12 + 1 := by omega
    have january : (n + 1) % 12 = 0 := by omega
    simp only [monthStart,firstOfMonth,year,january,last]
    exact nextYear_start (n / 12)
  · have year : (n + 1) / 12 = n / 12 := by omega
    have month : ((n + 1) % 12).toNat = (n % 12).toNat + 1 := by omega
    simp only [monthStart,firstOfMonth,year,month]
    exact nextMonth_start (by omega) (by omega)

theorem monthStart_ascends {m n : Int} (before : m < n) : monthStart m < monthStart n := by
  obtain ⟨k,rfl⟩ := Int.lt.dest before
  induction k with
  | zero =>
      have length := daysInMonth_pos (m / 12) ((m % 12).toNat + 1)
      have next := monthStart_next m
      rw [show m + ((0 : Nat).succ : Nat) = m + 1 from rfl]
      omega
  | succ k ih =>
      have earlier := ih (by omega)
      have length := daysInMonth_pos ((m + (k.succ : Nat)) / 12) (((m + (k.succ : Nat)) % 12).toNat + 1)
      have next := monthStart_next (m + (k.succ : Nat))
      rw [show m + ((k + 1).succ : Nat) = m + (k.succ : Nat) + 1 by omega]
      omega

end Starts

section Days

variable {d : Date} (valid : d.isValid = true)
include valid

theorem day_inMonth : monthStart d.monthNumber ≤ d.dayNumber ∧
    d.dayNumber < monthStart (d.monthNumber + 1) := by
  obtain ⟨first,last,least,most⟩ := (isValid_iff d).mp valid
  have year : d.monthNumber / 12 = d.year := by unfold Date.monthNumber; omega
  have month : (d.monthNumber % 12).toNat + 1 = d.month := by unfold Date.monthNumber; omega
  have day := dayNumber_day d.year d.month d.day
  rw [monthStart_next,year,month,monthStart,firstOfMonth_monthNumber valid]
  change d.dayNumber = _ at day
  omega

-- A day is on or after the first of a month if and only if its own month is that or a later one.
theorem monthStart_le {n : Int} : monthStart n ≤ d.dayNumber ↔ n ≤ d.monthNumber := by
  obtain ⟨start,next⟩ := day_inMonth valid
  constructor
  · intro after
    rw [← Int.not_lt]
    intro before
    rcases Int.lt_or_eq_of_le (Int.add_one_le_of_lt before) with later | same
    · have later := monthStart_ascends later
      omega
    · rw [same] at next
      omega
  · intro after
    rcases Int.lt_or_eq_of_le after with earlier | same
    · have earlier := monthStart_ascends earlier
      omega
    · rw [same]
      exact start

theorem lt_monthStart {n : Int} : d.dayNumber < monthStart n ↔ d.monthNumber < n := by
  have after := @monthStart_le d valid n
  omega

end Days

section Moves

variable {d : Date} (valid : d.isValid = true) (months : Int)

theorem monthNumber_addMonths : (d.addMonths months).monthNumber = d.monthNumber + months := by
  dsimp only [Date.addMonths,Date.monthNumber]
  omega

theorem year_addMonths : (d.addMonths months).year = (d.monthNumber + months) / 12 := rfl

theorem day_addMonths : (d.addMonths months).day
    = min d.day (daysInMonth (d.addMonths months).year (d.addMonths months).month) := rfl

include valid

theorem addMonths_valid : (d.addMonths months).isValid = true := by
  obtain ⟨-,-,least,-⟩ := (isValid_iff d).mp valid
  have length := daysInMonth_pos (d.addMonths months).year (d.addMonths months).month
  have day := day_addMonths (d := d) months
  rw [isValid_iff]
  refine ⟨?_,?_,by omega,by omega⟩
  · dsimp only [Date.addMonths]; omega
  · dsimp only [Date.addMonths]; omega

theorem addMonths_zero : d.addMonths 0 = d := by
  obtain ⟨first,last,least,most⟩ := (isValid_iff d).mp valid
  have year : (d.year * 12 + (d.month : Int) - 1 + 0) / 12 = d.year := by omega
  have month : ((d.year * 12 + (d.month : Int) - 1 + 0) % 12).toNat + 1 = d.month := by omega
  simp only [Date.addMonths,year,month,Nat.min_eq_left most]

end Moves

theorem firstOfMonth_addMonths (n months : Int) :
    (firstOfMonth n).addMonths months = firstOfMonth (n + months) := by
  have count : n / 12 * 12 + ((n % 12).toNat + 1 : Nat) - 1 + months = n + months := by omega
  have length := daysInMonth_pos ((n + months) / 12) (((n + months) % 12).toNat + 1)
  simp only [firstOfMonth,Date.addMonths,count,Date.mk.injEq,true_and]
  omega

section Calendar

-- The first day of the calendar, and the first after it.
def calendarStart : Int := monthStart (firstYear * 12)
def calendarEnd : Int := monthStart ((lastYear + 1) * 12)

theorem inCalendar_iff {d : Date} : d.inCalendar = true ↔ firstYear ≤ d.year ∧ d.year ≤ lastYear := by
  simp [Date.inCalendar]

section
variable {d : Date} (valid : d.isValid = true)
include valid

theorem calendarStart_le : calendarStart ≤ d.dayNumber ↔ firstYear ≤ d.year := by
  obtain ⟨first,last,-,-⟩ := (isValid_iff d).mp valid
  rw [calendarStart,monthStart_le valid]
  unfold Date.monthNumber
  omega

theorem lt_calendarEnd : d.dayNumber < calendarEnd ↔ d.year ≤ lastYear := by
  obtain ⟨first,last,-,-⟩ := (isValid_iff d).mp valid
  rw [calendarEnd,lt_monthStart valid]
  unfold Date.monthNumber
  omega

end

end Calendar

namespace LocalTime

theorem date_valid (t : LocalTime) : t.date.isValid = true :=
  ofDayNumber_valid _

theorem dayNumber_date (t : LocalTime) : t.date.dayNumber = t.dayNumber :=
  dayNumber_ofDayNumber _

theorem firstYear_le (t : LocalTime) : firstYear ≤ t.date.year ↔ calendarStart * 86400 ≤ t.seconds := by
  rw [← calendarStart_le t.date_valid,dayNumber_date,dayNumber]
  omega

theorem le_lastYear (t : LocalTime) : t.date.year ≤ lastYear ↔ t.seconds < calendarEnd * 86400 := by
  rw [← lt_calendarEnd t.date_valid,dayNumber_date,dayNumber]
  omega

def onDate (t : LocalTime) (date : Date) : LocalTime :=
  { t with seconds := date.dayNumber * 86400 + t.secondOfDay }

def addMonths (t : LocalTime) (months : Int) : LocalTime :=
  t.onDate (t.date.addMonths months)

theorem dayNumber_onDate (t : LocalTime) (date : Date) : (t.onDate date).dayNumber = date.dayNumber := by
  dsimp only [onDate,dayNumber,secondOfDay]
  omega

theorem date_onDate (t : LocalTime) {date : Date} (valid : date.isValid = true) :
    (t.onDate date).date = date := by
  rw [LocalTime.date,dayNumber_onDate,ofDayNumber_dayNumber valid]

theorem onDate_onDate (t : LocalTime) (date other : Date) :
    (t.onDate date).onDate other = t.onDate other := by
  have time : (t.onDate date).secondOfDay = t.secondOfDay := by
    dsimp only [onDate,secondOfDay]
    omega
  rw [onDate,time]
  rfl

theorem onDate_date (t : LocalTime) : t.onDate t.date = t := by
  rw [onDate,dayNumber_date]
  obtain ⟨seconds,nanos⟩ := t
  simp only [dayNumber,secondOfDay,mk.injEq,and_true]
  omega

theorem date_addMonths (t : LocalTime) (months : Int) :
    (t.addMonths months).date = t.date.addMonths months :=
  t.date_onDate (addMonths_valid t.date_valid months)

theorem addMonths_zero (t : LocalTime) : t.addMonths 0 = t := by
  rw [addMonths,Time.addMonths_zero t.date_valid,onDate_date]

theorem addMonths_addMonths (t : LocalTime) (first second : Int) :
    (t.addMonths first).addMonths second = t.onDate ((t.date.addMonths first).addMonths second) := by
  rw [addMonths,date_addMonths,addMonths,onDate_onDate]

theorem monthStart_seconds (t : LocalTime) (n : Int) :
    monthStart n * 86400 ≤ t.seconds ↔ n ≤ t.date.monthNumber := by
  rw [← monthStart_le t.date_valid,dayNumber_date,dayNumber]
  omega

theorem monthStart_addMonths (n months : Int) :
    (midnight (monthStart n)).addMonths months = midnight (monthStart (n + months)) := by
  have day : (midnight (monthStart n)).date = firstOfMonth n := by
    have first : (midnight (monthStart n)).dayNumber = (firstOfMonth n).dayNumber := by
      simp [midnight,ofParts,dayNumber,monthStart]
    rw [LocalTime.date,first,ofDayNumber_dayNumber (monthStart_valid n)]
  rw [addMonths,day,firstOfMonth_addMonths]
  simp [onDate,midnight,ofParts,secondOfDay,monthStart]

theorem addSeconds_zero (t : LocalTime) : t.addSeconds 0 = t := by
  simp [addSeconds]

theorem addSeconds_forward (t : LocalTime) {delta : Int} (forward : 0 ≤ delta) :
    t.seconds ≤ (t.addSeconds delta).seconds := by
  unfold addSeconds
  split
  · split <;> dsimp only <;> omega
  · dsimp only; omega

theorem addSeconds_back (t : LocalTime) {delta : Int} (back : delta ≤ 0) :
    (t.addSeconds delta).seconds ≤ t.seconds := by
  unfold addSeconds
  split
  · rename_i leap
    simp only [Bool.and_eq_true,bne_iff_ne,ne_eq] at leap
    split <;> dsimp only <;> omega
  · dsimp only; omega

theorem addSeconds_plain {t : LocalTime} (plain : t.nanos < 1000000000) (delta : Int) :
    t.addSeconds delta = { t with seconds := t.seconds + delta } := by
  have second : ¬ t.nanos ≥ 1000000000 := by omega
  simp [addSeconds,second]

end LocalTime

theorem inCalendar_seconds {t : Instant} : t.inCalendar = true ↔
    calendarStart * 86400 ≤ t.seconds ∧ t.seconds < calendarEnd * 86400 := by
  rw [Instant.inCalendar,inCalendar_iff,LocalTime.firstYear_le,LocalTime.le_lastYear]
  rfl

-- The clock of Greenwich shows each instant once.
section Greenwich

theorem utc_localTime (t : Instant) : Zone.utc.localTime t = t.utcClock := by
  simp [Zone.localTime,Zone.offsetAt,Zone.utc,Zone.greenwich,Instant.utcClock]

theorem utc_clock {t : Instant} (inside : t.inCalendar = true) : Zone.utc.clock t = .ok t.utcClock := by
  rw [Zone.clock,utc_localTime]
  exact if_pos inside

theorem utc_clock_outside {t : Instant} (outside : t.inCalendar = false) :
    Zone.utc.clock t = .error .panic := by
  rw [Zone.clock,utc_localTime]
  exact if_neg (Bool.eq_false_iff.mp outside)

theorem utcClock_inj {s t : Instant} : s.utcClock = t.utcClock ↔ s = t := by
  obtain ⟨seconds,nanos⟩ := s
  obtain ⟨otherSeconds,otherNanos⟩ := t
  simp [Instant.utcClock]

theorem utc_instant {clock : LocalTime} (inside : clock.date.inCalendar = true) :
    Zone.utc.instant? clock = some { seconds := clock.seconds,nanos := clock.nanos } := by
  have shown : ({ seconds := clock.seconds,nanos := clock.nanos } : Instant).inCalendar = true :=
    inside
  simp [Zone.instant?,Zone.momentsOf,Zone.offsetAt,Zone.utc,Zone.greenwich,shown]

end Greenwich

end OlapQuery.Time
