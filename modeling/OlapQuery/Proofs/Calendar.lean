import OlapQuery.Time.Calendar

-- Day numbers and dates are the same days: each day number has a valid date, each valid date has a
-- day number, and one leads back to the other. In between stand years that run from March, in
-- which the leap day comes last.

namespace OlapQuery.Time

theorem isLeapYear_iff (year : Int) :
    isLeapYear year = true ↔ year % 4 = 0 ∧ (year % 100 ≠ 0 ∨ year % 400 = 0) := by
  simp [isLeapYear]

theorem isValid_iff (d : Date) : d.isValid = true ↔
    1 ≤ d.month ∧ d.month ≤ 12 ∧ 1 ≤ d.day ∧ d.day ≤ daysInMonth d.year d.month := by
  simp [Date.isValid,and_assoc]

theorem daysInMonth_february (year : Int) :
    daysInMonth year 2 = if isLeapYear year then 29 else 28 := rfl

-- A day of a year from March. The last of them is there only if February has it.
structure MarchDay (year dayOfYear : Int) : Prop where
  least : 0 ≤ dayOfYear
  most : dayOfYear ≤ 365
  leap : dayOfYear = 365 → isLeapYear (year + 1) = true

def Date.ofMarch (year dayOfYear : Int) : Date :=
  let fromMarch := (5 * dayOfYear + 2) / 153
  let day := dayOfYear - daysBeforeMonth fromMarch + 1
  let month := if fromMarch < 10 then fromMarch + 3 else fromMarch - 9
  { year := if month ≤ 2 then year + 1 else year,month := month.toNat,day := day.toNat }

def marchDays (year dayOfYear : Int) : Int :=
  year / 400 * 146097 + (year % 400 * 365 + year % 400 / 4 - year % 400 / 100 + dayOfYear) - 719468

section March

theorem dayNumber_spring {year : Int} {month day : Nat} (spring : 2 < month) :
    ({ year,month,day : Date }).dayNumber
      = marchDays year (daysBeforeMonth (month - 3) + day - 1) := by
  have late : ¬ month ≤ 2 := by omega
  simp [Date.dayNumber,marchDays,late]

theorem dayNumber_winter {year : Int} {month day : Nat} (winter : month ≤ 2) :
    ({ year,month,day : Date }).dayNumber
      = marchDays (year - 1) (daysBeforeMonth (month + 9) + day - 1) := by
  simp [Date.dayNumber,marchDays,winter]

theorem ofMarch_spring {year dayOfYear fromMarch : Int} (is : fromMarch = (5 * dayOfYear + 2) / 153)
    (least : 0 ≤ fromMarch) (spring : fromMarch < 10) :
    Date.ofMarch year dayOfYear = {
      year,month := (fromMarch + 3).toNat
      day := (dayOfYear - daysBeforeMonth fromMarch + 1).toNat } := by
  have late : ¬ fromMarch + 3 ≤ 2 := by omega
  simp only [Date.ofMarch,← is,if_pos spring,if_neg late]

theorem ofMarch_winter {year dayOfYear fromMarch : Int} (is : fromMarch = (5 * dayOfYear + 2) / 153)
    (winter : 10 ≤ fromMarch) (most : fromMarch ≤ 11) :
    Date.ofMarch year dayOfYear = {
      year := year + 1,month := (fromMarch - 9).toNat
      day := (dayOfYear - daysBeforeMonth fromMarch + 1).toNat } := by
  have late : ¬ fromMarch < 10 := by omega
  have early : fromMarch - 9 ≤ 2 := by omega
  simp only [Date.ofMarch,← is,if_neg late,if_pos early]

theorem marchDay_month {year dayOfYear : Int} (day : MarchDay year dayOfYear) :
    ∃ fromMarch, fromMarch = (5 * dayOfYear + 2) / 153 ∧ 0 ≤ fromMarch ∧ fromMarch ≤ 11 ∧
      daysBeforeMonth fromMarch ≤ dayOfYear := by
  obtain ⟨least,most,-⟩ := day
  refine ⟨_,rfl,?_,?_,?_⟩
  · omega
  · omega
  · unfold daysBeforeMonth; omega

theorem ofMarch_dayNumber {year dayOfYear : Int} (day : MarchDay year dayOfYear) :
    (Date.ofMarch year dayOfYear).dayNumber = marchDays year dayOfYear := by
  obtain ⟨fromMarch,is,least,most,first⟩ := marchDay_month day
  by_cases spring : fromMarch < 10
  · have month : ((fromMarch + 3).toNat : Int) - 3 = fromMarch := by omega
    rw [ofMarch_spring is least spring,dayNumber_spring (by omega),month]
    congr 1
    omega
  · have month : ((fromMarch - 9).toNat : Int) + 9 = fromMarch := by omega
    rw [ofMarch_winter is (by omega) most,dayNumber_winter (by omega),month,Int.add_sub_cancel]
    congr 1
    omega

theorem ofMarch_valid {year dayOfYear : Int} (day : MarchDay year dayOfYear) :
    (Date.ofMarch year dayOfYear).isValid = true := by
  obtain ⟨fromMarch,is,least,most,first⟩ := marchDay_month day
  unfold daysBeforeMonth at first
  rw [isValid_iff]
  by_cases spring : fromMarch < 10
  · rw [ofMarch_spring is least spring]
    dsimp only [daysBeforeMonth]
    refine ⟨by omega,by omega,by omega,?_⟩
    have months : fromMarch = 0 ∨ fromMarch = 1 ∨ fromMarch = 2 ∨ fromMarch = 3 ∨ fromMarch = 4 ∨
        fromMarch = 5 ∨ fromMarch = 6 ∨ fromMarch = 7 ∨ fromMarch = 8 ∨ fromMarch = 9 := by omega
    rcases months with rfl | rfl | rfl | rfl | rfl | rfl | rfl | rfl | rfl | rfl <;>
      simp [daysInMonth] <;> omega
  · rw [ofMarch_winter is (by omega) most]
    dsimp only [daysBeforeMonth]
    refine ⟨by omega,by omega,by omega,?_⟩
    have months : fromMarch = 10 ∨ fromMarch = 11 := by omega
    rcases months with rfl | rfl
    · simp [daysInMonth]; omega
    · have february := daysInMonth_february (year + 1)
      have length := day.most
      by_cases leap : isLeapYear (year + 1) = true
      · simp only [leap,if_true] at february
        simp [february]; omega
      · have common : dayOfYear ≠ 365 := fun last => leap (day.leap last)
        simp only [leap] at february
        simp [february]; omega

theorem spring_month {year : Int} {month day : Nat} (spring : 2 < month) (last : month ≤ 12)
    (least : 1 ≤ day) (most : day ≤ daysInMonth year month) :
    (month : Int) - 3 = (5 * (daysBeforeMonth (month - 3) + day - 1) + 2) / 153 := by
  have months : month = 3 ∨ month = 4 ∨ month = 5 ∨ month = 6 ∨ month = 7 ∨ month = 8 ∨
      month = 9 ∨ month = 10 ∨ month = 11 ∨ month = 12 := by omega
  rcases months with rfl | rfl | rfl | rfl | rfl | rfl | rfl | rfl | rfl | rfl <;>
    simp [daysInMonth,daysBeforeMonth] at most ⊢ <;> omega

theorem winter_month {month day : Nat} (first : 1 ≤ month) (winter : month ≤ 2)
    (least : 1 ≤ day) (most : day ≤ 31) (february : month = 2 → day ≤ 29) :
    (month : Int) + 9 = (5 * (daysBeforeMonth (month + 9) + day - 1) + 2) / 153 := by
  have months : month = 1 ∨ month = 2 := by omega
  rcases months with rfl | rfl
  · simp [daysBeforeMonth]; omega
  · simp [daysBeforeMonth] at february ⊢; omega

theorem daysInMonth_le (year : Int) (month : Nat) : daysInMonth year month ≤ 31 := by
  unfold daysInMonth
  split
  · split <;> omega
  · split <;> omega

theorem valid_march {d : Date} (valid : d.isValid = true) :
    ∃ year dayOfYear, MarchDay year dayOfYear ∧ d = Date.ofMarch year dayOfYear := by
  obtain ⟨year,month,day⟩ := d
  obtain ⟨first,last,least,most⟩ := (isValid_iff _).mp valid
  dsimp only at first last least most
  have length := daysInMonth_le year month
  by_cases winter : month ≤ 2
  · have leap : month = 2 → day ≤ 29 ∧ (day = 29 → isLeapYear year = true) := by
      rintro rfl
      rw [daysInMonth_february] at most
      by_cases leap : isLeapYear year = true
      · simp only [leap,if_true] at most
        exact ⟨most,fun _ => leap⟩
      · simp only [leap] at most
        exact ⟨by simp at most; omega,fun full => by simp at most; omega⟩
    have is := winter_month first winter least (by omega) (fun february => (leap february).1)
    refine ⟨year - 1,daysBeforeMonth (month + 9) + day - 1,⟨?_,?_,?_⟩,?_⟩
    · unfold daysBeforeMonth; omega
    · unfold daysBeforeMonth; omega
    · intro full
      unfold daysBeforeMonth at full
      have february : month = 2 := by omega
      rw [Int.sub_add_cancel]
      exact (leap february).2 (by omega)
    · rw [ofMarch_winter is (by omega) (by omega)]
      simp
      omega
  · have is := spring_month (by omega) last least most
    refine ⟨year,daysBeforeMonth (month - 3) + day - 1,⟨?_,?_,?_⟩,?_⟩
    · unfold daysBeforeMonth; omega
    · unfold daysBeforeMonth; omega
    · intro full
      unfold daysBeforeMonth at full
      omega
    · rw [ofMarch_spring is (by omega) (by omega)]
      simp
      omega

end March

section Eras

-- A day of an era of 400 years, by the centuries, the cycles of four years and the years before
-- it. Only the last year of a cycle has a leap day, and of the last cycle in a century only the
-- one that ends the era.
structure EraDay (day century cycle year dayOfYear : Int) : Prop where
  centuries : 0 ≤ century ∧ century ≤ 3
  cycles : 0 ≤ cycle ∧ cycle ≤ 24
  years : 0 ≤ year ∧ year ≤ 3
  days : 0 ≤ dayOfYear ∧ dayOfYear ≤ 365
  leap : dayOfYear = 365 → year = 3 ∧ (cycle = 24 → century = 3)
  whole : day = 36524 * century + 1461 * cycle + 365 * year + dayOfYear

theorem eraDay_exists {day : Int} (least : 0 ≤ day) (below : day < 146097) :
    ∃ century cycle year dayOfYear, EraDay day century cycle year dayOfYear := by
  obtain ⟨century,hundreds⟩ : ∃ c : Int, c = min (day / 36524) 3 := ⟨_,rfl⟩
  obtain ⟨cycle,fours⟩ : ∃ c : Int, c = (day - 36524 * century) / 1461 := ⟨_,rfl⟩
  obtain ⟨year,ones⟩ : ∃ y : Int, y = min ((day - 36524 * century - 1461 * cycle) / 365) 3 :=
    ⟨_,rfl⟩
  refine ⟨century,cycle,year,day - 36524 * century - 1461 * cycle - 365 * year,?_,?_,?_,?_,?_,?_⟩
  all_goals omega

variable {day century cycle year dayOfYear : Int} (is : EraDay day century cycle year dayOfYear)
include is

theorem EraDay.bounds : 0 ≤ day ∧ day < 146097 := by
  obtain ⟨⟨_,_⟩,⟨_,_⟩,⟨_,_⟩,⟨_,_⟩,leap,whole⟩ := is
  omega

theorem EraDay.year_eq :
    (day - day / 1460 + day / 36524 - day / 146096) / 365 = 100 * century + 4 * cycle + year := by
  obtain ⟨⟨_,_⟩,⟨_,_⟩,⟨_,_⟩,⟨_,_⟩,leap,whole⟩ := is
  have fours : day / 1460
      = 25 * century + cycle + (24 * century + cycle + 365 * year + dayOfYear) / 1460 := by omega
  have hundreds : day / 36524 - day / 146096 = century := by
    by_cases last : day = 146096
    · subst last; omega
    · have first : day / 146096 = 0 := by omega
      rw [first]
      omega
  rw [fours]
  omega

theorem EraDay.march (era : Int) :
    MarchDay (100 * century + 4 * cycle + year + era * 400) dayOfYear := by
  obtain ⟨⟨_,_⟩,⟨_,_⟩,⟨_,_⟩,⟨_,_⟩,leap,whole⟩ := is
  refine ⟨by omega,by omega,fun last => ?_⟩
  obtain ⟨_,_⟩ := leap last
  rw [isLeapYear_iff]
  omega

theorem marchDays_era (era : Int) :
    marchDays (100 * century + 4 * cycle + year + era * 400) dayOfYear
      = era * 146097 + day - 719468 := by
  obtain ⟨⟨_,_⟩,⟨_,_⟩,⟨_,_⟩,⟨_,_⟩,leap,whole⟩ := is
  unfold marchDays
  omega

theorem ofDayNumber_era (era : Int) :
    Date.ofDayNumber (era * 146097 + day - 719468)
      = Date.ofMarch (100 * century + 4 * cycle + year + era * 400) dayOfYear := by
  obtain ⟨least,below⟩ := is.bounds
  have shifted : era * 146097 + day - 719468 + 719468 = day + era * 146097 := by omega
  have eras : (day + era * 146097) / 146097 = era := by omega
  have days : (day + era * 146097) % 146097 = day := by omega
  have inYear : day - (365 * (100 * century + 4 * cycle + year)
      + (100 * century + 4 * cycle + year) / 4 - (100 * century + 4 * cycle + year) / 100)
      = dayOfYear := by
    obtain ⟨⟨_,_⟩,⟨_,_⟩,⟨_,_⟩,⟨_,_⟩,leap,whole⟩ := is
    have fours : (100 * century + 4 * cycle + year) / 4 = 25 * century + cycle := by omega
    have hundreds : (100 * century + 4 * cycle + year) / 100 = century := by omega
    omega
  simp only [Date.ofDayNumber,Date.ofMarch,shifted,eras,days,is.year_eq,inYear]

end Eras

theorem march_eraDay {year dayOfYear : Int} (day : MarchDay year dayOfYear) :
    ∃ inEra, EraDay inEra (year % 400 / 100) (year % 100 / 4) (year % 4) dayOfYear := by
  obtain ⟨least,most,leap⟩ := day
  refine ⟨_,⟨?_,?_,?_,⟨least,most⟩,?_,rfl⟩⟩
  · omega
  · omega
  · omega
  · intro last
    obtain ⟨_,_⟩ := (isLeapYear_iff _).mp (leap last)
    omega

theorem ofDayNumber_marchDays {year dayOfYear : Int} (day : MarchDay year dayOfYear) :
    Date.ofDayNumber (marchDays year dayOfYear) = Date.ofMarch year dayOfYear := by
  obtain ⟨inEra,is⟩ := march_eraDay day
  have whole : year
      = 100 * (year % 400 / 100) + 4 * (year % 100 / 4) + year % 4 + year / 400 * 400 := by
    omega
  have days := marchDays_era is (year / 400)
  have date := ofDayNumber_era is (year / 400)
  rw [← whole] at days date
  rw [days,date]

theorem ofDayNumber_march (n : Int) : ∃ year dayOfYear, MarchDay year dayOfYear ∧
    n = marchDays year dayOfYear ∧ Date.ofDayNumber n = Date.ofMarch year dayOfYear := by
  obtain ⟨century,cycle,year,dayOfYear,is⟩ :=
    @eraDay_exists ((n + 719468) % 146097) (by omega) (by omega)
  have whole : n = (n + 719468) / 146097 * 146097 + (n + 719468) % 146097 - 719468 := by omega
  refine ⟨_,_,is.march ((n + 719468) / 146097),?_,?_⟩
  · rw [marchDays_era is]; exact whole
  · rw [← ofDayNumber_era is,← whole]

theorem dayNumber_ofDayNumber (n : Int) : (Date.ofDayNumber n).dayNumber = n := by
  obtain ⟨year,dayOfYear,day,is,date⟩ := ofDayNumber_march n
  rw [date,ofMarch_dayNumber day,is]

theorem ofDayNumber_valid (n : Int) : (Date.ofDayNumber n).isValid = true := by
  obtain ⟨year,dayOfYear,day,-,date⟩ := ofDayNumber_march n
  rw [date]
  exact ofMarch_valid day

theorem ofDayNumber_dayNumber {d : Date} (valid : d.isValid = true) :
    Date.ofDayNumber d.dayNumber = d := by
  obtain ⟨year,dayOfYear,day,rfl⟩ := valid_march valid
  rw [ofMarch_dayNumber day,ofDayNumber_marchDays day]

def newYear (year : Int) : Int :=
  ({ year,month := 1,day := 1 : Date }).dayNumber

theorem marchDays_next (year : Int) : marchDays (year - 1) 365 ≤ marchDays year 0 ∧
    marchDays year 0 ≤ marchDays (year - 1) 366 := by
  unfold marchDays
  omega

theorem newYear_bounds {d : Date} (valid : d.isValid = true) :
    newYear d.year ≤ d.dayNumber ∧ d.dayNumber ≤ newYear d.year + 365 := by
  obtain ⟨year,month,day⟩ := d
  obtain ⟨first,last,least,most⟩ := (isValid_iff _).mp valid
  dsimp only at first last least most
  have length := daysInMonth_le year month
  have start : newYear year = marchDays (year - 1) 306 := dayNumber_winter (by decide)
  have next := marchDays_next year
  rw [start]
  by_cases winter : month ≤ 2
  · have february : month = 2 → day ≤ 29 := by
      rintro rfl
      rw [daysInMonth_february] at most
      split at most <;> omega
    rw [dayNumber_winter winter]
    unfold marchDays daysBeforeMonth
    omega
  · rw [dayNumber_spring (by omega)]
    unfold marchDays daysBeforeMonth at *
    omega

end OlapQuery.Time
