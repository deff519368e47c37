import OlapQuery.Proofs.TimeBuckets
import OlapQuery.Time.ZoneTable

-- Flooring a second time. What a time is floored to is the start of a bucket, and the start of a
-- bucket is floored to itself, whatever the count: one that does not tile the next larger unit, one
-- that is more than this unit holds, or one of years that is read as a negative number. On its
-- clock the start is never after the time that was floored. As an instant it can be earlier by more
-- than a bucket: a clock that was turned back shows the start twice, and the first of the two is
-- taken.

namespace OlapQuery.Time

-- The order of what clocks show, whatever instants they show it at.
instance : LE LocalTime where
  le a b := a.seconds < b.seconds ∨ (a.seconds = b.seconds ∧ a.nanos ≤ b.nanos)

section Parts

variable {day : Int} {hour minute second : Nat}

-- What a clock shows, to the second.
structure LocalTime.Shows (clock : LocalTime) (day : Int) (hour minute second : Nat) : Prop where
  day : clock.dayNumber = day
  hour : clock.hour = hour
  minute : clock.minute = minute
  second : clock.second = second

theorem ofParts_shows (hours : hour < 24) (minutes : minute < 60) (seconds : second < 60) :
    (LocalTime.ofParts day hour minute second).Shows day hour minute second := by
  refine ⟨?_,?_,?_,?_⟩
  · simp only [LocalTime.ofParts,LocalTime.dayNumber]; omega
  · simp only [LocalTime.ofParts,LocalTime.hour,LocalTime.secondOfDay]; omega
  · simp only [LocalTime.ofParts,LocalTime.minute,LocalTime.secondOfDay]; omega
  · simp only [LocalTime.ofParts,LocalTime.second,LocalTime.secondOfDay]; omega

theorem midnight_shows (day : Int) : (LocalTime.midnight day).Shows day 0 0 0 :=
  ofParts_shows (by decide) (by decide) (by decide)

theorem midnight_date {date : Date} (valid : date.isValid = true) :
    (LocalTime.midnight date.dayNumber).date = date := by
  rw [LocalTime.date,(midnight_shows _).day,ofDayNumber_dayNumber valid]

variable (clock : LocalTime)

theorem LocalTime.fields_bounded : clock.hour < 24 ∧ clock.minute < 60 ∧ clock.second < 60 := by
  refine ⟨?_,Nat.mod_lt _ (by decide),Nat.mod_lt _ (by decide)⟩
  unfold LocalTime.hour LocalTime.secondOfDay
  omega

-- A time on the whole second, which is all that a floor is, by its second alone.
theorem whole_le {whole : Int} (order : whole ≤ clock.seconds) :
    ({ seconds := whole,nanos := 0 } : LocalTime) ≤ clock := by
  change whole < clock.seconds ∨ (whole = clock.seconds ∧ 0 ≤ clock.nanos)
  omega

theorem ofParts_le (order : hour * 3600 + minute * 60 + second
      ≤ clock.hour * 3600 + clock.minute * 60 + clock.second) :
    LocalTime.ofParts clock.dayNumber hour minute second ≤ clock := by
  apply whole_le
  simp only [LocalTime.hour,LocalTime.minute,LocalTime.second,LocalTime.secondOfDay,
    LocalTime.dayNumber] at order ⊢
  omega

theorem midnight_le (before : day ≤ clock.dayNumber) : LocalTime.midnight day ≤ clock := by
  apply whole_le
  unfold LocalTime.dayNumber at before
  omega

theorem firstDay_le {year : Int} {month : Nat} (least : 1 ≤ month) (most : month ≤ 12)
    (order : year * 12 + month ≤ clock.date.year * 12 + clock.date.month) :
    LocalTime.midnight ({ year,month,day := 1 : Date }).dayNumber ≤ clock := by
  have first := firstOfMonth_monthNumber (@firstOfMonth_valid year month least most)
  have start : monthStart ({ year,month,day := 1 : Date }).monthNumber
      = ({ year,month,day := 1 : Date }).dayNumber := congrArg Date.dayNumber first
  apply midnight_le
  rw [← start,← LocalTime.dayNumber_date,monthStart_le clock.date_valid]
  unfold Date.monthNumber
  dsimp only
  omega

end Parts

section Groups

theorem group_group (x n : Nat) : x / n * n / n * n = x / n * n := by
  rcases Nat.eq_zero_or_pos n with rfl | some
  · simp
  · rw [Nat.mul_div_cancel _ some]

theorem signed_ne_zero {word : UInt32} (counted : word ≠ 0) : Duration.signed word ≠ 0 := by
  intro none
  have signed : Duration.signed word = (word.toNat : Int).bmod 4294967296 :=
    BitVec.toInt_eq_toNat_bmod word.toBitVec
  have below := UInt32.toNat_lt word
  rw [signed,Int.bmod_def] at none
  refine counted (UInt32.toNat_inj.mp ?_)
  change word.toNat = 0
  split at none <;> omega

end Groups

-- By the unit: its count and the smaller units are brought down to the first of a group, and the
-- larger ones stay.
theorem floorLocal_again {d : Duration} {clock start : LocalTime}
    (floors : d.floorLocal clock = some start) :
    d.floorLocal start = some start ∧ start ≤ clock := by
  obtain ⟨⟨unit,word⟩,single,floors⟩ := Option.bind_eq_some_iff.mp floors
  obtain ⟨hours,minutes,seconds⟩ := clock.fields_bounded
  obtain ⟨first,last,-,-⟩ := (isValid_iff _).mp clock.date_valid
  have below (x : Nat) : x / word.toNat * word.toNat ≤ x := Nat.div_mul_le_self x word.toNat
  cases unit with
  | second =>
      cases floors
      have less := below clock.second
      have shows := @ofParts_shows clock.dayNumber _ _ _ hours minutes
        (Nat.lt_of_le_of_lt less seconds)
      refine ⟨?_,ofParts_le clock (by omega)⟩
      simp [Duration.floorLocal,single,shows.day,shows.hour,shows.minute,shows.second,group_group]
  | minute =>
      cases floors
      have less := below clock.minute
      have shows := @ofParts_shows clock.dayNumber _ _ _ hours (Nat.lt_of_le_of_lt less minutes)
        (Nat.zero_lt_succ 59)
      refine ⟨?_,ofParts_le clock (by omega)⟩
      simp [Duration.floorLocal,single,shows.day,shows.hour,shows.minute,group_group]
  | hour =>
      cases floors
      have less := below clock.hour
      have shows := @ofParts_shows clock.dayNumber _ _ _ (Nat.lt_of_le_of_lt less hours)
        (Nat.zero_lt_succ 59) (Nat.zero_lt_succ 59)
      refine ⟨?_,ofParts_le clock (by omega)⟩
      simp [Duration.floorLocal,single,shows.day,shows.hour,group_group]
  | day =>
      cases floors
      refine ⟨?_,midnight_le clock (Int.le_refl _)⟩
      simp [Duration.floorLocal,single,(midnight_shows _).day]
  | week =>
      cases floors
      have monday : daysFromMonday (clock.dayNumber - daysFromMonday clock.dayNumber) = 0 := by
        unfold daysFromMonday
        omega
      have back : 0 ≤ daysFromMonday clock.dayNumber := Int.emod_nonneg _ (by decide)
      refine ⟨?_,midnight_le clock (by omega)⟩
      simp [Duration.floorLocal,single,(midnight_shows _).day,monday]
  | month =>
      cases floors
      have less := below (clock.date.month - 1)
      have date := midnight_date (@firstOfMonth_valid clock.date.year
        ((clock.date.month - 1) / word.toNat * word.toNat + 1) (by omega) (by omega))
      refine ⟨?_,firstDay_le clock (by omega) (by omega) (by omega)⟩
      simp [Duration.floorLocal,single,date,group_group]
  | year =>
      obtain ⟨known,floors⟩ := Option.ite_none_right_eq_some.mp floors
      cases floors
      -- The remainder is not negative, whatever the sign of the count.
      have some := signed_ne_zero (singleUnit_count single).1
      have less := Int.ediv_mul_le clock.date.year some
      have date := midnight_date (@firstOfMonth_valid
        (clock.date.year / Duration.signed word * Duration.signed word) 1 (Nat.le_refl 1)
        (by decide))
      refine ⟨?_,firstDay_le clock (Nat.le_refl 1) (by decide) (by omega)⟩
      simp [Duration.floorLocal,single,date,Int.mul_ediv_cancel _ some,known]

theorem instant_shown {zone : Zone} {clock : LocalTime} {t : Instant}
    (found : zone.instant? clock = some t) : zone.localTime t = clock := by
  obtain ⟨found,-⟩ := Option.filter_eq_some_iff.mp found
  obtain ⟨moment,least,rfl⟩ := Option.map_eq_some_iff.mp found
  obtain ⟨-,shown⟩ := List.mem_filter.mp (List.min?_mem least)
  simp only [Zone.localTime,beq_iff_eq.mp shown]

-- Flooring is settled after the first time, and no clock is moved forward by it. Of the zone only
-- that is used which holds of all: that its clock shows the time which an instant is found for.
theorem floor_settled {d : Duration} {zone : Zone} {t s : Instant}
    (floors : d.floor t zone = .ok (some s)) :
    d.floor s zone = .ok (some s) ∧ zone.localTime s ≤ zone.localTime t := by
  obtain ⟨-,start,starts,inside,found⟩ := Duration.floor_some.mp floors
  obtain ⟨again,order⟩ := floorLocal_again starts
  rw [Duration.floor_some,instant_shown found]
  exact ⟨⟨inside,start,again,inside,found⟩,order⟩

-- The night in November 2015 in which the clock of Los Angeles was turned back: when it shows half
-- past one for the second time, it has shown one o'clock twice.
def halfPastOne : Instant := ⟨1446370200,0⟩

theorem floor_settled_november :
    ({ hours := 1 } : Duration).floor halfPastOne Zone.losAngeles = .ok (some ⟨1446364800,0⟩) ∧
    ({ hours := 1 } : Duration).floor ⟨1446364800,0⟩ Zone.losAngeles
      = .ok (some ⟨1446364800,0⟩) ∧
    Zone.losAngeles.localTime ⟨1446364800,0⟩ ≤ Zone.losAngeles.localTime halfPastOne := by
  have floors : ({ hours := 1 } : Duration).floor halfPastOne Zone.losAngeles
      = .ok (some ⟨1446364800,0⟩) := by decide +kernel
  exact ⟨floors,floor_settled floors⟩

end OlapQuery.Time
