import Mathlib.Tactic.Ring
import OlapQuery.Binding
import OlapQuery.Proofs.PlainRows
import OlapQuery.Proofs.Shifts
import OlapQuery.Proofs.TimeLifting

-- Buckets of time as a grid. They are numbered, each has the second that it starts at, and a second
-- is in the bucket between whose start and that of the next it lies. Units up to the week have
-- buckets of one length; months and years go by the numbers of months. Flooring finds the start of
-- the bucket and shifting the start of the next.

namespace OlapQuery

namespace Time

section Units

-- How many of a unit make up the next larger one. A bucket of more than one day or week is not
-- allowed, and one of any number of years is.
def CalendarUnit.inParent : CalendarUnit → Nat
  | .second => 60
  | .minute => 60
  | .hour => 24
  | .day => 1
  | .week => 1
  | .month => 12
  | .year => 0

variable {d : Duration} {unit : CalendarUnit} {word : UInt32}

theorem singleUnit_count (single : d.singleUnit = some (unit,word)) :
    word ≠ 0 ∧ ∀ other, d.count other = if other = unit then word else 0 := by
  apply Duration.lonePart_count
  unfold Duration.singleUnit at single
  split at single
  · rename_i part only
    cases single
    exact only
  · cases single

def CalendarUnit.inMonths : CalendarUnit → Nat
  | .year => 12
  | .month => 1
  | _ => 0

def CalendarUnit.inSeconds : CalendarUnit → Nat
  | .week => 604800
  | .day => 86400
  | .hour => 3600
  | .minute => 60
  | .second => 1
  | _ => 0

theorem singleUnit_length (single : d.singleUnit = some (unit,word)) :
    d.wholeMonths = unit.inMonths * word.toNat ∧
      d.fixedSeconds = unit.inSeconds * word.toNat := by
  obtain ⟨-,counts⟩ := singleUnit_count single
  have years : d.years = _ := counts .year
  have months : d.months = _ := counts .month
  have weeks : d.weeks = _ := counts .week
  have days : d.days = _ := counts .day
  have hours : d.hours = _ := counts .hour
  have minutes : d.minutes = _ := counts .minute
  have seconds : d.seconds = _ := counts .second
  unfold Duration.wholeMonths Duration.fixedSeconds
  rw [years,months,weeks,days,hours,minutes,seconds]
  cases unit <;> simp [CalendarUnit.inMonths,CalendarUnit.inSeconds,Int.mul_comm]

theorem isFloorable_parts (floorable : d.isFloorable = true) :
    ∃ unit word, d.singleUnit = some (unit,word) ∧ word.toNat ∣ unit.inParent := by
  have divides {n : UInt32} {whole : UInt32} (even : (whole % n == 0) = true) :
      n.toNat ∣ whole.toNat := by
    apply Nat.dvd_of_mod_eq_zero
    rw [← UInt32.toNat_mod,beq_iff_eq.mp even]
    rfl
  have one {n : UInt32} (single : (n == 1) = true) : n.toNat ∣ 1 := by
    rw [beq_iff_eq.mp single]
    exact Nat.dvd_refl 1
  unfold Duration.isFloorable at floorable
  split at floorable
  · rename_i n single
    exact ⟨_,_,single,divides floorable⟩
  · rename_i n single
    exact ⟨_,_,single,divides floorable⟩
  · rename_i n single
    exact ⟨_,_,single,divides floorable⟩
  · rename_i n single
    exact ⟨_,_,single,divides floorable⟩
  · rename_i n single
    exact ⟨_,_,single,one floorable⟩
  · rename_i n single
    exact ⟨_,_,single,one floorable⟩
  · rename_i n single
    exact ⟨_,_,single,Nat.dvd_zero _⟩
  · cases floorable

end Units

section Grids

-- A number for every bucket.
structure Duration.Grid (d : Duration) where
  number : LocalTime → Int
  start : Int → Int
  -- Whether the start of a bucket is a date that there is.
  dated : Int → Bool
  between : ∀ clock k, number clock = k ↔ start k ≤ clock.seconds ∧ clock.seconds < start (k + 1)
  floors : ∀ clock, d.floorLocal clock =
    if dated (number clock) then some { seconds := start (number clock),nanos := 0 } else none
  shifts : ∀ k next, d.shift { seconds := start k,nanos := 0 } Zone.utc 1 = .ok (some next) →
    next = { seconds := start (k + 1),nanos := 0 }

variable {d : Duration}

theorem even_between {width : Int} (long : 0 < width) (origin k : Int) (clock : LocalTime) :
    (clock.seconds - origin) / width = k ↔
      k * width + origin ≤ clock.seconds ∧ clock.seconds < (k + 1) * width + origin := by
  rw [Int.ediv_eq_iff_of_pos long,Int.add_mul]
  omega

theorem even_shifts {width : Int} (monthless : d.wholeMonths = 0) (fixed : d.fixedSeconds = width)
    (origin k : Int) {next : Instant}
    (shifts : d.shift { seconds := k * width + origin,nanos := 0 } Zone.utc 1 = .ok (some next)) :
    next = { seconds := (k + 1) * width + origin,nanos := 0 } := by
  have word : (d.wholeMonths * 1 : Int).natAbs < 4294967296 := by rw [monthless]; decide
  have moved := Duration.shift_moved d 1 word shifts
  rw [Duration.moved,monthless,fixed,Int.mul_one,Int.mul_one,Int.natCast_zero,
    LocalTime.addMonths_zero,LocalTime.addSeconds_plain (Nat.zero_lt_succ _)] at moved
  rw [← utcClock_inj,moved,Int.add_mul,Int.one_mul,Int.add_right_comm]
  rfl

-- Each bucket has the same length, counted from one that starts at the origin.
def Duration.Grid.even (width origin : Int) (long : 0 < width) (monthless : d.wholeMonths = 0)
    (fixed : d.fixedSeconds = width)
    (floors : ∀ clock, d.floorLocal clock = some
      { seconds := (clock.seconds - origin) / width * width + origin,nanos := 0 }) : d.Grid where
  number clock := (clock.seconds - origin) / width
  start k := k * width + origin
  dated _ := true
  between clock k := even_between long origin k clock
  floors := floors
  shifts k _ shifts := even_shifts monthless fixed origin k shifts

theorem monthly_between {months : Nat} (long : 0 < months) (k : Int) (clock : LocalTime) :
    clock.date.monthNumber / months = k ↔
      (LocalTime.midnight (monthStart (k * months))).seconds ≤ clock.seconds ∧
        clock.seconds < (LocalTime.midnight (monthStart ((k + 1) * months))).seconds := by
  have first := clock.monthStart_seconds (k * months)
  have next := clock.monthStart_seconds ((k + 1) * months)
  rw [Int.ediv_eq_iff_of_pos (by omega)]
  simp only [LocalTime.midnight,LocalTime.ofParts]
  rw [Int.add_mul] at next ⊢
  omega

theorem monthly_shifts (secondless : d.fixedSeconds = 0) (word : d.wholeMonths < 4294967296) (k : Int)
    {next : Instant}
    (shifts : d.shift { seconds := (LocalTime.midnight (monthStart (k * d.wholeMonths))).seconds,
                        nanos := 0 } Zone.utc 1 = .ok (some next)) :
    next = { seconds := (LocalTime.midnight (monthStart ((k + 1) * d.wholeMonths))).seconds,
             nanos := 0 } := by
  have moved := Duration.shift_moved d 1 (by omega) shifts
  rw [Duration.moved,secondless,Int.zero_mul,LocalTime.addSeconds_zero,Int.mul_one] at moved
  have start := LocalTime.monthStart_addMonths (k * d.wholeMonths) d.wholeMonths
  rw [← utcClock_inj,moved,Int.add_mul,Int.one_mul]
  exact start

-- Each bucket has the same number of months, counted from January of the year 0.
def Duration.Grid.monthly (dated : Int → Bool) (secondless : d.fixedSeconds = 0)
    (long : 0 < d.wholeMonths) (word : d.wholeMonths < 4294967296)
    (floors : ∀ clock, d.floorLocal clock = if dated (clock.date.monthNumber / d.wholeMonths) then
      some (.midnight (monthStart (clock.date.monthNumber / d.wholeMonths * d.wholeMonths)))
    else none) : d.Grid where
  number clock := clock.date.monthNumber / d.wholeMonths
  start k := (LocalTime.midnight (monthStart (k * d.wholeMonths))).seconds
  dated := dated
  between clock k := monthly_between long k clock
  floors := floors
  shifts k _ shifts := monthly_shifts secondless word k shifts

end Grids

section Floors

-- Parts of a larger unit, in groups that tile it, are groups of the parts all along.
theorem grouped_within {part group whole : Int} (somePart : 0 < part) (someGroup : 0 < group)
    (tiles : part * group ∣ whole) (x : Int) :
    x / whole * whole + x % whole / part / group * group * part
      = x / (part * group) * (part * group) := by
  obtain ⟨times,rfl⟩ := tiles
  have some : 0 < part * group := Int.mul_pos somePart someGroup
  have quotient : x / (part * group * times) = x / (part * group) / times :=
    (Int.ediv_ediv_of_nonneg (Int.le_of_lt some)).symm
  have remainder : x % (part * group * times) / part / group
      = x / (part * group) - times * (x / (part * group) / times) := by
    rw [Int.ediv_ediv_of_nonneg (Int.le_of_lt somePart),Int.emod_def,quotient,Int.mul_assoc,
      Int.sub_mul_ediv_left _ _ (Int.ne_of_gt some)]
  rw [quotient,remainder]
  ring

variable {d : Duration} {word : UInt32}

theorem group_pos (counted : word ≠ 0) : (0 : Int) < word.toNat := by
  have some : word.toNat ≠ 0 := fun none => counted (UInt32.toNat_inj.mp none)
  omega

section
variable (clock : LocalTime)

theorem hour_seconds : (clock.hour : Int) = clock.seconds % 86400 / 3600 := by
  unfold LocalTime.hour LocalTime.secondOfDay
  omega

theorem minute_seconds : (clock.minute : Int) = clock.seconds % 3600 / 60 := by
  unfold LocalTime.minute LocalTime.secondOfDay
  omega

theorem second_seconds : (clock.second : Int) = clock.seconds % 60 := by
  unfold LocalTime.second LocalTime.secondOfDay
  omega

end

theorem floorLocal_second (single : d.singleUnit = some (.second,word)) (counted : word ≠ 0)
    (tiles : word.toNat ∣ 60) (clock : LocalTime) : d.floorLocal clock = some
      { seconds := (clock.seconds - 0) / word.toNat * word.toNat + 0,nanos := 0 } := by
  have whole : 1 * (word.toNat : Int) ∣ 60 := by rw [Int.one_mul]; exact_mod_cast tiles
  have grouped := grouped_within Int.one_pos (group_pos counted) whole clock.seconds
  have hour := hour_seconds clock
  have minute := minute_seconds clock
  have second := second_seconds clock
  simp only [Int.one_mul,Int.ediv_one,Int.mul_one,← second] at grouped
  simp only [Duration.floorLocal,single,LocalTime.ofParts,LocalTime.dayNumber,Option.bind_eq_bind,
    Option.bind_some,Option.some.injEq,LocalTime.mk.injEq,and_true]
  push_cast
  rw [Int.sub_zero,Int.add_zero,← grouped,hour,minute]
  omega

theorem floorLocal_minute (single : d.singleUnit = some (.minute,word)) (counted : word ≠ 0)
    (tiles : word.toNat ∣ 60) (clock : LocalTime) : d.floorLocal clock = some
      { seconds := (clock.seconds - 0) / (60 * word.toNat) * (60 * word.toNat) + 0,nanos := 0 } := by
  have whole : 60 * (word.toNat : Int) ∣ 60 * 60 := mul_dvd_mul_left 60 (by exact_mod_cast tiles)
  have grouped := grouped_within (by decide) (group_pos counted) whole clock.seconds
  have hour := hour_seconds clock
  have minute := minute_seconds clock
  simp only [Int.reduceMul,← minute] at grouped
  simp only [Duration.floorLocal,single,LocalTime.ofParts,LocalTime.dayNumber,Option.bind_eq_bind,
    Option.bind_some,Option.some.injEq,LocalTime.mk.injEq,and_true]
  push_cast
  rw [Int.sub_zero,Int.add_zero,← grouped,hour]
  omega

theorem floorLocal_hour (single : d.singleUnit = some (.hour,word)) (counted : word ≠ 0)
    (tiles : word.toNat ∣ 24) (clock : LocalTime) : d.floorLocal clock = some
      { seconds := (clock.seconds - 0) / (3600 * word.toNat) * (3600 * word.toNat) + 0,
        nanos := 0 } := by
  have whole : 3600 * (word.toNat : Int) ∣ 3600 * 24 :=
    mul_dvd_mul_left 3600 (by exact_mod_cast tiles)
  have grouped := grouped_within (by decide) (group_pos counted) whole clock.seconds
  have hour := hour_seconds clock
  simp only [Int.reduceMul,← hour] at grouped
  simp only [Duration.floorLocal,single,LocalTime.ofParts,LocalTime.dayNumber,Option.bind_eq_bind,
    Option.bind_some,Option.some.injEq,LocalTime.mk.injEq,and_true]
  push_cast
  rw [Int.sub_zero,Int.add_zero,← grouped]
  omega

theorem floorLocal_day (single : d.singleUnit = some (.day,word)) (clock : LocalTime) :
    d.floorLocal clock = some
      { seconds := (clock.seconds - 0) / 86400 * 86400 + 0,nanos := 0 } := by
  simp [Duration.floorLocal,single,LocalTime.midnight,LocalTime.ofParts,LocalTime.dayNumber]

theorem floorLocal_week (single : d.singleUnit = some (.week,word)) (clock : LocalTime) :
    d.floorLocal clock = some
      { seconds := (clock.seconds - 345600) / 604800 * 604800 + 345600,nanos := 0 } := by
  simp only [Duration.floorLocal,single,LocalTime.midnight,LocalTime.ofParts,LocalTime.dayNumber,
    daysFromMonday,Option.bind_eq_bind,Option.bind_some,Option.some.injEq,LocalTime.mk.injEq,
    and_true]
  push_cast
  omega

theorem floorLocal_month (single : d.singleUnit = some (.month,word)) (counted : word ≠ 0)
    (tiles : word.toNat ∣ 12) (clock : LocalTime) : d.floorLocal clock = some (.midnight
      (monthStart (clock.date.monthNumber / word.toNat * word.toNat))) := by
  obtain ⟨first,last,-,-⟩ := (isValid_iff clock.date).mp clock.date_valid
  have whole : 1 * (word.toNat : Int) ∣ 12 := by rw [Int.one_mul]; exact_mod_cast tiles
  have grouped := grouped_within Int.one_pos (group_pos counted) whole clock.date.monthNumber
  have year : clock.date.monthNumber / 12 = clock.date.year := by
    unfold Date.monthNumber
    omega
  have month : clock.date.monthNumber % 12 = (clock.date.month - 1 : Nat) := by
    unfold Date.monthNumber
    omega
  have below : (clock.date.month - 1) / word.toNat * word.toNat ≤ clock.date.month - 1 :=
    Nat.div_mul_le_self _ _
  rw [Int.one_mul,Int.ediv_one,Int.mul_one,year,month,← Int.natCast_ediv,← Int.natCast_mul]
    at grouped
  have start : firstOfMonth (clock.date.monthNumber / word.toNat * word.toNat)
      = { clock.date with month := (clock.date.month - 1) / word.toNat * word.toNat + 1,day := 1 } := by
    rw [← grouped]
    unfold firstOfMonth
    congr 1
    · omega
    · omega
  simp only [Duration.floorLocal,single,monthStart,start,Option.bind_eq_bind,Option.bind_some]

theorem floorLocal_year (single : d.singleUnit = some (.year,word))
    (few : word.toNat < 268435456) (clock : LocalTime) : d.floorLocal clock =
      if ({ year := clock.date.monthNumber / (12 * word.toNat) * word.toNat,month := 1,day := 1 }
          : Date).inCalendar
      then some (.midnight
        (monthStart (clock.date.monthNumber / (12 * word.toNat) * (12 * word.toNat))))
      else none := by
  obtain ⟨first,last,-,-⟩ := (isValid_iff clock.date).mp clock.date_valid
  have signed : Duration.signed word = word.toNat := by
    have word : Duration.signed word = (word.toNat : Int).bmod 4294967296 :=
      BitVec.toInt_eq_toNat_bmod word.toBitVec
    rw [word,Int.bmod_eq_of_le (by omega) (by omega)]
  have year : clock.date.monthNumber / (12 * word.toNat) = clock.date.year / word.toNat := by
    rw [← Int.ediv_ediv_of_nonneg (by decide)]
    unfold Date.monthNumber
    congr 1
    omega
  have start : firstOfMonth (clock.date.year / word.toNat * (12 * word.toNat))
      = { year := clock.date.year / word.toNat * word.toNat,month := 1,day := 1 } := by
    rw [← Int.mul_assoc,Int.mul_right_comm]
    unfold firstOfMonth
    congr 1
    · omega
    · omega
  simp only [Duration.floorLocal,single,monthStart,start,year,signed,Option.bind_eq_bind,
    Option.bind_some]

end Floors

-- Every duration that can be floored by has a grid of buckets.
theorem floorable_grid {d : Duration} (floorable : d.isFloorable = true)
    (few : d.years.toNat < 268435456) : Nonempty d.Grid := by
  obtain ⟨unit,word,single,tiles⟩ := isFloorable_parts floorable
  obtain ⟨counted,counts⟩ := singleUnit_count single
  obtain ⟨months,seconds⟩ := singleUnit_length single
  have some := group_pos counted
  cases unit with
  | second =>
      exact ⟨.even _ 0 some (by simpa [CalendarUnit.inMonths] using months)
        (by simpa [CalendarUnit.inSeconds] using seconds) (floorLocal_second single counted tiles)⟩
  | minute =>
      exact ⟨.even _ 0 (by omega) (by simpa [CalendarUnit.inMonths] using months)
        (by simpa [CalendarUnit.inSeconds] using seconds) (floorLocal_minute single counted tiles)⟩
  | hour =>
      exact ⟨.even _ 0 (by omega) (by simpa [CalendarUnit.inMonths] using months)
        (by simpa [CalendarUnit.inSeconds] using seconds) (floorLocal_hour single counted tiles)⟩
  | day =>
      have one : word.toNat = 1 := Nat.dvd_one.mp tiles
      exact ⟨.even _ 0 (by decide) (by simpa [CalendarUnit.inMonths] using months)
        (by simpa [CalendarUnit.inSeconds,one] using seconds) (floorLocal_day single)⟩
  | week =>
      have one : word.toNat = 1 := Nat.dvd_one.mp tiles
      exact ⟨.even _ 345600 (by decide) (by simpa [CalendarUnit.inMonths] using months)
        (by simpa [CalendarUnit.inSeconds,one] using seconds) (floorLocal_week single)⟩
  | month =>
      have long : d.wholeMonths = word.toNat := by simpa [CalendarUnit.inMonths] using months
      refine ⟨.monthly (fun _ => true) (by simpa [CalendarUnit.inSeconds] using seconds)
        (by omega) (by have := UInt32.toNat_lt word; omega) fun clock => ?_⟩
      rw [long,if_pos rfl]
      exact floorLocal_month single counted tiles clock
  | year =>
      have long : d.wholeMonths = 12 * word.toNat := by simpa [CalendarUnit.inMonths] using months
      have years : d.years = word := (counts .year).trans (if_pos rfl)
      have step : (d.wholeMonths : Int) = 12 * word.toNat := by omega
      have few : word.toNat < 268435456 := years ▸ few
      refine ⟨.monthly (fun k => ({ year := k * word.toNat,month := 1,day := 1 } : Date).inCalendar)
        (by simpa [CalendarUnit.inSeconds] using seconds) (by omega) (by omega) fun clock => ?_⟩
      rw [step]
      exact floorLocal_year single few clock

-- The buckets of a grid by the instants in them.
section Instants

variable {d : Duration} (grid : d.Grid)

theorem floor_grid {t s : Instant} : d.floor t Zone.utc = .ok (some s) ↔
    (t.inCalendar = true ∧ s.inCalendar = true) ∧ grid.dated (grid.number t.utcClock) = true ∧
      s = { seconds := grid.start (grid.number t.utcClock),nanos := 0 } := by
  rw [Duration.floor_some,utc_localTime,grid.floors]
  cases dated : grid.dated (grid.number t.utcClock) with
  | false => simp
  | true =>
      simp only [if_true,Option.some.injEq,exists_eq_left',true_and,and_assoc]
      refine and_congr_right fun _ => ?_
      constructor
      · rintro ⟨inside,starts⟩
        rw [utc_instant inside] at starts
        cases starts
        exact ⟨inside,rfl⟩
      · rintro ⟨inside,rfl⟩
        exact ⟨inside,utc_instant inside⟩

theorem numbered_grid {t : Instant} {k : Int} : grid.number t.utcClock = k ↔
    ({ seconds := grid.start k,nanos := 0 } : Instant).le t = true ∧
      ({ seconds := grid.start (k + 1),nanos := 0 } : Instant).le t = false := by
  rw [grid.between,Instant.le_exact,Instant.le_false]
  change grid.start k ≤ t.seconds ∧ t.seconds < grid.start (k + 1) ↔ _
  dsimp only
  omega

theorem number_start (t : Instant) :
    grid.number ({ seconds := grid.start (grid.number t.utcClock),nanos := 0 } : Instant).utcClock
      = grid.number t.utcClock := by
  obtain ⟨first,before⟩ := (grid.between t.utcClock _).mp rfl
  exact (grid.between _ _).mpr ⟨Int.le_refl _,Int.lt_of_le_of_lt first before⟩

theorem floor_same {t s u : Instant} (floors : d.floor t Zone.utc = .ok (some s))
    (known : u.inCalendar = true) :
    d.floor u Zone.utc = .ok (some s) ↔ grid.number u.utcClock = grid.number t.utcClock := by
  obtain ⟨⟨-,inside⟩,dated,rfl⟩ := (floor_grid grid).mp floors
  rw [floor_grid grid]
  constructor
  · rintro ⟨-,-,same⟩
    rw [← number_start grid u,← same,number_start]
  · intro same
    rw [same]
    exact ⟨⟨known,inside⟩,dated,rfl⟩

end Instants

theorem inCalendar_between {a b u : Instant} (first : a.inCalendar = true)
    (last : b.inCalendar = true) (after : a.le u = true) (before : b.le u = false) :
    u.inCalendar = true := by
  rw [inCalendar_seconds] at *
  rw [Instant.le_exact] at after
  rw [Instant.le_false] at before
  omega

theorem floor_between {d : Duration} (floorable : d.isFloorable = true)
    (few : d.years.toNat < 268435456) {t start next : Instant}
    (floors : d.floor t Zone.utc = .ok (some start))
    (shifts : d.shift start Zone.utc 1 = .ok (some next)) (u : Instant) :
    d.floor u Zone.utc = .ok (some start) ↔ start.le u = true ∧ next.le u = false := by
  obtain ⟨grid⟩ := floorable_grid floorable few
  obtain ⟨⟨-,inside⟩,-,starts⟩ := (floor_grid grid).mp floors
  have bounds : grid.number u.utcClock = grid.number t.utcClock ↔
      start.le u = true ∧ next.le u = false := by
    rw [numbered_grid grid]
    subst starts
    cases grid.shifts _ next shifts
    rfl
  rw [← bounds]
  constructor
  · intro same
    obtain ⟨⟨known,-⟩,-,-⟩ := (floor_grid grid).mp same
    exact (floor_same grid floors known).mp same
  · intro same
    obtain ⟨after,before⟩ := bounds.mp same
    have known := inCalendar_between inside (Duration.shift_inside d 1 shifts) after before
    exact (floor_same grid floors known).mpr same

end Time

open Time (Duration Instant Zone)

-- The row has the instant as the value of the operand, at least as ranges go.
def Reading.ReadsRanges {ρ : Type u} (S : Reading ρ) (row : ρ) (operand : Expr) (t : Instant) : Prop :=
  ∀ r, S.holds row (.member operand (.literal (.timeRange r))) ↔ r.contains t = true

-- A bucket holds the instant that it was found by and none but those that are floored to its
-- start; a row is in the range that is made of the bucket as a key if and only if its instant is
-- in the bucket.
theorem bucket_tiles {d : Duration} (floorable : d.isFloorable = true)
    (few : d.years.toNat < 268435456) {t start next : Instant}
    (floors : d.floor t Zone.utc = .ok (some start))
    (shifts : d.shift start Zone.utc 1 = .ok (some next)) :
    (start.le t = true ∧ next.le t = false) ∧
    (∀ u : Instant, start.le u = true → next.le u = false → d.floor u Zone.utc = .ok (some start)) ∧
    ∀ (dataset : Dataset) (operand : Expr) (json : Json) (zone : Option Zone),
      zone.getD Zone.utc = Zone.utc → Binding.jsonTime json = some start →
        ∃ predicate, Binding.keyPredicate dataset (.timeBucket operand d zone) json = .ok predicate ∧
          ∀ {ρ : Type u} (S : Reading ρ) (row : ρ) (u : Instant), S.ReadsRanges row operand u →
            (S.holds row predicate ↔ d.floor u Zone.utc = .ok (some start)) := by
  have members := Time.floor_between floorable few floors shifts
  refine ⟨(members t).mp floors,fun u after before => (members u).mpr ⟨after,before⟩,?_⟩
  intro dataset operand json zone utc read
  refine ⟨.member operand (.literal (.timeRange { start := some start,finish := some next })),?_,?_⟩
  · simp only [Binding.keyPredicate,Binding.orBadKey,read,utc]
    change ((d.shift start Zone.utc 1).raise >>= _) = _
    rw [shifts]
    rfl
  · intro ρ S row u reads
    rw [reads,members,TimeRange.contains_exact]
    simp

namespace Visits

def leapEve : Instant := ⟨1456790399,500000000⟩
def february : Instant := ⟨1454284800,0⟩
def march : Instant := ⟨1456790400,0⟩

def monthly : Dataset :=
  { engine := .druid,source := "visits",timeAttribute := some "time" }

def visit : Plain.Record :=
  fun column => if column = "time" then .time leapEve else .other

theorem february_tiles :
    (({ months := 1 } : Duration).floor leapEve Zone.utc = .ok (some february) ∧
      ({ months := 1 } : Duration).shift february Zone.utc 1 = .ok (some march)) ∧
    (february.le leapEve = true ∧ march.le leapEve = false) ∧
    ∃ predicate, Binding.keyPredicate monthly (.timeBucket (.ref "time") { months := 1 } none)
        (.str "2016-02-01T00:00:00Z") = .ok predicate ∧ Plain.reading.holds visit predicate := by
  have floors : ({ months := 1 } : Duration).floor leapEve Zone.utc = .ok (some february) := by decide
  have shifts : ({ months := 1 } : Duration).shift february Zone.utc 1 = .ok (some march) := by
    decide
  have read : Binding.jsonTime (.str "2016-02-01T00:00:00Z") = some february := by decide +kernel
  obtain ⟨inside,-,keys⟩ := bucket_tiles (by decide) (by decide) floors shifts
  obtain ⟨predicate,built,selects⟩ := keys monthly (.ref "time") _ none rfl read
  have found : visit "time" = .time leapEve := rfl
  have reads := (Plain.reads_time found).inRange
  exact ⟨⟨floors,shifts⟩,inside,predicate,built,
    (selects Plain.reading.toReading visit leapEve reads).mpr floors⟩

end Visits

end OlapQuery
