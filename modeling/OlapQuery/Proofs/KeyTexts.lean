import OlapQuery.Binding
import OlapQuery.Proofs.KeyFormats
import OlapQuery.Proofs.WholeNumbers

-- Keys that an engine prints and that a nested split reads back as timestamps and numbers. Of
-- Druid's bucket formats only the one for seconds prints a timestamp, Presto's patterns all do,
-- and MySQL's lack the offset. A part of a time is read as its number, except for the second of
-- the day, which is printed as a formula, and for years before the first.

namespace OlapQuery

open Time
open Druid (bucketFormat bucketPieces timePartFormat)
open Binding (jsonTime)
open Decimal (value? readFloat)

section Buckets

theorem printed_zoned (clock : LocalTime) (pieces : List Piece) :
    printed clock (pieces ++ [.text 'Z'])
      = String.ofList (pieces.flatMap (Piece.chars clock) ++ ['Z']) := by
  rw [printed,List.flatMap_append]
  rfl

section
variable {shown : Shown} (proper : shown.Proper) {mark : Char} (marked : isDateTimeMark mark = true)
include proper

theorem dateOnly_unread : Instant.parse? (String.ofList (dateChars shown.date ++ ['Z'])) = none := by
  by_cases short : FourDigits shown.date.year
  · exact parse_dateOnly proper short
  · rw [dateChars,List.append_assoc,List.append_assoc]
    exact parse_outside short _

include marked

theorem minutes_unread :
    Instant.parse? (String.ofList (shown.minuteChars mark ++ ['Z'])) = none := by
  by_cases short : FourDigits shown.date.year
  · exact parse_minutes proper short marked
  · simp only [Shown.minuteChars,dateChars,List.append_assoc]
    exact parse_outside short _

theorem unzoned_unread : Instant.parse? (String.ofList (shown.chars mark)) = none := by
  by_cases short : FourDigits shown.date.year
  · exact parse_unzoned proper short marked
  · simp only [Shown.chars,Shown.minuteChars,dateChars,List.append_assoc]
    exact parse_outside short _

theorem zoned_read : Instant.parse? (String.ofList (shown.chars mark ++ ['Z']))
    = if FourDigits shown.date.year then some shown.instant else none := by
  by_cases short : FourDigits shown.date.year
  · rw [if_pos short,parse_zoned proper short marked]
  · rw [if_neg short]
    simp only [Shown.chars,Shown.minuteChars,dateChars,List.append_assoc]
    exact parse_outside short _

end

section
variable {unit : CalendarUnit} (dated : unit ≠ .week) (clock : LocalTime)
include dated

theorem presto_bucket_read :
    Instant.parse? (printed clock (startSecond ' ' unit ++ [.text 'Z']))
      = if FourDigits clock.date.year then some (bucketStart unit clock).instant else none := by
  rw [printed_zoned,startSecond_chars dated,zoned_read (bucketStart_proper unit clock) rfl,
    bucketStart_year dated]

theorem mySql_bucket_read : Instant.parse? (printed clock (startSecond ' ' unit ++ [])) = none := by
  rw [List.append_nil,printed,startSecond_chars dated]
  exact unzoned_unread (bucketStart_proper unit clock) rfl

theorem druid_bucket_read :
    Instant.parse? (printed clock (bucketPieces unit ++ [.text 'Z']))
      = if unit = .second ∧ FourDigits clock.date.year then some (bucketStart unit clock).instant
        else none := by
  have proper := bucketStart_proper unit clock
  rw [printed_zoned]
  cases unit with
  | second =>
      rw [bucketPieces,startSecond_chars dated,zoned_read proper rfl,bucketStart_year dated]
      by_cases short : FourDigits clock.date.year <;> simp [short]
  | minute =>
      rw [bucketPieces,startMinute_chars dated,minutes_unread proper rfl]
      rfl
  | hour =>
      rw [bucketPieces,startMinute_chars dated,minutes_unread proper rfl]
      rfl
  | _ =>
      change Instant.parse? (String.ofList ((startDate _).flatMap (Piece.chars clock) ++ ['Z'])) = _
      rw [startDate_chars dated,dateOnly_unread proper]
      rfl

end

end Buckets

section Parts

def Time.Part.number? (clock : LocalTime) : Part → Option Int
  | .secondOfMinute => some clock.second
  | .secondOfDay => some clock.secondOfDay
  | .minuteOfHour => some clock.minute
  | .hourOfDay => some clock.hour
  | .dayOfWeek => some clock.dayOfWeek
  | .dayOfMonth => some clock.date.day
  | .dayOfYear => some clock.dayOfYear
  | .weekOfYear => some clock.weekOfYear
  | .monthOfYear => some clock.date.month
  | .year => some clock.date.year
  | _ => none

theorem padLeft_one (n : Nat) : padLeft 1 n = toString n := by
  have some := @Nat.length_toDigits_pos 10 n
  have digits : (toString n).toList = Nat.toDigits 10 n := Nat.toList_repr
  apply String.toList_inj.mp
  rw [padLeft_toList,digits,Nat.sub_eq_zero_of_le some]
  rfl

theorem newYear_day (n : Int) :
    newYear (Date.ofDayNumber n).year ≤ n ∧ n ≤ newYear (Date.ofDayNumber n).year + 365 := by
  have bounds := newYear_bounds (ofDayNumber_valid n)
  rwa [dayNumber_ofDayNumber] at bounds

theorem field_bounds {clock : LocalTime} (known : clock.date.inCalendar = true) {asked : Field}
    (unsigned : asked ≠ .year) :
    0 ≤ asked.number clock ∧ (asked.number clock).toNat < 2 ^ 53 := by
  have proper := bucketStart_proper .second clock
  obtain ⟨-,months,-,days⟩ := (isValid_iff _).mp proper.date
  have length := daysInMonth_le clock.date.year clock.date.month
  have hours : clock.hour < 24 := proper.hour
  have minutes : clock.minute < 60 := proper.minute
  have seconds : clock.second < 60 := proper.second
  change clock.date.month ≤ 12 at months
  change clock.date.day ≤ daysInMonth clock.date.year clock.date.month at days
  cases asked with
  | year => exact absurd rfl unsigned
  | yearOfEra =>
      simp only [Date.inCalendar,Bool.and_eq_true,decide_eq_true_eq] at known
      unfold firstYear lastYear at known
      simp only [Field.number]
      split <;> omega
  | dayOfYear =>
      have bounds := newYear_day clock.dayNumber
      change 0 ≤ clock.dayNumber - newYear (Date.ofDayNumber clock.dayNumber).year + 1 ∧
        (clock.dayNumber - newYear (Date.ofDayNumber clock.dayNumber).year + 1).toNat < 2 ^ 53
      omega
  | weekOfYear =>
      have bounds := newYear_day (clock.dayNumber - daysFromMonday clock.dayNumber + 3)
      simp only [Field.number,LocalTime.weekOfYear]
      omega
  | dayOfWeek =>
      simp only [Field.number,LocalTime.dayOfWeek,daysFromMonday]
      omega
  | _ =>
      simp only [Field.number]
      omega

theorem field_read {clock : LocalTime} (known : clock.date.inCalendar = true) {asked : Field}
    (unsigned : asked ≠ .year) :
    ∃ x, Value.ofJson (.str (printed clock [.field asked 1])) .number = some (.number x) ∧
      value? x = some (asked.number clock : ℚ) := by
  obtain ⟨least,below⟩ := field_bounds known unsigned
  have text : printed clock [.field asked 1] = toString (asked.number clock).toNat := by
    have chars : signedChars 1 (asked.number clock) = (padLeft 1 (asked.number clock).toNat).toList :=
      if_neg (Int.not_lt.mpr least)
    rw [← padLeft_one,← String.ofList_toList (s := padLeft 1 _),← chars]
    simp [printed,Piece.chars]
  obtain ⟨x,read,value⟩ := Decimal.readFloat_nat below
  refine ⟨x,?_,?_⟩
  · rw [text,Value.ofJson,read]
    rfl
  · rw [value]
    congr 1
    exact_mod_cast congrArg (Int.cast : Int → ℚ) (Int.toNat_of_nonneg least)

-- The second of the day is printed as a formula, and that is no number.
theorem secondOfDay_unread (clock : LocalTime) (rest : List Piece) :
    readFloat (printed clock (.field .hourOfDay 1 :: .text '*' :: rest)) = none := by
  have chars : printed clock (.field .hourOfDay 1 :: .text '*' :: rest)
      = String.ofList ((padLeft 1 clock.hour).toList ++ '*' :: rest.flatMap (Piece.chars clock)) := by
    simp [printed,Piece.chars,Field.number]
  rw [chars,Decimal.readFloat_front (padLeft_digits 1 clock.hour) (by simp)]
  rfl

-- The text of a part is read as a number.
def ReadsAs (text : String) (n : Int) : Prop :=
  ∃ x, Value.ofJson (.str text) .number = some (.number x) ∧ value? x = some (n : ℚ)

theorem ReadsAs.unique {text : String} {m n : Int} (first : ReadsAs text m)
    (second : ReadsAs text n) : m = n := by
  obtain ⟨x,read,value⟩ := first
  obtain ⟨y,again,same⟩ := second
  cases read.symm.trans again
  exact_mod_cast Option.some.inj (value.symm.trans same)

def Time.Part.field? : Part → Option Field
  | .secondOfMinute => some .secondOfMinute
  | .minuteOfHour => some .minuteOfHour
  | .hourOfDay => some .hourOfDay
  | .dayOfWeek => some .dayOfWeek
  | .dayOfMonth => some .dayOfMonth
  | .dayOfYear => some .dayOfYear
  | .weekOfYear => some .weekOfYear
  | .monthOfYear => some .monthOfYear
  | _ => none

theorem field_format {part : Part} {asked : Field} {format : String}
    (plain : part.field? = some asked) (formatted : timePartFormat part = some format) :
    jodaPieces? format = some [.field asked 1] ∧
      (∀ clock, part.number? clock = some (asked.number clock)) ∧
      asked ≠ .year ∧ part ≠ .secondOfDay ∧ part ≠ .year := by
  cases part <;> cases plain <;> cases formatted <;>
    exact ⟨by decide,fun _ => rfl,by decide,by decide,by decide⟩

variable {clock : LocalTime} (known : clock.date.inCalendar = true)
include known

theorem part_read {part : Part} {format : String} (formatted : timePartFormat part = some format) :
    ∃ pieces n, jodaPieces? format = some pieces ∧ part.number? clock = some n ∧
      (ReadsAs (printed clock pieces) n ↔ part ≠ .secondOfDay ∧ (part = .year → 0 < n)) := by
  cases plain : part.field? with
  | some asked =>
      obtain ⟨parsed,is,signless,day,year⟩ := field_format plain formatted
      exact ⟨_,_,parsed,is clock,fun _ => ⟨day,fun same => absurd same year⟩,
        fun _ => field_read known signless⟩
  | none =>
      cases part with
      | year =>
          cases formatted
          have read := field_read known (by decide : Field.yearOfEra ≠ .year)
          refine ⟨[.field .yearOfEra 1],clock.date.year,by decide,rfl,?_,?_⟩
          · intro reads
            have same : clock.date.year = Field.yearOfEra.number clock := reads.unique read
            refine ⟨by decide,fun _ => ?_⟩
            simp only [Field.number] at same
            split at same <;> omega
          · intro later
            have same : Field.yearOfEra.number clock = clock.date.year := if_pos (later.2 rfl)
            rwa [same] at read
      | secondOfDay =>
          cases formatted
          refine ⟨.field .hourOfDay 1 :: .text '*' :: [.text '6',.text '0',.text '+',
            .field .minuteOfHour 1,.text '*',.text '6',.text '0',.text '+',.field .secondOfMinute 1],
            clock.secondOfDay,by decide,rfl,?_,?_⟩
          · rintro ⟨x,read,-⟩
            rw [Value.ofJson,secondOfDay_unread] at read
            cases read
          · intro both
            exact absurd rfl both.1
      | _ => first | (cases formatted; done) | cases plain

end Parts

-- At every instant of the calendar, the start of a bucket and the parts of a time as the engines
-- print them, and what a nested split makes of the texts.
theorem printed_keys_read {t : Instant} (known : t.utcClock.date.inCalendar = true) :
    (∀ duration format, bucketFormat duration = some format →
      ∃ pieces start, jodaPieces? format = some pieces ∧ duration.floor t Zone.utc = .ok (some start) ∧
        jsonTime (.str (printed t.utcClock pieces))
          = if duration.singleUnit = some (.second,1) ∧ FourDigits t.utcClock.date.year then
              some start
            else none) ∧
    (∀ name pattern duration, .bucket name pattern ∈ Sql.Family.presto.entries →
      Duration.parse? name = some duration →
      ∃ pieces start, datePieces? pattern.toList = some pieces ∧
        duration.floor t Zone.utc = .ok (some start) ∧
        jsonTime (.str (printed t.utcClock pieces))
          = if FourDigits t.utcClock.date.year then some start else none) ∧
    (∀ name pattern duration, .bucket name pattern ∈ Sql.Family.mySql.entries →
      Duration.parse? name = some duration →
      ∃ pieces start, datePieces? pattern.toList = some pieces ∧
        duration.floor t Zone.utc = .ok (some start) ∧
        jsonTime (.str (printed t.utcClock pieces)) = none) ∧
    (∀ part format, timePartFormat part = some format →
      ∃ pieces n, jodaPieces? format = some pieces ∧ part.number? t.utcClock = some n ∧
        (ReadsAs (printed t.utcClock pieces) n ↔
          part ≠ .secondOfDay ∧ (part = .year → 0 < n))) := by
  refine ⟨?_,?_,?_,fun part format formatted => part_read known formatted⟩
  · intro duration format formatted
    obtain ⟨unit,single,dated,parsed⟩ := Druid.bucketFormat_pieces formatted
    refine ⟨_,_,parsed,floor_start single dated known,?_⟩
    rw [jsonTime,druid_bucket_read dated,single]
    simp
  · intro name pattern duration listed named
    obtain ⟨unit,single,dated,parsed⟩ := (Sql.presto_starts _ listed).parts named
    refine ⟨_,_,parsed,floor_start single dated known,?_⟩
    rw [jsonTime]
    exact presto_bucket_read dated _
  · intro name pattern duration listed named
    obtain ⟨unit,single,dated,parsed⟩ := (Sql.mySql_starts _ listed).parts named
    refine ⟨_,_,parsed,floor_start single dated known,?_⟩
    rw [jsonTime]
    exact mySql_bucket_read dated _

namespace Clicks

def click : Instant := { seconds := 1426296722,nanos := 500000000 }

-- Grouped by the second, the click is found again.
theorem second_read_back : click.utcClock.date.inCalendar = true ∧
    (jodaPieces? "yyyy-MM-dd'T'HH:mm:ss'Z").map (printed click.utcClock)
      = some "2015-03-14T01:32:02Z" ∧
    ({ seconds := 1 } : Duration).floor click Zone.utc
      = .ok (jsonTime (.str "2015-03-14T01:32:02Z")) := by
  have known : click.utcClock.date.inCalendar = true := by decide
  have text : (jodaPieces? "yyyy-MM-dd'T'HH:mm:ss'Z").map (printed click.utcClock)
      = some "2015-03-14T01:32:02Z" := by decide +kernel
  obtain ⟨pieces,start,parsed,floor,read⟩ := (printed_keys_read known).1 { seconds := 1 } _ rfl
  have shown : printed click.utcClock pieces = "2015-03-14T01:32:02Z" := by
    rw [parsed] at text
    exact Option.some.inj text
  rw [shown,if_pos (by decide)] at read
  exact ⟨known,text,floor.trans (congrArg Except.ok read.symm)⟩

-- Grouped by the hour, it is not: the hour is printed without its seconds.
theorem hour_unread :
    bucketFormat { hours := 1 } = some "yyyy-MM-dd'T'HH':00Z" ∧
    (jodaPieces? "yyyy-MM-dd'T'HH':00Z").map (printed click.utcClock)
      = some "2015-03-14T01:00Z" ∧
    ({ hours := 1 } : Duration).floor click Zone.utc
      = .ok (some { seconds := 1426294800,nanos := 0 }) ∧
    jsonTime (.str "2015-03-14T01:00Z") = none := by
  decide +kernel

end Clicks

end OlapQuery
