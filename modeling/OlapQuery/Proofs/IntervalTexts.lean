import Mathlib.Data.List.TakeDrop
import OlapQuery.Druid.Interval
import OlapQuery.Proofs.NegatedTimes

-- Intervals as the engine reads them: two times with a slash between them, in which the fields at
-- the end of a time may be missing and then are zero. A text is read as the times that it was
-- written for, cut to the millisecond, so it is well formed just if they are in order. An open
-- bound is a time like any other here.

namespace OlapQuery

namespace Time

namespace Instant

-- The time on the clock of Greenwich, to the millisecond. Past its end, a second goes on only in a
-- leap second.
def told (t : Instant) : Instant :=
  if 1000000000 ≤ t.nanos ∧ t.utcClock.second ≠ 59 then
    cut { seconds := t.seconds + 1,nanos := t.nanos - 1000000000 }
  else t.cut

end Instant

end Time

namespace Druid

open Time (Instant Date LocalTime padLeft yearText takeYear takeChar takeDigits)

section Reader

-- A field behind its mark; at the end of the text, zero.
def takeField (mark : Char) (width : Nat) : List Char → Option (Nat × List Char)
  | [] => some (0,[])
  | c :: rest => do takeDigits width (← takeChar (· == mark) (c :: rest))

def timeOfDay? (cs : List Char) : Option (Nat × Nat × Nat × Nat) := do
  let (hour,cs) ← takeField 'T' 2 cs
  let (minute,cs) ← takeField ':' 2 cs
  let (second,cs) ← takeField ':' 2 cs
  let (millis,cs) ← takeField '.' 3 cs
  if cs.isEmpty then some (hour,minute,second,millis) else none

-- The instant at which the clock of Greenwich shows them. The second 60 is a leap second.
def shownAt? (date : Date) : Nat × Nat × Nat × Nat → Option Instant
  | (hour,minute,second,millis) =>
      if date.isValid && decide (hour < 24 ∧ minute < 60 ∧ second ≤ 60) then
        if second = 60 then
          some { seconds := (LocalTime.ofParts date.dayNumber hour minute 59).seconds
                 nanos := 1000000000 + millis * 1000000 }
        else
          some { seconds := (LocalTime.ofParts date.dayNumber hour minute second).seconds
                 nanos := millis * 1000000 }
      else none

def boundTime? (cs : List Char) : Option Instant := do
  let (year,cs) ← takeYear cs
  let cs ← takeChar (· == '-') cs
  let (month,cs) ← takeDigits 2 cs
  let cs ← takeChar (· == '-') cs
  let (day,cs) ← takeDigits 2 cs
  shownAt? { year,month,day } (← timeOfDay? cs)

def interval? (text : String) : Option (Instant × Instant) := do
  let (start,rest) := text.toList.span (· != '/')
  let finish ← takeChar (· == '/') rest
  return (← boundTime? start,← boundTime? finish)

end Reader

-- Two times that are in order.
def WellFormed (text : String) : Prop :=
  ∃ start finish, interval? text = some (start,finish) ∧ start.le finish = true

section Bounds
variable (t : Instant)

theorem shownAt_told (bounded : t.nanos < 2000000000) : shownAt? t.utcClock.date
    (t.utcClock.hour,t.utcClock.minute,t.utcClock.shownSecond.1,t.utcClock.shownSecond.2 / 1000000)
      = some t.told := by
  have valid : t.utcClock.date.isValid = true := Time.ofDayNumber_valid _
  have hour : t.utcClock.hour < 24 := by
    simp only [LocalTime.hour,LocalTime.secondOfDay]; omega
  have minute : t.utcClock.minute < 60 := by simp only [LocalTime.minute]; omega
  have second : t.utcClock.second < 60 := by simp only [LocalTime.second]; omega
  have whole := Instant.clock_seconds t
  have later : (LocalTime.ofParts t.utcClock.date.dayNumber t.utcClock.hour t.utcClock.minute
      (t.utcClock.second + 1)).seconds = t.seconds + 1 := by
    rw [← whole]
    simp only [LocalTime.ofParts]
    omega
  unfold Instant.told
  by_cases late : 1000000000 ≤ t.nanos
  · have shown : t.utcClock.shownSecond = (t.utcClock.second + 1,t.nanos - 1000000000) :=
      if_pos late
    by_cases last : t.utcClock.second = 59
    · have millis : 1000000000 + (t.nanos - 1000000000) / 1000000 * 1000000
          = t.nanos / 1000000 * 1000000 := by omega
      rw [last] at whole
      simp [shownAt?,shown,valid,hour,minute,last,whole,millis,Instant.cut]
    · have plain : t.utcClock.second ≠ 59 := last
      have most : t.utcClock.second + 1 ≤ 60 := by omega
      simp [shownAt?,shown,valid,hour,minute,most,late,plain,later,Instant.cut]
  · have shown : t.utcClock.shownSecond = (t.utcClock.second,t.nanos) := if_neg late
    have plain : t.utcClock.second ≠ 60 := by omega
    have most : t.utcClock.second ≤ 60 := by omega
    simp [shownAt?,shown,valid,hour,minute,most,plain,late,whole,Instant.cut]

theorem takeField_end (mark : Char) (width : Nat) : takeField mark width [] = some (0,[]) := rfl

theorem takeField_padLeft (mark : Char) {width n : Nat} (some : 0 < width) (fits : n < 10 ^ width)
    (rest : List Char) :
    takeField mark width (mark :: ((padLeft width n).toList ++ rest)) = .some (n,rest) := by
  rw [takeField,Time.takeChar,if_pos (beq_self_eq_true mark),Option.bind_eq_bind,Option.bind_some,
    Time.takeDigits_padLeft some fits]

theorem takeField_long (mark : Char) {width n : Nat} (some : 0 < width) (long : 10 ^ width ≤ n) :
    ∃ read, takeField mark width (mark :: (padLeft width n).toList) = .some read ∧ read.2 ≠ [] := by
  have digits := (Time.padLeft_digits width n).2
  have more := Time.padLeft_long some long
  generalize (padLeft width n).toList = digit at digits more
  have front : ∀ c ∈ digit.take width, c.isDigit = true := fun c early =>
    digits c (List.mem_of_mem_take early)
  have read := Time.takeDigits_append front (digit.drop width)
  rw [List.length_take_of_le (by omega),List.take_append_drop] at read
  rw [takeField,Time.takeChar,if_pos (beq_self_eq_true mark),Option.bind_eq_bind,Option.bind_some]
  exact ⟨_,read,by simpa using more⟩

def trimmedClock (t : Instant) : List Char :=
  let hour := 'T' :: (padLeft 2 t.utcClock.hour).toList
  let minute := hour ++ ':' :: (padLeft 2 t.utcClock.minute).toList
  let whole := minute ++ ':' :: (padLeft 2 t.utcClock.shownSecond.1).toList
  if t.nanos / 1000000 ≠ 0 then
    whole ++ '.' :: (padLeft 3 (t.utcClock.shownSecond.2 / 1000000)).toList
  else if t.utcClock.second ≠ 0 then whole
  else if t.utcClock.minute ≠ 0 then minute
  else if t.utcClock.hour ≠ 0 then hour
  else []

theorem trimTime_toList :
    (trimTime t).toList = (Time.dateText t.utcClock.date).toList ++ trimmedClock t := by
  unfold trimTime trimmedClock
  dsimp only
  split_ifs <;> simp

theorem clock_bounds : t.utcClock.hour < 10 ^ 2 ∧ t.utcClock.minute < 10 ^ 2 ∧
    t.utcClock.shownSecond.1 < 10 ^ 2 := by
  refine ⟨?_,?_,?_⟩
  · simp only [LocalTime.hour,LocalTime.secondOfDay]; omega
  · simp only [LocalTime.minute]; omega
  · simp only [LocalTime.shownSecond,LocalTime.second]
    split <;> simp only <;> omega

theorem timeOfDay_seconds (rest : List Char) : timeOfDay? ('T' :: ((padLeft 2 t.utcClock.hour).toList
    ++ ':' :: ((padLeft 2 t.utcClock.minute).toList
    ++ ':' :: ((padLeft 2 t.utcClock.shownSecond.1).toList ++ rest)))) = (do
      let (millis,cs) ← takeField '.' 3 rest
      if cs.isEmpty then
        some (t.utcClock.hour,t.utcClock.minute,t.utcClock.shownSecond.1,millis)
      else none) := by
  obtain ⟨hour,minute,second⟩ := clock_bounds t
  rw [timeOfDay?,takeField_padLeft 'T' (by decide) hour]
  simp only [Option.bind_eq_bind,Option.bind_some,takeField_padLeft ':' (by decide) minute,
    takeField_padLeft ':' (by decide) second]

theorem timeOfDay_trimmed (bounded : t.nanos < 2000000000) : timeOfDay? (trimmedClock t)
    = some (t.utcClock.hour,t.utcClock.minute,t.utcClock.shownSecond.1,
        t.utcClock.shownSecond.2 / 1000000) := by
  obtain ⟨hour,minute,-⟩ := clock_bounds t
  unfold trimmedClock
  dsimp only
  split
  · have millis : t.utcClock.shownSecond.2 / 1000000 < 10 ^ 3 := by
      have same : t.utcClock.nanos = t.nanos := rfl
      unfold LocalTime.shownSecond
      split <;> simp only <;> omega
    have read := takeField_padLeft '.' (by decide) millis []
    rw [List.append_nil] at read
    simp [timeOfDay_seconds,read]
  · rename_i whole
    have none : t.nanos / 1000000 = 0 := not_not.mp whole
    have shown : t.utcClock.shownSecond = (t.utcClock.second,t.nanos) :=
      if_neg (show ¬ t.nanos ≥ 1000000000 by omega)
    have hourOnly := takeField_padLeft 'T' (by decide) hour []
    have minuteLast := takeField_padLeft ':' (by decide) minute []
    rw [List.append_nil] at hourOnly minuteLast
    split_ifs with second minutes hours
    · have read := timeOfDay_seconds t []
      rw [List.append_nil,shown] at read
      simp [read,takeField_end,shown,none]
    · simp [timeOfDay?,takeField_padLeft 'T' (by decide) hour,minuteLast,takeField_end,shown,none,
        not_not.mp second]
    · simp [timeOfDay?,hourOnly,takeField_end,shown,none,not_not.mp second,not_not.mp minutes]
    · simp [timeOfDay?,takeField_end,shown,none,not_not.mp second,not_not.mp minutes,
        not_not.mp hours]

-- A second that went on for longer than a leap second has no place for its milliseconds.
theorem timeOfDay_unbounded (unbounded : ¬ t.nanos < 2000000000) :
    timeOfDay? (trimmedClock t) = none := by
  have late : t.nanos / 1000000 ≠ 0 := by omega
  have shown : t.utcClock.shownSecond = (t.utcClock.second + 1,t.nanos - 1000000000) :=
    if_pos (show t.nanos ≥ 1000000000 by omega)
  have long : 10 ^ 3 ≤ t.utcClock.shownSecond.2 / 1000000 := by
    rw [shown]
    dsimp only
    omega
  obtain ⟨⟨millis,rest⟩,read,more⟩ := takeField_long '.' (by decide) long
  have left : rest.isEmpty = false := List.isEmpty_eq_false_iff.mpr more
  unfold trimmedClock
  dsimp only
  rw [if_pos late]
  simp only [List.cons_append,List.append_assoc,timeOfDay_seconds,read,Option.bind_eq_bind,
    Option.bind_some,left,Bool.false_eq_true,if_false]

theorem boundTime_date (rest : List Char) :
    boundTime? ((Time.dateText t.utcClock.date).toList ++ rest)
      = (timeOfDay? rest).bind (shownAt? t.utcClock.date) := by
  obtain ⟨-,months,-,days⟩ := (Time.isValid_iff _).mp (Time.ofDayNumber_valid t.utcClock.dayNumber)
  have length := Time.daysInMonth_le t.utcClock.date.year t.utcClock.date.month
  have month : t.utcClock.date.month < 10 ^ 2 := Nat.lt_of_le_of_lt months (by decide)
  have day : t.utcClock.date.day < 10 ^ 2 :=
    Nat.lt_of_le_of_lt (Nat.le_trans days length) (by decide)
  have chars : (Time.dateText t.utcClock.date).toList ++ rest
      = (yearText t.utcClock.date.year).toList ++ '-' :: ((padLeft 2 t.utcClock.date.month).toList
        ++ '-' :: ((padLeft 2 t.utcClock.date.day).toList ++ rest)) := by
    simp [Time.dateText]
  rw [boundTime?,chars,Time.takeYear_text,Option.bind_eq_bind,Option.bind_some]
  refine (Time.takeChar_bind rfl _ _).trans ?_
  refine (Time.takeDigits_bind (by decide) month _ _).trans ?_
  refine (Time.takeChar_bind rfl _ _).trans ?_
  exact Time.takeDigits_bind (by decide) day _ _

theorem boundTime_trimmed : boundTime? (trimTime t).toList
    = if t.nanos < 2000000000 then some t.told else none := by
  rw [trimTime_toList,boundTime_date]
  split
  · rename_i bounded
    rw [timeOfDay_trimmed t bounded,Option.bind_some,shownAt_told t bounded]
  · rename_i unbounded
    rw [timeOfDay_unbounded t unbounded,Option.bind_none]

theorem padLeft_unslashed (width n : Nat) : '/' ∉ (padLeft width n).toList := by
  intro listed
  cases (Time.padLeft_digits width n).2 '/' listed

theorem yearText_unslashed (year : Int) : '/' ∉ (yearText year).toList := by
  unfold yearText
  split_ifs <;> simp [padLeft_unslashed]

theorem trimTime_unslashed : '/' ∉ (trimTime t).toList := by
  rw [trimTime_toList]
  unfold trimmedClock
  dsimp only
  split_ifs <;> simp [Time.dateText,padLeft_unslashed,yearText_unslashed]

end Bounds

end Druid

section Ranges
open Druid
open Time (Instant)

def firstTime : Instant := ⟨-30610224000,0⟩
def lastTime : Instant := ⟨32503680000,0⟩

-- The bounds are times that can be written, and the range does not end before it starts.
structure TimeRange.Ordered (r : TimeRange) : Prop where
  start : ∀ t ∈ r.start, t.nanos < 2000000000
  finish : ∀ t ∈ r.finish, t.nanos < 2000000000
  order : ((r.start.map Instant.told).getD firstTime).le ((r.finish.map Instant.told).getD lastTime)
    = true

theorem interval_slash {start finish : List Char} (plain : '/' ∉ start) :
    interval? (String.ofList (start ++ '/' :: finish))
      = do return (← boundTime? start,← boundTime? finish) := by
  have stops : (start ++ '/' :: finish).span (· != '/') = (start,'/' :: finish) := by
    have each : ∀ c ∈ start, (c != '/') = true := fun c listed => by
      refine bne_iff_ne.mpr ?_
      rintro rfl
      exact plain listed
    rw [List.span_eq_takeWhile_dropWhile,List.takeWhile_append_of_pos each,
      List.dropWhile_append_of_pos each]
    simp
  rw [interval?,String.toList_ofList,stops]
  rfl

theorem firstTime_read : boundTime? openStart.toList = some firstTime := by decide +kernel

theorem lastTime_read : boundTime? openEnd.toList = some lastTime := by decide +kernel

theorem bound_read {standIn : String} {time : Instant} (read : boundTime? standIn.toList = some time)
    (unslashed : '/' ∉ standIn.toList) (bound : Option Instant) :
    '/' ∉ ((bound.map trimTime).getD standIn).toList ∧
      ∀ found, boundTime? ((bound.map trimTime).getD standIn).toList = some found ↔
        (∀ t ∈ bound, t.nanos < 2000000000) ∧ found = (bound.map Instant.told).getD time := by
  cases bound with
  | none => exact ⟨unslashed,fun found => by simp [read,eq_comm]⟩
  | some t =>
      refine ⟨trimTime_unslashed t,fun found => ?_⟩
      simp [boundTime_trimmed,eq_comm]

theorem interval_read (r : TimeRange) (start finish : Instant) :
    interval? (intervalText r) = some (start,finish) ↔
      ((∀ t ∈ r.start, t.nanos < 2000000000) ∧ start = (r.start.map Instant.told).getD firstTime) ∧
      (∀ t ∈ r.finish, t.nanos < 2000000000) ∧ finish = (r.finish.map Instant.told).getD lastTime := by
  obtain ⟨plain,starts⟩ := bound_read firstTime_read (by decide) r.start
  obtain ⟨-,ends⟩ := bound_read lastTime_read (by decide) r.finish
  have text : intervalText r = String.ofList (((r.start.map trimTime).getD openStart).toList
      ++ '/' :: ((r.finish.map trimTime).getD openEnd).toList) := by
    rw [← String.toList_inj]
    simp [intervalText]
  rw [text,interval_slash plain,← starts,← ends]
  simp [Option.bind_eq_some_iff]

theorem wellFormed_interval (r : TimeRange) : WellFormed (intervalText r) ↔ r.Ordered := by
  simp only [WellFormed,interval_read]
  constructor
  · rintro ⟨_,_,⟨⟨start,rfl⟩,finish,rfl⟩,order⟩
    exact ⟨start,finish,order⟩
  · rintro ⟨start,finish,order⟩
    exact ⟨_,_,⟨⟨start,rfl⟩,finish,rfl⟩,order⟩

theorem unbounded_ordered : TimeRange.unbounded.Ordered :=
  ⟨nofun,nofun,rfl⟩

theorem wellFormed_empty : WellFormed (openStart ++ "/" ++ openStart) := by
  have text : openStart ++ "/" ++ openStart
      = String.ofList (openStart.toList ++ '/' :: openStart.toList) := by
    rw [← String.toList_inj]
    simp
  have read := @interval_slash openStart.toList openStart.toList (by decide)
  rw [← text,firstTime_read] at read
  exact ⟨firstTime,firstTime,read,rfl⟩

theorem wellFormed_intervals (ranges : Option (List TimeRange)) :
    (∀ text ∈ intervalTexts ranges, WellFormed text) ↔ ∀ r ∈ ranges.getD [], r.Ordered := by
  unfold intervalTexts
  split
  · simpa using (wellFormed_interval .unbounded).mpr unbounded_ordered
  · simpa using wellFormed_empty
  · simp [wellFormed_interval]

end Ranges

end OlapQuery
