import Mathlib.Algebra.Group.Nat.Defs
import OlapQuery.Proofs.Calendar
import OlapQuery.Proofs.NumberTexts
import OlapQuery.Time.Instant

-- Reading timestamps. A number padded to its width is read back as the number, and a timestamp
-- as the instant that it shows. A text that lacks the seconds, the time of day or the offset is
-- no timestamp, and neither is one with a year of more than four digits.

namespace OlapQuery.Time

open Decimal (Digits natOfDigits)

section Padding

theorem padLeft_toList (width n : Nat) : (padLeft width n).toList
    = List.replicate (width - (Nat.toDigits 10 n).length) '0' ++ Nat.toDigits 10 n := by
  have digits : (toString n).toList = Nat.toDigits 10 n := Nat.toList_repr
  simp only [padLeft,String.toList_append,String.toList_ofList,← String.length_toList,digits]

theorem padLeft_digits (width n : Nat) : Digits (padLeft width n).toList := by
  rw [padLeft_toList]
  refine ⟨List.append_ne_nil_of_right_ne_nil _ Nat.toDigits_ne_nil,?_⟩
  intro c listed
  rcases List.mem_append.mp listed with zero | digit
  · rw [(List.mem_replicate.mp zero).2]; rfl
  · exact Nat.isDigit_of_mem_toDigits (by decide) (by decide) digit

theorem padLeft_length {width n : Nat} (some : 0 < width) (fits : n < 10 ^ width) :
    (padLeft width n).toList.length = width := by
  have short := (Nat.length_toDigits_le_iff (b := 10) (by decide) some).mpr fits
  rw [padLeft_toList,List.length_append,List.length_replicate]
  omega

theorem padLeft_value (width n : Nat) : natOfDigits (padLeft width n).toList = n := by
  change Nat.ofDigitChars 10 (padLeft width n).toList 0 = n
  rw [padLeft_toList,Nat.ofDigitChars_append,Nat.ofDigitChars_replicate_zero,Nat.mul_zero]
  exact Nat.ofDigitChars_ten_toDigits

theorem takeDigits_append {digits : List Char} (each : ∀ c ∈ digits, c.isDigit = true)
    (rest : List Char) :
    takeDigits digits.length (digits ++ rest) = some (natOfDigits digits,rest) := by
  have all : digits.all Char.isDigit = true := List.all_eq_true.mpr each
  simp [takeDigits,all]

theorem takeDigits_padLeft {width n : Nat} (some : 0 < width) (fits : n < 10 ^ width)
    (rest : List Char) :
    takeDigits width ((padLeft width n).toList ++ rest) = .some (n,rest) := by
  have read := takeDigits_append (padLeft_digits width n).2 rest
  rwa [padLeft_length some fits,padLeft_value] at read

end Padding

section Steps

variable {α : Type}

theorem takeDigits_bind {width n : Nat} (some : 0 < width) (fits : n < 10 ^ width)
    (rest : List Char) (next : Nat × List Char → Option α) :
    (takeDigits width ((padLeft width n).toList ++ rest)).bind next = next (n,rest) := by
  rw [takeDigits_padLeft some fits,Option.bind_some]

theorem takeChar_bind {accept : Char → Bool} {c : Char} (accepted : accept c = true)
    (rest : List Char) (next : List Char → Option α) :
    (takeChar accept (c :: rest)).bind next = next rest := by
  rw [takeChar,if_pos accepted,Option.bind_some]

end Steps

-- The years that are written with four digits.
def FourDigits (year : Int) : Prop :=
  0 ≤ year ∧ year ≤ 9999

instance (year : Int) : Decidable (FourDigits year) :=
  inferInstanceAs (Decidable (_ ∧ _))

theorem FourDigits.inCalendar {date : Date} (short : FourDigits date.year) :
    date.inCalendar = true := by
  obtain ⟨least,most⟩ := short
  simp only [Date.inCalendar,Bool.and_eq_true,decide_eq_true_eq]
  unfold firstYear lastYear
  omega

def signedChars (width : Nat) (n : Int) : List Char :=
  if n < 0 then '-' :: (padLeft width n.natAbs).toList else (padLeft width n.toNat).toList

@[simp] theorem signedChars_nat (width n : Nat) : signedChars width n = (padLeft width n).toList := by
  simp [signedChars]

theorem FourDigits.chars {year : Int} (short : FourDigits year) :
    signedChars 4 year = (padLeft 4 year.toNat).toList :=
  if_neg (Int.not_lt.mpr short.1)

def dateChars (date : Date) : List Char :=
  signedChars 4 date.year ++ '-' :: (padLeft 2 date.month).toList
    ++ '-' :: (padLeft 2 date.day).toList

structure Shown where
  date : Date
  hour : Nat
  minute : Nat
  second : Nat

namespace Shown

structure Proper (shown : Shown) : Prop where
  date : shown.date.isValid = true
  hour : shown.hour < 24
  minute : shown.minute < 60
  second : shown.second < 60

def clock (shown : Shown) : LocalTime :=
  .ofParts shown.date.dayNumber shown.hour shown.minute shown.second

def instant (shown : Shown) : Instant :=
  { seconds := shown.clock.seconds,nanos := shown.clock.nanos }

def minuteChars (mark : Char) (shown : Shown) : List Char :=
  dateChars shown.date ++ mark :: (padLeft 2 shown.hour).toList
    ++ ':' :: (padLeft 2 shown.minute).toList

def chars (mark : Char) (shown : Shown) : List Char :=
  shown.minuteChars mark ++ ':' :: (padLeft 2 shown.second).toList

end Shown

theorem Shown.Proper.clock_date {shown : Shown} (proper : shown.Proper) :
    shown.clock.date = shown.date := by
  obtain ⟨valid,hour,minute,second⟩ := proper
  have whole : shown.clock.dayNumber = shown.date.dayNumber := by
    simp only [Shown.clock,LocalTime.ofParts,LocalTime.dayNumber]
    omega
  rw [LocalTime.date,whole,ofDayNumber_dayNumber valid]

theorem ofShown_instant {shown : Shown} (proper : shown.Proper)
    (known : shown.date.inCalendar = true) :
    Instant.ofShown? shown.date shown.hour shown.minute shown.second 0 0 = some shown.instant := by
  have day : shown.instant.utcClock.date = shown.date := proper.clock_date
  obtain ⟨valid,hour,minute,second⟩ := proper
  have early : (shown.second == 60) = false := by simpa using by omega
  have hours : ¬ shown.hour > 23 := by omega
  have minutes : ¬ shown.minute > 59 := by omega
  have seconds : ¬ shown.second > 60 := by omega
  simp [Instant.ofShown?,known,valid,hours,minutes,seconds,early]
  exact ⟨(congrArg Date.inCalendar day).trans known,rfl⟩

section Reading

variable {shown : Shown} (proper : shown.Proper) (short : FourDigits shown.date.year)
include proper short

theorem parse_date (rest : List Char) :
    Instant.parse? (String.ofList (dateChars shown.date ++ rest)) = (do
      let cs ← takeChar isDateTimeMark rest
      let (hour,cs) ← takeDigits 2 cs
      let cs ← takeChar (· == ':') cs
      let (minute,cs) ← takeDigits 2 cs
      let cs ← takeChar (· == ':') cs
      let (second,cs) ← takeDigits 2 cs
      let (nanos,cs) ← takeFraction cs
      let (offset,cs) ← takeOffset cs
      if cs.isEmpty then Instant.ofShown? shown.date hour minute second nanos offset else none) := by
  obtain ⟨-,months,-,days⟩ := (isValid_iff _).mp proper.date
  have length := daysInMonth_le shown.date.year shown.date.month
  have years : shown.date.year.toNat < 10 ^ 4 := by
    obtain ⟨least,most⟩ := short
    omega
  have month : shown.date.month < 10 ^ 2 := by omega
  have day : shown.date.day < 10 ^ 2 := by omega
  have year : (shown.date.year.toNat : Int) = shown.date.year := Int.toNat_of_nonneg short.1
  unfold Instant.parse?
  dsimp only
  rw [String.toList_ofList,dateChars,short.chars,List.append_assoc,List.append_assoc,
    List.cons_append,List.cons_append]
  refine (takeDigits_bind (by decide) years _ _).trans ?_
  refine (takeChar_bind rfl _ _).trans ?_
  refine (takeDigits_bind (by decide) month _ _).trans ?_
  refine (takeChar_bind rfl _ _).trans ?_
  refine (takeDigits_bind (by decide) day _ _).trans ?_
  rw [year]

theorem parse_dateOnly : Instant.parse? (String.ofList (dateChars shown.date ++ ['Z'])) = none := by
  rw [parse_date proper short]
  rfl

variable {mark : Char} (marked : isDateTimeMark mark = true)
include marked

theorem parse_minute (rest : List Char) :
    Instant.parse? (String.ofList (shown.minuteChars mark ++ rest)) = (do
      let cs ← takeChar (· == ':') rest
      let (second,cs) ← takeDigits 2 cs
      let (nanos,cs) ← takeFraction cs
      let (offset,cs) ← takeOffset cs
      if cs.isEmpty then Instant.ofShown? shown.date shown.hour shown.minute second nanos offset
      else none) := by
  have hours : shown.hour < 10 ^ 2 := by have := proper.hour; omega
  have minutes : shown.minute < 10 ^ 2 := by have := proper.minute; omega
  rw [Shown.minuteChars,List.append_assoc,List.append_assoc,parse_date proper short,
    List.cons_append,List.cons_append]
  refine (takeChar_bind marked _ _).trans ?_
  refine (takeDigits_bind (by decide) hours _ _).trans ?_
  refine (takeChar_bind rfl _ _).trans ?_
  exact takeDigits_bind (by decide) minutes _ _

theorem parse_minutes :
    Instant.parse? (String.ofList (shown.minuteChars mark ++ ['Z'])) = none := by
  rw [parse_minute proper short marked]
  rfl

theorem parse_chars (rest : List Char) :
    Instant.parse? (String.ofList (shown.chars mark ++ rest))
      = (takeFraction rest).bind fun (nanos,rest) => (takeOffset rest).bind fun (offset,rest) =>
        if rest.isEmpty then
          Instant.ofShown? shown.date shown.hour shown.minute shown.second nanos offset
        else none := by
  have seconds : shown.second < 10 ^ 2 := by have := proper.second; omega
  rw [Shown.chars,List.append_assoc,parse_minute proper short marked,List.cons_append]
  refine (takeChar_bind rfl _ _).trans ?_
  exact takeDigits_bind (by decide) seconds _ _

theorem parse_zoned : Instant.parse? (String.ofList (shown.chars mark ++ ['Z']))
    = some shown.instant := by
  rw [parse_chars proper short marked,← ofShown_instant proper short.inCalendar]
  rfl

theorem parse_unzoned : Instant.parse? (String.ofList (shown.chars mark)) = none := by
  have read := parse_chars proper short marked []
  rw [List.append_nil] at read
  exact read

end Reading

section Years

theorem parse_minus (rest : List Char) : Instant.parse? (String.ofList ('-' :: rest)) = none := by
  have sign : Char.isDigit '-' = false := rfl
  have unread : takeDigits 4 ('-' :: rest) = none := by simp [takeDigits,sign]
  unfold Instant.parse?
  dsimp only
  rw [String.toList_ofList,unread]
  rfl

-- A fifth digit stands where the month is to be set off.
theorem parse_long {digits : List Char} (each : ∀ c ∈ digits, c.isDigit = true)
    (long : 4 < digits.length) (rest : List Char) :
    Instant.parse? (String.ofList (digits ++ rest)) = none := by
  have four : (digits.take 4).length = 4 := List.length_take_of_le (by omega)
  have front : ∀ c ∈ digits.take 4, c.isDigit = true := fun c early =>
    each c (List.mem_of_mem_take early)
  have read := takeDigits_append front (digits.drop 4 ++ rest)
  rw [four,← List.append_assoc,List.take_append_drop] at read
  have left : digits.drop 4 ≠ [] := by rw [Ne,List.drop_eq_nil_iff]; omega
  obtain ⟨fifth,more,later⟩ := List.exists_cons_of_ne_nil left
  have digit := each fifth (List.mem_of_mem_drop (later ▸ List.mem_cons_self))
  have other : fifth ≠ '-' := by
    rintro rfl
    cases digit
  have unset : takeChar (· == '-') (fifth :: more ++ rest) = none := if_neg (by simpa using other)
  rw [later] at read
  unfold Instant.parse?
  dsimp only
  rw [String.toList_ofList,read,Option.bind_eq_bind,Option.bind_some,unset]
  rfl

theorem padLeft_long {width n : Nat} (some : 0 < width) (long : 10 ^ width ≤ n) :
    width < (padLeft width n).toList.length := by
  have digits : ¬ (Nat.toDigits 10 n).length ≤ width := by
    rw [Nat.length_toDigits_le_iff (by decide) some]
    omega
  rw [padLeft_toList,List.length_append]
  omega

theorem parse_outside {year : Int} (outside : ¬ FourDigits year) (rest : List Char) :
    Instant.parse? (String.ofList (signedChars 4 year ++ rest)) = none := by
  unfold signedChars
  by_cases negative : year < 0
  · rw [if_pos negative]
    exact parse_minus _
  · rw [if_neg negative]
    unfold FourDigits at outside
    exact parse_long (padLeft_digits 4 _).2 (padLeft_long (by decide) (by omega)) rest

end Years

end OlapQuery.Time
