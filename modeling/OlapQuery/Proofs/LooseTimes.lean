import Mathlib.Data.List.Induction
import Mathlib.Data.List.TakeWhile
import OlapQuery.Proofs.TimeTexts
import OlapQuery.Time.LooseText

-- The exact text of an instant is read back as the instant, by the loose reader too: its numbers
-- fill their places, so that no digit of the next is taken with them, and the sign of a long year
-- ends at the mark before the month.

namespace OlapQuery.Time

open Decimal (Digits natOfDigits)

-- The instants of the calendar. Past the end of a second time goes on only in a leap second.
structure Instant.Proper (t : Instant) : Prop where
  known : t.utcClock.date.inCalendar = true
  nanos : t.nanos < 2000000000
  leap : 1000000000 ≤ t.nanos → t.utcClock.second = 59

section Blanks

theorem whiteSpace_codes : Unicode.whiteSpace = [(9,13),(32,32),(133,133),(160,160),(5760,5760),
    (8192,8202),(8232,8233),(8239,8239),(8287,8287),(12288,12288)] := by
  decide +kernel

theorem digit_unblank {c : Char} (digit : c.isDigit = true) : Text.isBlank c = false := by
  simp only [Char.isDigit,Bool.and_eq_true,decide_eq_true_eq,UInt32.le_iff_toNat_le] at digit
  change 48 ≤ c.toNat ∧ c.toNat ≤ 57 at digit
  simp only [Text.isBlank,whiteSpace_codes,Unicode.CodeSet.contains,List.any_cons,List.any_nil,
    Bool.or_eq_false_iff,Bool.and_eq_false_iff,decide_eq_false_iff_not,and_true]
  omega

theorem skipBlanks_other {c : Char} (other : Text.isBlank c = false) (rest : List Char) :
    skipBlanks (c :: rest) = c :: rest := by
  simp [skipBlanks,other]

theorem skipBlanks_digits {digits : List Char} (each : Digits digits) (rest : List Char) :
    skipBlanks (digits ++ rest) = digits ++ rest := by
  obtain ⟨some,digit⟩ := each
  obtain ⟨c,more,rfl⟩ := List.exists_cons_of_ne_nil some
  exact skipBlanks_other (digit_unblank (digit c List.mem_cons_self)) _

theorem mark_unblank {c : Char} (mark : c ∈ ['-','+',':','Z']) : Text.isBlank c = false := by
  simp only [List.mem_cons,List.not_mem_nil,or_false] at mark
  rw [Text.isBlank,whiteSpace_codes]
  rcases mark with rfl | rfl | rfl | rfl <;> decide

end Blanks

section Numbers

theorem takeNumber_digits {width : Nat} {digits rest : List Char} (each : Digits digits)
    (ends : digits.length = width ∨
      digits.length ≤ width ∧ rest.takeWhile Char.isDigit = []) :
    takeNumber width (digits ++ rest) = some (natOfDigits digits,rest) := by
  have taken : ((digits ++ rest).takeWhile Char.isDigit).take width = digits := by
    rw [List.takeWhile_append_of_pos each.2]
    rcases ends with full | ⟨fits,stops⟩
    · rw [← full,List.take_left]
    · rw [stops,List.append_nil,List.take_of_length_le fits]
  have some : digits.isEmpty = false := List.isEmpty_eq_false_iff.mpr each.1
  simp only [takeNumber,taken,some,Bool.false_eq_true,if_false,List.drop_left]

theorem takeNumber_padLeft {width n : Nat} (some : 0 < width) (fits : n < 10 ^ width)
    (rest : List Char) :
    takeNumber width ((padLeft width n).toList ++ rest) = .some (n,rest) := by
  rw [takeNumber_digits (padLeft_digits width n) (.inl (padLeft_length some fits)),padLeft_value]

theorem takeNext_padLeft {mark : Char} (unblank : Text.isBlank mark = false) {n : Nat}
    (fits : n < 100) (rest : List Char) :
    takeNext mark (mark :: ((padLeft 2 n).toList ++ rest)) = some (n,rest) := by
  have marked : takeChar (· == mark) (mark :: ((padLeft 2 n).toList ++ rest))
      = some ((padLeft 2 n).toList ++ rest) := if_pos (beq_self_eq_true mark)
  unfold takeNext
  rw [skipBlanks_other unblank,marked,Option.bind_eq_bind,Option.bind_some,
    skipBlanks_digits (padLeft_digits 2 n),takeNumber_padLeft (by decide) fits]

theorem takeYear_minus (cs : List Char) : takeYear ('-' :: cs)
    = (takeNumber cs.length cs).map fun read => (-(read.1 : Int),read.2) := rfl

theorem takeYear_plus (cs : List Char) : takeYear ('+' :: cs)
    = (takeNumber cs.length cs).map fun read => ((read.1 : Int),read.2) := rfl

theorem takeYear_digit {c : Char} (digit : c.isDigit = true) (cs : List Char) :
    takeYear (c :: cs) = (takeNumber 4 (c :: cs)).map fun read => ((read.1 : Int),read.2) := by
  unfold takeYear
  split
  · rename_i is; cases is; cases digit
  · rename_i is; cases is; cases digit
  · rfl

theorem takeYear_text (year : Int) (rest : List Char) :
    takeYear ((yearText year).toList ++ '-' :: rest) = some (year,'-' :: rest) := by
  have signed (n : Nat) : takeNumber ((padLeft 4 n).toList ++ '-' :: rest).length
      ((padLeft 4 n).toList ++ '-' :: rest) = some (n,'-' :: rest) := by
    rw [takeNumber_digits (padLeft_digits 4 n) (.inr ⟨by simp,rfl⟩),padLeft_value]
  unfold yearText
  split
  · rename_i short
    have fits : year.toNat < 10 ^ 4 := by omega
    have read := takeNumber_padLeft (by decide) fits ('-' :: rest)
    have digits := padLeft_digits 4 year.toNat
    obtain ⟨c,more,text⟩ := List.exists_cons_of_ne_nil digits.1
    have digit := digits.2 c (text ▸ List.mem_cons_self)
    have back : (year.toNat : Int) = year := by omega
    rw [text,List.cons_append] at read ⊢
    rw [takeYear_digit digit,read,Option.map_some,back]
  · rename_i long
    by_cases negative : year < 0
    · have back : -(year.natAbs : Int) = year := by omega
      have text : ("-" ++ padLeft 4 year.natAbs).toList = '-' :: (padLeft 4 year.natAbs).toList :=
        String.toList_append
      rw [if_pos negative,text,List.cons_append,takeYear_minus,signed,Option.map_some,back]
    · have back : (year.natAbs : Int) = year := by omega
      have text : ("+" ++ padLeft 4 year.natAbs).toList = '+' :: (padLeft 4 year.natAbs).toList :=
        String.toList_append
      rw [if_neg negative,text,List.cons_append,takeYear_plus,signed,Option.map_some,back]

theorem yearText_unblank (year : Int) (rest : List Char) :
    skipBlanks ((yearText year).toList ++ rest) = (yearText year).toList ++ rest := by
  unfold yearText
  split
  · exact skipBlanks_digits (padLeft_digits 4 _) rest
  · rw [String.toList_append]
    split
    · exact skipBlanks_other (mark_unblank (by decide)) _
    · exact skipBlanks_other (mark_unblank (by decide)) _

end Numbers

section Fractions

def fractionText (nanos : Nat) : String :=
  if nanos == 0 then ""
  else if nanos % 1000000 == 0 then "." ++ padLeft 3 (nanos / 1000000)
  else if nanos % 1000 == 0 then "." ++ padLeft 6 (nanos / 1000)
  else "." ++ padLeft 9 nanos

theorem takeFraction_padLeft {width n : Nat} (some : 0 < width) (short : width ≤ 9)
    (fits : n < 10 ^ width) : takeFraction (("." ++ padLeft width n).toList ++ ['Z'])
      = .some (n * 10 ^ (9 - width),['Z']) := by
  have digits := padLeft_digits width n
  have length := padLeft_length some fits
  have front : ((padLeft width n).toList ++ ['Z']).takeWhile Char.isDigit
      = (padLeft width n).toList := by
    rw [List.takeWhile_append_of_pos digits.2]
    exact List.append_nil _
  have back : ((padLeft width n).toList ++ ['Z']).dropWhile Char.isDigit = ['Z'] := by
    rw [List.dropWhile_append_of_pos digits.2]
    rfl
  have listed : (padLeft width n).toList.isEmpty = false := List.isEmpty_eq_false_iff.mpr digits.1
  have kept : (padLeft width n).toList.take 9 = (padLeft width n).toList :=
    List.take_of_length_le (by omega)
  rw [String.toList_append]
  change takeFraction ('.' :: ((padLeft width n).toList ++ ['Z'])) = _
  simp only [takeFraction,front,back,listed,kept,length,padLeft_value,Bool.false_eq_true,if_false]
  rfl

theorem takeFraction_text {nanos : Nat} (below : nanos < 1000000000) :
    takeFraction ((fractionText nanos).toList ++ ['Z']) = some (nanos,['Z']) := by
  unfold fractionText
  split
  · rename_i zero
    rw [beq_iff_eq] at zero
    subst zero
    rfl
  · split
    · rename_i millis
      rw [beq_iff_eq] at millis
      rw [takeFraction_padLeft (by decide) (by decide) (by omega)]
      exact congrArg some (Prod.ext (by simp only []; omega) rfl)
    · split
      · rename_i micros
        rw [beq_iff_eq] at micros
        rw [takeFraction_padLeft (by decide) (by decide) (by omega)]
        exact congrArg some (Prod.ext (by simp only []; omega) rfl)
      · rw [takeFraction_padLeft (by decide) (by decide) (by omega)]
        exact congrArg some (Prod.ext (by simp only []; omega) rfl)

end Fractions

namespace Instant

variable {t : Instant}

theorem clock_seconds (t : Instant) : (LocalTime.ofParts t.utcClock.date.dayNumber t.utcClock.hour
    t.utcClock.minute t.utcClock.second).seconds = t.seconds := by
  have day : t.utcClock.date.dayNumber = t.seconds / 86400 := dayNumber_ofDayNumber _
  rw [day]
  simp only [LocalTime.ofParts,LocalTime.hour,LocalTime.minute,LocalTime.second,
    LocalTime.secondOfDay,utcClock]
  omega

theorem ofShown_clock (proper : t.Proper) :
    ofShown? t.utcClock.date t.utcClock.hour t.utcClock.minute t.utcClock.shownSecond.1
      t.utcClock.shownSecond.2 0 = some t := by
  obtain ⟨known,bound,leap⟩ := proper
  have valid : t.utcClock.date.isValid = true := ofDayNumber_valid _
  have hours : ¬ t.utcClock.hour > 23 := by
    simp only [LocalTime.hour,LocalTime.secondOfDay]; omega
  have minutes : ¬ t.utcClock.minute > 59 := by simp only [LocalTime.minute]; omega
  have seconds : t.utcClock.second < 60 := by simp only [LocalTime.second]; omega
  have whole := clock_seconds t
  have together : ({ seconds := t.seconds - 0,nanos := t.nanos } : Instant) = t := by
    rw [Int.sub_zero]
  by_cases late : t.nanos ≥ 1000000000
  · have last := leap late
    have shown : t.utcClock.shownSecond = (60,t.nanos - 1000000000) := by
      rw [LocalTime.shownSecond,if_pos (show t.utcClock.nanos ≥ _ from late),last]
      rfl
    have nanos : t.nanos - 1000000000 + 1000000000 = t.nanos := by omega
    rw [last] at whole
    simp [ofShown?,shown,known,valid,hours,minutes,whole,nanos]
  · have shown : t.utcClock.shownSecond = (t.utcClock.second,t.nanos) := by
      rw [LocalTime.shownSecond,if_neg (show ¬ t.utcClock.nanos ≥ _ from late)]
      rfl
    have plain : (t.utcClock.second == 60) = false := by rw [beq_eq_false_iff_ne]; omega
    have most : ¬ t.utcClock.second > 60 := by omega
    simp [ofShown?,shown,known,valid,hours,minutes,most,plain,whole]

theorem shownSecond_bounds (proper : t.Proper) :
    t.utcClock.shownSecond.1 < 100 ∧ t.utcClock.shownSecond.2 < 1000000000 := by
  have second : t.utcClock.second < 60 := by simp only [LocalTime.second]; omega
  have bound := proper.nanos
  unfold LocalTime.shownSecond
  split
  · have same : t.utcClock.nanos = t.nanos := rfl
    exact ⟨by simp only []; omega,by simp only []; omega⟩
  · exact ⟨by simp only []; omega,by simp only []; omega⟩

-- What the clock of Greenwich shows, with a mark between the day and the time.
def clockChars (t : Instant) (mark : Char) (fraction : List Char) : List Char :=
  (yearText t.utcClock.date.year).toList ++ '-' :: ((padLeft 2 t.utcClock.date.month).toList
    ++ '-' :: ((padLeft 2 t.utcClock.date.day).toList ++ mark :: ((padLeft 2 t.utcClock.hour).toList
    ++ ':' :: ((padLeft 2 t.utcClock.minute).toList
    ++ ':' :: ((padLeft 2 t.utcClock.shownSecond.1).toList ++ (fraction ++ ['Z']))))))

theorem exactText_chars (t : Instant) :
    t.exactText.toList = t.clockChars 'T' (fractionText t.utcClock.shownSecond.2).toList := by
  simp [exactText,LocalTime.textWithFraction,dateText,fractionText,clockChars]

theorem parseLoose_clock {mark : Char} {fraction : List Char} (proper : t.Proper)
    (parts : isDateTimeMark mark = true)
    (shown : takeFraction (fraction ++ ['Z']) = some (t.utcClock.shownSecond.2,['Z'])) :
    parseLoose? (String.ofList (t.clockChars mark fraction)) = some t := by
  obtain ⟨-,months,-,days⟩ := (isValid_iff _).mp (ofDayNumber_valid t.utcClock.dayNumber)
  have length := daysInMonth_le t.utcClock.date.year t.utcClock.date.month
  have month : t.utcClock.date.month < 100 := Nat.lt_of_le_of_lt months (by decide)
  have day : t.utcClock.date.day < 100 :=
    Nat.lt_of_le_of_lt (Nat.le_trans days length) (by decide)
  have hour : t.utcClock.hour < 10 ^ 2 := by
    simp only [LocalTime.hour,LocalTime.secondOfDay]; omega
  have minute : t.utcClock.minute < 100 := by simp only [LocalTime.minute]; omega
  have second := (shownSecond_bounds proper).1
  have marked (rest : List Char) : takeChar isDateTimeMark (mark :: rest) = some rest :=
    if_pos parts
  have dash : Text.isBlank '-' = false := mark_unblank (by decide)
  have colon : Text.isBlank ':' = false := mark_unblank (by decide)
  have greenwich : Text.isBlank 'Z' = false := mark_unblank (by decide)
  have closed : takeLooseOffset ['Z'] = some (0,[]) := rfl
  unfold parseLoose?
  dsimp only
  rw [String.toList_ofList,clockChars,yearText_unblank,takeYear_text]
  simp only [Option.bind_eq_bind,Option.bind_some,takeNext_padLeft dash month,
    takeNext_padLeft dash day,marked,skipBlanks_digits (padLeft_digits 2 _),
    takeNumber_padLeft (by decide) hour,takeNext_padLeft colon minute,
    takeNext_padLeft colon second,shown,skipBlanks_other greenwich,closed]
  exact ofShown_clock proper

theorem parseLoose_exactText (proper : t.Proper) : parseLoose? t.exactText = some t := by
  have text : t.exactText = String.ofList (t.exactText.toList) := String.ofList_toList.symm
  rw [text,exactText_chars]
  exact parseLoose_clock proper rfl (takeFraction_text (shownSecond_bounds proper).2)

end Instant

-- Conversely, what is read is an instant of the calendar, and so has an exact text.
section Read

theorem digitValue_lt {c : Char} (digit : c.isDigit = true) : Decimal.digitValue c < 10 := by
  simp only [Char.isDigit,Bool.and_eq_true,decide_eq_true_eq,UInt32.le_iff_toNat_le] at digit
  change 48 ≤ c.toNat ∧ c.toNat ≤ 57 at digit
  change c.toNat - 48 < 10
  omega

theorem natOfDigits_lt {digits : List Char} (each : ∀ c ∈ digits, c.isDigit = true) :
    natOfDigits digits < 10 ^ digits.length := by
  induction digits using List.reverseRecOn with
  | nil => decide
  | append_singleton front last ih =>
    have before := ih fun c listed => each c (List.mem_append_left _ listed)
    have digit := digitValue_lt (each last (List.mem_append_right _ List.mem_cons_self))
    rw [List.length_append,List.length_singleton,Nat.pow_succ]
    simp only [natOfDigits,List.foldl_append,List.foldl_cons,List.foldl_nil] at before ⊢
    omega

theorem takeFraction_lt {cs rest : List Char} {nanos : Nat}
    (read : takeFraction cs = some (nanos,rest)) : nanos < 1000000000 := by
  unfold takeFraction at read
  split at read
  · rename_i more
    simp only [Option.ite_none_left_eq_some,Option.some.injEq,Prod.mk.injEq] at read
    obtain ⟨-,is,-⟩ := read
    have each : ∀ c ∈ (more.takeWhile Char.isDigit).take 9, c.isDigit = true := fun c listed =>
      List.mem_takeWhile_imp (List.mem_of_mem_take listed)
    have short : ((more.takeWhile Char.isDigit).take 9).length ≤ 9 := List.length_take_le _ _
    calc nanos = _ := is.symm
      _ < 10 ^ ((more.takeWhile Char.isDigit).take 9).length
            * 10 ^ (9 - ((more.takeWhile Char.isDigit).take 9).length) :=
          Nat.mul_lt_mul_of_pos_right (natOfDigits_lt each) (Nat.pow_pos (by decide))
      _ = 1000000000 := by rw [← Nat.pow_add,Nat.add_sub_cancel' short]
  · cases read
    decide

theorem takeLooseOffset_minutes {cs rest : List Char} {offset : Int}
    (read : takeLooseOffset cs = some (offset,rest)) : 60 ∣ offset := by
  unfold takeLooseOffset at read
  split at read
  · cases read; exact Int.dvd_zero _
  · cases read; exact Int.dvd_zero _
  · dsimp only at read
    split at read
    · cases read; exact Int.dvd_zero _
    · split at read
      · cases read
      · obtain ⟨⟨hours,_⟩,-,read⟩ := Option.bind_eq_some_iff.mp read
        obtain ⟨⟨minutes,_⟩,-,read⟩ := Option.bind_eq_some_iff.mp read
        dsimp only at read
        split at read
        · cases read
        · cases read
          split <;> omega
  · cases read

namespace Instant

theorem ofShown_proper {date : Date} {hour minute second nanos : Nat} {offset : Int} {t : Instant}
    (shown : ofShown? date hour minute second nanos offset = some t)
    (below : nanos < 1000000000) (minutes : 60 ∣ offset) : t.Proper := by
  -- Offsets of whole minutes leave the second of the minute as it is.
  have kept : ∀ seconds : Nat, seconds < 60 → LocalTime.second (utcClock
      ⟨(LocalTime.ofParts date.dayNumber hour minute seconds).seconds - offset,0⟩) = seconds := by
    intro seconds short
    simp only [LocalTime.second,LocalTime.secondOfDay,utcClock,LocalTime.ofParts]
    omega
  unfold ofShown? at shown
  split at shown
  · cases shown
  · by_cases last : second = 60
    · subst last
      obtain ⟨known,is⟩ := Option.ite_none_right_eq_some.mp shown
      cases is
      refine ⟨known,?_,fun _ => kept 59 (by decide)⟩
      exact Nat.add_lt_add_right below 1000000000
    · rw [if_neg (by simpa using last)] at shown
      obtain ⟨known,is⟩ := Option.ite_none_right_eq_some.mp shown
      cases is
      exact ⟨known,Nat.lt_trans below (by decide),fun late => absurd below (Nat.not_lt.mpr late)⟩

theorem parseLoose_proper {text : String} {t : Instant} (read : parseLoose? text = some t) :
    t.Proper := by
  unfold parseLoose? at read
  obtain ⟨_,-,read⟩ := Option.bind_eq_some_iff.mp read
  obtain ⟨_,-,read⟩ := Option.bind_eq_some_iff.mp read
  obtain ⟨_,-,read⟩ := Option.bind_eq_some_iff.mp read
  obtain ⟨_,-,read⟩ := Option.bind_eq_some_iff.mp read
  obtain ⟨_,-,read⟩ := Option.bind_eq_some_iff.mp read
  obtain ⟨_,-,read⟩ := Option.bind_eq_some_iff.mp read
  obtain ⟨_,-,read⟩ := Option.bind_eq_some_iff.mp read
  obtain ⟨⟨nanos,_⟩,fraction,read⟩ := Option.bind_eq_some_iff.mp read
  obtain ⟨⟨offset,_⟩,zone,read⟩ := Option.bind_eq_some_iff.mp read
  obtain ⟨-,shown⟩ := Option.ite_none_right_eq_some.mp read
  exact ofShown_proper shown (takeFraction_lt fraction) (takeLooseOffset_minutes zone)

end Instant

end Read

end OlapQuery.Time
