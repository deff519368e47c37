import OlapQuery.Proofs.IntervalTexts
import OlapQuery.Proofs.KeyFormats
import OlapQuery.Proofs.Months
import OlapQuery.Proofs.TimeLifting

-- What is left out of the bounds of an interval can be put back. The fields that a trimmed time
-- lacks are the last ones and zero, also where a field before them is zero and written: filled with
-- zeros the text is the timestamp to the millisecond, and is read as the time that it was written
-- for but for what lies within its millisecond. So no two whole milliseconds have the same text.

namespace OlapQuery

namespace Time

section Filling

-- A timestamp of Greenwich of which all fields are zero.
def zeroFields : List Char := "0000-00-00T00:00:00.000Z".toList

-- The text with the fields that are missing at its end.
def filled (text : String) : String :=
  String.ofList (text.toList ++ zeroFields.drop text.toList.length)

theorem zeroFields_chars : zeroFields = ['0','0','0','0','-','0','0','-','0','0','T','0','0',':',
    '0','0',':','0','0','.','0','0','0','Z'] := by decide

theorem yearText_short {year : Int} (short : FourDigits year) :
    yearText year = padLeft 4 year.toNat :=
  if_pos short

theorem dateText_length {date : Date} (short : FourDigits date.year) (valid : date.isValid = true) :
    (dateText date).toList.length = 10 := by
  obtain ⟨-,months,-,days⟩ := (isValid_iff _).mp valid
  have length := daysInMonth_le date.year date.month
  have years : date.year.toNat < 10 ^ 4 := by
    obtain ⟨least,most⟩ := short
    omega
  have year := padLeft_length (by decide) years
  have month := padLeft_length (by decide) (show date.month < 10 ^ 2 by omega)
  have day := padLeft_length (by decide) (show date.day < 10 ^ 2 by omega)
  simp [dateText,yearText_short short,year,month,day]

end Filling

namespace Instant

variable {t : Instant}

theorem IsMillis.cut (counted : t.IsMillis) : t.cut = t := by
  obtain ⟨seconds,nanos⟩ := t
  obtain ⟨whole,-⟩ := counted
  simp only [Instant.cut,mk.injEq,true_and]
  dsimp only at whole
  omega

section
variable (plain : t.nanos < 1000000000)
include plain

theorem told_plain : t.told = t.cut :=
  if_neg fun late => by omega

theorem shownSecond_plain : t.utcClock.shownSecond = (t.utcClock.second,t.nanos) :=
  if_neg (show ¬ t.nanos ≥ 1000000000 by omega)

theorem millisText_chars : t.millisText.toList = (dateText t.utcClock.date).toList
    ++ 'T' :: ((padLeft 2 t.utcClock.hour).toList ++ ':' :: ((padLeft 2 t.utcClock.minute).toList
    ++ ':' :: ((padLeft 2 t.utcClock.second).toList
    ++ '.' :: ((padLeft 3 (t.nanos / 1000000)).toList ++ ['Z'])))) := by
  simp [millisText,LocalTime.textWithFraction,shownSecond_plain plain]

theorem parse_millisText (short : FourDigits t.utcClock.date.year) :
    parse? t.millisText = some t.cut := by
  have millis : t.nanos / 1000000 < 10 ^ 3 := by omega
  have text : t.millisText = String.ofList ((bucketStart .second t.utcClock).chars 'T'
      ++ (("." ++ padLeft 3 (t.nanos / 1000000)).toList ++ ['Z'])) := by
    rw [← String.toList_inj,millisText_chars plain,String.toList_ofList]
    simp [bucketStart,Shown.chars,Shown.minuteChars,dateChars,short.chars,dateText,
      yearText_short short]
  have proper : t.cut.Proper := cut_proper ⟨short.inCalendar,by omega,fun late => by omega⟩
  rw [text,parse_chars (bucketStart_proper .second t.utcClock) short rfl,
    takeFraction_padLeft (by decide) (by decide) millis]
  have shown := ofShown_clock proper
  rw [cut_shown,shownSecond_plain plain] at shown
  exact shown

end

end Instant

end Time

namespace Druid

open Time (Instant FourDigits padLeft filled)

variable {t : Instant}

theorem filled_trimmed (short : FourDigits t.utcClock.date.year) (plain : t.nanos < 1000000000) :
    filled (trimTime t) = t.millisText := by
  have date := Time.dateText_length short t.utcClock.date_valid
  obtain ⟨hour,minute,second⟩ := clock_bounds t
  rw [Instant.shownSecond_plain plain] at second
  have hours := Time.padLeft_length (by decide) hour
  have minutes := Time.padLeft_length (by decide) minute
  have seconds := Time.padLeft_length (by decide) second
  have millis := Time.padLeft_length (by decide) (show t.nanos / 1000000 < 10 ^ 3 by omega)
  have none : (padLeft 2 0).toList = ['0','0'] := by decide
  have nothing : (padLeft 3 0).toList = ['0','0','0'] := by decide
  rw [filled,trimTime_toList,← String.toList_inj,String.toList_ofList,
    Instant.millisText_chars plain,Time.zeroFields_chars,trimmedClock,
    Instant.shownSecond_plain plain]
  dsimp only
  generalize t.nanos / 1000000 = fraction at *
  -- By the last field that is written: those after it are zero, and those before it may be.
  split_ifs with whole first even noon
  · simp [date,hours,minutes,seconds,millis]
  · simp [date,hours,minutes,seconds,nothing,not_not.mp whole]
  · simp [date,hours,minutes,none,nothing,not_not.mp whole,not_not.mp first]
  · simp [date,hours,none,nothing,not_not.mp whole,not_not.mp first,not_not.mp even]
  · simp [date,none,nothing,not_not.mp whole,not_not.mp first,not_not.mp even,not_not.mp noon]

end Druid

section Ranges
open Druid
open Time (Instant FourDigits filled)

theorem boundTime_plain {t : Instant} (plain : t.nanos < 1000000000) :
    boundTime? (trimTime t).toList = some t.cut := by
  rw [boundTime_trimmed,if_pos (by omega),Instant.told_plain plain]

theorem boundTime_millis {t : Instant} (counted : t.IsMillis) :
    boundTime? (trimTime t).toList = some t := by
  rw [boundTime_plain counted.2,counted.cut]

theorem interval_millis {r : TimeRange} (start : ∀ t ∈ r.start, t.IsMillis)
    (finish : ∀ t ∈ r.finish, t.IsMillis) :
    interval? (intervalText r) = some (r.start.getD firstTime,r.finish.getD lastTime) := by
  have bound {standIn : Instant} {bound : Option Instant} (counted : ∀ t ∈ bound, t.IsMillis) :
      (∀ t ∈ bound, t.nanos < 2000000000) ∧
        bound.getD standIn = (bound.map Instant.told).getD standIn := by
    cases bound with
    | none => exact ⟨nofun,rfl⟩
    | some t =>
        have plain := (counted t rfl).2
        refine ⟨?_,?_⟩
        · rintro _ ⟨⟩
          omega
        · simp [Instant.told_plain plain,(counted t rfl).cut]
  exact (interval_read r _ _).mpr ⟨bound start,bound finish⟩

-- A bound is read as its time to the millisecond, by itself and by what it is filled to. So whole
-- milliseconds differ in their texts, and a range between two of them is read back from its text.
theorem trimmed_bounds_kept :
    (∀ t : Instant, FourDigits t.utcClock.date.year → t.nanos < 1000000000 →
      boundTime? (trimTime t).toList = some t.cut ∧
        Instant.parse? (filled (trimTime t)) = some t.cut) ∧
    (∀ s t : Instant, s.IsMillis → t.IsMillis → trimTime s = trimTime t → s = t) ∧
    ∀ r : TimeRange, (∀ t ∈ r.start, t.IsMillis) → (∀ t ∈ r.finish, t.IsMillis) →
      interval? (intervalText r) = some (r.start.getD firstTime,r.finish.getD lastTime) := by
  refine ⟨fun t short plain => ⟨boundTime_plain plain,?_⟩,fun s t first second same => ?_,
    fun r => interval_millis⟩
  · rw [filled_trimmed short plain,Instant.parse_millisText plain short]
  · have read := boundTime_millis first
    rw [same,boundTime_millis second] at read
    exact (Option.some.inj read).symm

def earlySecond : Instant := ⟨1426122005,123456789⟩

def firstHour : TimeRange := { start := some ⟨1426291200,0⟩,finish := some ⟨1426294800,0⟩ }

theorem trimmed_bounds_march :
    (trimTime earlySecond = "2015-03-12T01:00:05.123" ∧
      boundTime? (trimTime earlySecond).toList = some ⟨1426122005,123000000⟩ ∧
      Instant.parse? (filled (trimTime earlySecond)) = some ⟨1426122005,123000000⟩) ∧
    intervalText firstHour = "2015-03-14/2015-03-14T01" ∧
    interval? (intervalText firstHour) = some (⟨1426291200,0⟩,⟨1426294800,0⟩) ∧
    trimTime ⟨1426291200,0⟩ ≠ trimTime ⟨1426294800,0⟩ := by
  obtain ⟨read,differ,ranges⟩ := trimmed_bounds_kept
  have midnight : Instant.IsMillis ⟨1426291200,0⟩ := ⟨rfl,by decide⟩
  have one : Instant.IsMillis ⟨1426294800,0⟩ := ⟨rfl,by decide⟩
  refine ⟨⟨by decide +kernel,read earlySecond (by decide) (by decide)⟩,by decide +kernel,
    ranges firstHour ?_ ?_,fun same => absurd (differ _ _ midnight one same) (by decide)⟩
  · rintro _ ⟨⟩
    exact midnight
  · rintro _ ⟨⟩
    exact one

end Ranges

end OlapQuery
