import OlapQuery.Proofs.DurationTexts
import OlapQuery.Proofs.KeyTexts
import OlapQuery.Proofs.TimeBuckets

-- The bucket tables of Presto and MySQL. Each of their durations has a pattern, which prints the start
-- of the bucket that an instant is in: the numbers printed, read as a time in UTC, are the instant
-- floored.

namespace OlapQuery

open Time

-- The six numbers of a printed time, read in UTC. The mark of Greenwich says nothing more.
def Time.readPrinted? (text : String) : Option Instant := do
  let (year,cs) ← takeDigits 4 text.toList
  let cs ← takeChar (· == '-') cs
  let (month,cs) ← takeDigits 2 cs
  let cs ← takeChar (· == '-') cs
  let (day,cs) ← takeDigits 2 cs
  let cs ← takeChar (· == ' ') cs
  let (hour,cs) ← takeDigits 2 cs
  let cs ← takeChar (· == ':') cs
  let (minute,cs) ← takeDigits 2 cs
  let cs ← takeChar (· == ':') cs
  let (second,cs) ← takeDigits 2 cs
  if cs = [] ∨ cs = ['Z'] then
    Instant.ofShown? { year := year,month := month,day := day } hour minute second 0 0
  else none

theorem Time.readPrinted_chars {shown : Shown} (proper : shown.Proper)
    (short : FourDigits shown.date.year) {after : List Char} (known : after = [] ∨ after = ['Z']) :
    readPrinted? (String.ofList (shown.chars ' ' ++ after)) = some shown.instant := by
  obtain ⟨-,months,-,days⟩ := (isValid_iff _).mp proper.date
  have length := daysInMonth_le shown.date.year shown.date.month
  have years : shown.date.year.toNat < 10 ^ 4 := by
    obtain ⟨least,most⟩ := short
    omega
  have month : shown.date.month < 10 ^ 2 := by omega
  have day : shown.date.day < 10 ^ 2 := by omega
  have hours : shown.hour < 10 ^ 2 := by have := proper.hour; omega
  have minutes : shown.minute < 10 ^ 2 := by have := proper.minute; omega
  have seconds : shown.second < 10 ^ 2 := by have := proper.second; omega
  have year : (shown.date.year.toNat : Int) = shown.date.year := Int.toNat_of_nonneg short.1
  unfold readPrinted?
  simp only [String.toList_ofList,Shown.chars,Shown.minuteChars,dateChars,short.chars,
    List.append_assoc,List.cons_append]
  refine (takeDigits_bind (by omega) years _ _).trans ?_
  refine (takeChar_bind rfl _ _).trans ?_
  refine (takeDigits_bind (by omega) month _ _).trans ?_
  refine (takeChar_bind rfl _ _).trans ?_
  refine (takeDigits_bind (by omega) day _ _).trans ?_
  refine (takeChar_bind rfl _ _).trans ?_
  refine (takeDigits_bind (by omega) hours _ _).trans ?_
  refine (takeChar_bind rfl _ _).trans ?_
  refine (takeDigits_bind (by omega) minutes _ _).trans ?_
  refine (takeChar_bind rfl _ _).trans ?_
  refine (takeDigits_bind (by omega) seconds _ _).trans ?_
  rw [if_pos known,year]
  exact ofShown_instant proper short.inCalendar

namespace Sql

-- Every bucket of the tables goes by the text of a duration of one unit, and its pattern shows the
-- start.
def Tables.ShowStarts (after : List Time.Piece) (t : Tables) : Prop :=
  ∀ name pattern, (name,pattern) ∈ t.buckets →
    ∃ duration unit, Duration.parse? name = some duration ∧ duration.text = name ∧
      duration.singleUnit = some (unit,1) ∧ unit ≠ .week ∧
      datePieces? pattern.toList = some (startSecond ' ' unit ++ after)

theorem single_fits {duration : Duration} {unit : CalendarUnit}
    (single : duration.singleUnit = some (unit,1)) : duration.ClockFits := by
  obtain ⟨-,counts⟩ := singleUnit_count single
  have hours : duration.hours = _ := counts .hour
  have minutes : duration.minutes = _ := counts .minute
  have seconds : duration.seconds = _ := counts .second
  rw [Duration.ClockFits,hours,minutes,seconds]
  cases unit <;> decide

variable {after : List Time.Piece} {t u : Tables}

theorem Tables.add_showStarts {entry : Entry} (before : t.ShowStarts after)
    (shows : entry.ShowsStart after) (added : t.add entry = .ok u) : u.ShowStarts after := by
  rcases add_cases added with ⟨_,_,_,_,-,-,rfl⟩ | ⟨name,pattern,duration,rfl,parsed,rfl⟩ |
    ⟨_,_,_,-,-,rfl⟩
  · exact before
  · intro key spec listed
    rcases Table.mem_insert listed with same | earlier
    · cases same
      obtain ⟨unit,single,dated,pieces⟩ := shows.parts parsed
      exact ⟨duration,unit,Duration.read_back parsed,rfl,single,dated,pieces⟩
    · exact before key spec earlier
  · exact before

theorem Tables.fold_showStarts {entries : List Entry} (before : t.ShowStarts after)
    (each : ∀ entry ∈ entries, entry.ShowsStart after) (ran : entries.foldlM Tables.add t = .ok u) :
    u.ShowStarts after := by
  induction entries generalizing t with
  | nil => cases ran; exact before
  | cons entry rest ih =>
      cases first : t.add entry with
      | error fault => simp [List.foldlM_cons,first,bind,Except.bind] at ran
      | ok next =>
          rw [List.foldlM_cons,first] at ran
          exact ih (Tables.add_showStarts before (each entry List.mem_cons_self) first)
            (fun entry listed => each entry (List.mem_cons_of_mem _ listed)) ran

theorem tables_showStarts {family : Family} (each : ∀ entry ∈ family.entries, entry.ShowsStart after) :
    family.tables.ShowStarts after := by
  have empty : Tables.ShowStarts after {} := nofun
  unfold Family.tables
  split
  · rename_i built
    exact Tables.fold_showStarts empty each (Tables.build_fold built)
  · exact empty

theorem Tables.ShowStarts.found (starts : t.ShowStarts after) {duration : Duration}
    (listed : duration ∈ t.bucketDurations) :
    ∃ pattern unit, t.bucket? duration = .ok (some pattern) ∧ duration.singleUnit = some (unit,1) ∧
      unit ≠ .week ∧ datePieces? pattern.toList = some (startSecond ' ' unit ++ after) := by
  obtain ⟨name,named,parsed⟩ := List.mem_filterMap.mp listed
  obtain ⟨entry,kept,rfl⟩ := List.mem_map.mp named
  have present : t.buckets.get? entry.1 ≠ none := by
    intro absent
    exact absurd rfl (bne_iff_ne.mp (List.lookup_eq_none_iff.mp absent entry kept))
  obtain ⟨pattern,get⟩ := Option.ne_none_iff_exists'.mp present
  obtain ⟨same,unit,read,text,single,dated,pieces⟩ := starts entry.1 pattern (Table.lookup_mem get)
  cases read.symm.trans parsed
  refine ⟨pattern,unit,?_,single,dated,pieces⟩
  rw [bucket_ok,text]
  exact ⟨.inr (single_fits single),get.symm⟩

end Sql

theorem bucket_printed {after : List Piece} {marks : List Char}
    (marked : ∀ clock, after.flatMap (Piece.chars clock) = marks)
    (known : marks = [] ∨ marks = ['Z']) {unit : CalendarUnit} (dated : unit ≠ .week)
    {clock : LocalTime} (short : FourDigits clock.date.year) :
    readPrinted? (printed clock (startSecond ' ' unit ++ after))
      = some (bucketStart unit clock).instant := by
  have year := bucketStart_year dated clock
  rw [printed,List.flatMap_append,startSecond_chars dated,marked]
  exact readPrinted_chars (bucketStart_proper unit clock) (year.symm ▸ short) known

-- Whatever instant is printed with the pattern of a duration, the text is of the instant floored by
-- the duration. Of a leap second the 59th second is printed, which is the one that it is floored to.
theorem pattern_prints_floor {family : Sql.Family} (patterned : family = .presto ∨ family = .mySql)
    {duration : Duration} (listed : duration ∈ family.tables.bucketDurations) {t : Instant}
    (short : FourDigits t.utcClock.date.year) :
    ∃ pattern pieces start, family.tables.bucket? duration = .ok (some pattern) ∧
      datePieces? pattern.toList = some pieces ∧ duration.floor t Zone.utc = .ok (some start) ∧
      readPrinted? (printed t.utcClock pieces) = some start := by
  have starts : ∃ after marks, family.tables.ShowStarts after ∧
      (∀ clock, after.flatMap (Piece.chars clock) = marks) ∧ (marks = [] ∨ marks = ['Z']) := by
    rcases patterned with rfl | rfl
    · exact ⟨[.text 'Z'],['Z'],Sql.tables_showStarts Sql.presto_starts,fun _ => rfl,.inr rfl⟩
    · exact ⟨[],[],Sql.tables_showStarts Sql.mySql_starts,fun _ => rfl,.inl rfl⟩
  obtain ⟨after,marks,starts,marked,known⟩ := starts
  obtain ⟨pattern,unit,found,single,dated,pieces⟩ := starts.found listed
  exact ⟨pattern,_,_,found,pieces,floor_start single dated short.inCalendar,
    bucket_printed marked known dated short⟩

namespace Shots

def shot : Instant := { seconds := 1426340851,nanos := 0 }

theorem hour_printed :
    (({ hours := 1 } : Duration) ∈ Sql.Family.mySql.tables.bucketDurations ∧
      FourDigits shot.utcClock.date.year) ∧
    ∃ pieces, datePieces? "%Y-%m-%d %H:00:00".toList = some pieces ∧
      ({ hours := 1 } : Duration).floor shot Zone.utc
        = .ok (some { seconds := 1426338000,nanos := 0 }) ∧
      readPrinted? (printed shot.utcClock pieces) = some { seconds := 1426338000,nanos := 0 } := by
  -- One evaluation of the tables for both facts about them.
  obtain ⟨listed,kept⟩ : ({ hours := 1 } : Duration) ∈ Sql.Family.mySql.tables.bucketDurations ∧
      Sql.Family.mySql.tables.bucket? { hours := 1 } = .ok (some "%Y-%m-%d %H:00:00") := by
    decide +kernel
  have short : FourDigits shot.utcClock.date.year := by decide +kernel
  obtain ⟨pattern,pieces,start,found,taken,floors,read⟩ :=
    pattern_prints_floor (.inr rfl) listed short
  have floored : ({ hours := 1 } : Duration).floor shot Zone.utc
      = .ok (some { seconds := 1426338000,nanos := 0 }) := by decide +kernel
  cases found.symm.trans kept
  cases floors.symm.trans floored
  exact ⟨⟨listed,short⟩,pieces,taken,floors,read⟩

end Shots

end OlapQuery
