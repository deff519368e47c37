import OlapQuery.Druid.Extraction
import OlapQuery.Proofs.Checked
import OlapQuery.Proofs.Months
import OlapQuery.Proofs.TimeTexts
import OlapQuery.Sql.Dialect

-- The formats in which engines print the times that they group by: letters that stand for numbers on
-- a clock, with text between them. The patterns of the bucket tables are taken apart here; each
-- shows the start of its bucket, to the second or less.

namespace OlapQuery

namespace Time

def LocalTime.dayOfYear (t : LocalTime) : Int :=
  t.dayNumber - newYear t.date.year + 1

-- Weeks run from Monday, and a week is in the year of its Thursday.
def LocalTime.weekOfYear (t : LocalTime) : Int :=
  let thursday := t.dayNumber - daysFromMonday t.dayNumber + 3
  (thursday - newYear (Date.ofDayNumber thursday).year) / 7 + 1

def LocalTime.dayOfWeek (t : LocalTime) : Int :=
  daysFromMonday t.dayNumber + 1

section Buckets

def Shown.midnight (date : Date) : Shown :=
  { date,hour := 0,minute := 0,second := 0 }

-- What a clock shows at the start of the bucket that it is in.
def bucketStart (unit : CalendarUnit) (clock : LocalTime) : Shown :=
  match unit with
  | .second => { date := clock.date,hour := clock.hour,minute := clock.minute,second := clock.second }
  | .minute => { date := clock.date,hour := clock.hour,minute := clock.minute,second := 0 }
  | .hour => { date := clock.date,hour := clock.hour,minute := 0,second := 0 }
  | .day => .midnight clock.date
  | .week => .midnight (Date.ofDayNumber (clock.dayNumber - daysFromMonday clock.dayNumber))
  | .month => .midnight { clock.date with day := 1 }
  | .year => .midnight { year := clock.date.year,month := 1,day := 1 }

theorem midnight_proper {date : Date} (valid : date.isValid = true) :
    (Shown.midnight date).Proper :=
  ⟨valid,Nat.zero_lt_succ _,Nat.zero_lt_succ _,Nat.zero_lt_succ _⟩

theorem bucketStart_proper (unit : CalendarUnit) (clock : LocalTime) :
    (bucketStart unit clock).Proper := by
  have day := ofDayNumber_valid clock.dayNumber
  have hour : clock.hour < 24 := by
    unfold LocalTime.hour LocalTime.secondOfDay
    omega
  have minute : clock.minute < 60 := Nat.mod_lt _ (Nat.zero_lt_succ _)
  have second : clock.second < 60 := Nat.mod_lt _ (Nat.zero_lt_succ _)
  cases unit with
  | second => exact ⟨day,hour,minute,second⟩
  | minute => exact ⟨day,hour,minute,Nat.zero_lt_succ _⟩
  | hour => exact ⟨day,hour,Nat.zero_lt_succ _,Nat.zero_lt_succ _⟩
  | day => exact midnight_proper day
  | week => exact midnight_proper (ofDayNumber_valid _)
  | month =>
      obtain ⟨least,most,-,-⟩ := (isValid_iff _).mp day
      exact midnight_proper (firstOfMonth_valid least most)
  | year => exact midnight_proper (firstOfMonth_valid (Nat.le_refl 1) (Nat.le_add_left 1 11))

theorem floorLocal_start {duration : Duration} {unit : CalendarUnit} {clock : LocalTime}
    (single : duration.singleUnit = some (unit,1)) (known : clock.date.inCalendar = true) :
    duration.floorLocal clock = some (bucketStart unit clock).clock := by
  have day : clock.date.dayNumber = clock.dayNumber := dayNumber_ofDayNumber _
  unfold Duration.floorLocal
  rw [single]
  cases unit with
  | second => simp [bucketStart,Shown.clock,day]
  | minute => simp [bucketStart,Shown.clock,day]
  | hour => simp [bucketStart,Shown.clock,day]
  | day => simp [bucketStart,Shown.midnight,Shown.clock,LocalTime.midnight,day]
  | week => simp [bucketStart,Shown.midnight,Shown.clock,LocalTime.midnight,dayNumber_ofDayNumber]
  | month =>
      obtain ⟨least,-,-,-⟩ := (isValid_iff _).mp (ofDayNumber_valid clock.dayNumber)
      have month : clock.date.month - 1 + 1 = clock.date.month := Nat.sub_add_cancel least
      simp [bucketStart,Shown.midnight,Shown.clock,LocalTime.midnight,month]
  | year =>
      have one : Duration.signed 1 = 1 := rfl
      have inYear : ({ year := clock.date.year,month := 1,day := 1 : Date }).inCalendar = true :=
        known
      simp [bucketStart,Shown.midnight,Shown.clock,LocalTime.midnight,one,inYear]

theorem bucketStart_year {unit : CalendarUnit} (dated : unit ≠ .week) (clock : LocalTime) :
    (bucketStart unit clock).date.year = clock.date.year := by
  cases unit with
  | week => exact absurd rfl dated
  | _ => rfl

-- A week may start before the calendar does; what else a bucket can be starts in the year that the
-- clock shows.
theorem floor_start {duration : Duration} {unit : CalendarUnit} {t : Instant}
    (single : duration.singleUnit = some (unit,1)) (dated : unit ≠ .week)
    (known : t.utcClock.date.inCalendar = true) :
    duration.floor t Zone.utc = .ok (some (bucketStart unit t.utcClock).instant) := by
  have proper := bucketStart_proper unit t.utcClock
  have inside : (bucketStart unit t.utcClock).clock.date.inCalendar = true := by
    rw [proper.clock_date,inCalendar_iff,bucketStart_year dated,← inCalendar_iff]
    exact known
  rw [Duration.floor_some,utc_localTime]
  exact ⟨known,_,floorLocal_start single known,inside,utc_instant inside⟩

end Buckets

section Formats

-- What a format can ask of a clock.
inductive Field where
  | year
  | yearOfEra
  | monthOfYear
  | weekOfYear
  | dayOfYear
  | dayOfMonth
  | dayOfWeek
  | hourOfDay
  | minuteOfHour
  | secondOfMinute
  deriving DecidableEq

def Field.number (clock : LocalTime) : Field → Int
  | .year => clock.date.year
  -- The year before the first is the first of the era before.
  | .yearOfEra => if 0 < clock.date.year then clock.date.year else 1 - clock.date.year
  | .monthOfYear => clock.date.month
  | .weekOfYear => clock.weekOfYear
  | .dayOfYear => clock.dayOfYear
  | .dayOfMonth => clock.date.day
  | .dayOfWeek => clock.dayOfWeek
  | .hourOfDay => clock.hour
  | .minuteOfHour => clock.minute
  | .secondOfMinute => clock.second

inductive Piece where
  | text (c : Char)
  | field (field : Field) (width : Nat)
  deriving DecidableEq

def Piece.chars (clock : LocalTime) : Piece → List Char
  | .text c => [c]
  | .field asked width => signedChars width (asked.number clock)

def printed (clock : LocalTime) (pieces : List Piece) : String :=
  String.ofList (pieces.flatMap (Piece.chars clock))

-- Letters of a Joda format that stand for numbers; a run of them gives the width. Years of two
-- letters and months of three or more are something else.
def jodaField? (letter : Char) (width : Nat) : Option Field :=
  match letter with
  | 'y' => if width = 2 then none else some .year
  | 'Y' => if width = 2 then none else some .yearOfEra
  | 'M' => if width ≤ 2 then some .monthOfYear else none
  | 'w' => some .weekOfYear
  | 'D' => some .dayOfYear
  | 'd' => some .dayOfMonth
  | 'e' => some .dayOfWeek
  | 'H' => some .hourOfDay
  | 'm' => some .minuteOfHour
  | 's' => some .secondOfMinute
  | _ => none

-- Runs of one character each. Text stands between quotes, of which the last may be missing, and two
-- quotes are one that is meant.
def jodaRuns? (quoted : Bool) : List (List Char) → Option (List Piece)
  | [] => some []
  | [] :: runs => jodaRuns? quoted runs
  | (c :: more) :: runs => do
      let width := more.length + 1
      if c == '\'' then
        let later ← jodaRuns? (quoted != (width % 2 == 1)) runs
        some (List.replicate (width / 2) (.text c) ++ later)
      else if quoted || !c.isAlpha then
        let later ← jodaRuns? quoted runs
        some (List.replicate width (.text c) ++ later)
      else
        let field ← jodaField? c width
        let later ← jodaRuns? quoted runs
        some (.field field width :: later)

def jodaPieces? (format : String) : Option (List Piece) :=
  jodaRuns? false (format.toList.splitBy (· == ·))

def dateField? : Char → Option (Field × Nat)
  | 'Y' => some (.year,4)
  | 'm' => some (.monthOfYear,2)
  | 'd' => some (.dayOfMonth,2)
  | 'H' => some (.hourOfDay,2)
  | 'i' => some (.minuteOfHour,2)
  | 'S' => some (.secondOfMinute,2)
  | 's' => some (.secondOfMinute,2)
  | _ => none

def datePieces? : List Char → Option (List Piece)
  | [] => some []
  | '%' :: letter :: rest => do
      let (field,width) ← dateField? letter
      let later ← datePieces? rest
      some (.field field width :: later)
  | c :: rest => do
      let later ← datePieces? rest
      some (.text c :: later)

-- The pieces that show the start of a bucket: what is smaller than the bucket is text.
def fieldPieces (least : Char) (asked : Field) (shows : Bool) : List Piece :=
  if shows then [.field asked 2] else [.text '0',.text least]

def startDate (unit : CalendarUnit) : List Piece :=
  .field .year 4 :: .text '-' :: fieldPieces '1' .monthOfYear (unit != .year)
    ++ .text '-' :: fieldPieces '1' .dayOfMonth (unit != .year && unit != .month)

def startMinute (mark : Char) (unit : CalendarUnit) : List Piece :=
  startDate unit
    ++ .text mark :: fieldPieces '0' .hourOfDay ([.second,.minute,.hour].contains unit)
    ++ .text ':' :: fieldPieces '0' .minuteOfHour ([.second,.minute].contains unit)

def startSecond (mark : Char) (unit : CalendarUnit) : List Piece :=
  startMinute mark unit ++ .text ':' :: fieldPieces '0' .secondOfMinute (unit == .second)

theorem zero_padded : (padLeft 2 0).toList = ['0','0'] := by decide

theorem one_padded : (padLeft 2 1).toList = ['0','1'] := by decide

section
variable {unit : CalendarUnit} (dated : unit ≠ .week) (clock : LocalTime)
include dated

theorem startDate_chars :
    (startDate unit).flatMap (Piece.chars clock) = dateChars (bucketStart unit clock).date := by
  cases unit <;>
    simp_all [startDate,fieldPieces,Piece.chars,Field.number,dateChars,bucketStart,Shown.midnight,
      one_padded]

theorem startMinute_chars (mark : Char) :
    (startMinute mark unit).flatMap (Piece.chars clock)
      = (bucketStart unit clock).minuteChars mark := by
  rw [startMinute,List.append_assoc,List.flatMap_append,startDate_chars dated,Shown.minuteChars]
  cases unit <;>
    simp_all [fieldPieces,Piece.chars,Field.number,bucketStart,Shown.midnight,zero_padded]

theorem startSecond_chars (mark : Char) :
    (startSecond mark unit).flatMap (Piece.chars clock) = (bucketStart unit clock).chars mark := by
  rw [startSecond,List.flatMap_append,startMinute_chars dated,Shown.chars]
  cases unit <;>
    simp_all [fieldPieces,Piece.chars,Field.number,bucketStart,Shown.midnight,zero_padded]

end

end Formats

end Time

open Time

-- How much of the start of a bucket Druid's format shows.
def Druid.bucketPieces : CalendarUnit → List Piece
  | .second => startSecond 'T' .second
  | .minute => startMinute 'T' .minute
  | .hour => startMinute 'T' .hour
  | unit => startDate unit

theorem Druid.bucketFormat_pieces {duration : Duration} {format : String}
    (known : bucketFormat duration = some format) :
    ∃ unit, duration.singleUnit = some (unit,1) ∧ unit ≠ .week ∧
      jodaPieces? format = some (bucketPieces unit ++ [.text 'Z']) := by
  unfold bucketFormat at known
  split at known
  · rename_i unit n single
    split at known
    · cases known
    · rename_i same
      obtain rfl : n = 1 := by simpa using same
      refine ⟨unit,single,?_,?_⟩
      · rintro rfl; cases known
      · cases unit with
        | week => cases known
        | _ => cases known; decide
  · cases known

-- A pattern of a bucket table shows the start of its bucket and then what it is to be followed by.
def Sql.Entry.ShowsStart (after : List Time.Piece) : Entry → Prop
  | .bucket name pattern => ∃ unit ∈ [.second,.minute,.hour,.day,.month,.year],
      (Duration.parse? name).bind Duration.singleUnit = some (unit,1) ∧
      datePieces? pattern.toList = some (startSecond ' ' unit ++ after)
  | _ => True

instance (after : List Time.Piece) : DecidablePred (Sql.Entry.ShowsStart after)
  | .bucket _ _ => inferInstanceAs (Decidable (∃ unit ∈ _, _))
  | .cast _ _ _ => .isTrue trivial
  | .timePart _ _ => .isTrue trivial

theorem Sql.Entry.ShowsStart.parts {after : List Time.Piece} {name pattern : String}
    {duration : Duration} (shows : (Entry.bucket name pattern).ShowsStart after)
    (known : Duration.parse? name = some duration) :
    ∃ unit, duration.singleUnit = some (unit,1) ∧ unit ≠ .week ∧
      datePieces? pattern.toList = some (startSecond ' ' unit ++ after) := by
  obtain ⟨unit,listed,single,parsed⟩ := shows
  rw [known] at single
  refine ⟨unit,single,?_,parsed⟩
  rintro rfl
  exact absurd listed (by decide)

theorem Sql.presto_starts : ∀ entry ∈ Family.presto.entries, entry.ShowsStart [.text 'Z'] := by
  decide

theorem Sql.mySql_starts : ∀ entry ∈ Family.mySql.entries, entry.ShowsStart [] := by
  decide

end OlapQuery
