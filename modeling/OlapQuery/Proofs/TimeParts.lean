import Mathlib.Algebra.BigOperators.Ring.List
import Mathlib.Tactic.Ring
import OlapQuery.Proofs.PartReader

-- Parts of a time in the dialects. What a part is in itself is counted from the start of the minute,
-- hour, day, week, month or year that the time is in. The templates of the tables are read as
-- formulas over the functions of the engines, and each is the same linear form as the part itself,
-- so that dialects which know a part agree on it.

namespace OlapQuery

namespace Time

def LocalTime.since (unit : CalendarUnit) (clock : LocalTime) : Int :=
  clock.seconds - (bucketStart unit clock).clock.seconds

-- The week of a month is left open.
def Part.value? (clock : LocalTime) : Part → Option Int
  | .secondOfMinute => some (clock.since .minute)
  | .secondOfHour => some (clock.since .hour)
  | .secondOfDay => some (clock.since .day)
  | .secondOfWeek => some (clock.since .week)
  | .secondOfMonth => some (clock.since .month)
  | .secondOfYear => some (clock.since .year)
  | .minuteOfHour => some (clock.since .hour / 60)
  | .minuteOfDay => some (clock.since .day / 60)
  | .minuteOfWeek => some (clock.since .week / 60)
  | .minuteOfMonth => some (clock.since .month / 60)
  | .minuteOfYear => some (clock.since .year / 60)
  | .hourOfDay => some (clock.since .day / 3600)
  | .hourOfWeek => some (clock.since .week / 3600)
  | .hourOfMonth => some (clock.since .month / 3600)
  | .hourOfYear => some (clock.since .year / 3600)
  | .dayOfWeek => some clock.dayOfWeek
  | .dayOfMonth => some clock.date.day
  | .dayOfYear => some clock.dayOfYear
  | .weekOfMonth => none
  | .weekOfYear => some clock.weekOfYear
  | .monthOfYear => some clock.date.month
  | .quarter => some ((clock.date.month + 2) / 3)
  | .year => some clock.date.year

section Since
variable (clock : LocalTime)

theorem secondOfDay_split : (clock.hour * 60 + clock.minute) * 60 + clock.second = clock.secondOfDay ∧
    clock.minute < 60 ∧ clock.second < 60 := by
  unfold LocalTime.hour LocalTime.minute LocalTime.second
  omega

theorem clock_whole : clock.seconds = clock.dayNumber * 86400 + clock.secondOfDay := by
  unfold LocalTime.dayNumber LocalTime.secondOfDay
  omega

theorem since_midnight {unit : CalendarUnit} {start : Date}
    (is : bucketStart unit clock = .midnight start) :
    clock.since unit = (clock.dayNumber - start.dayNumber) * 86400 + clock.secondOfDay := by
  rw [LocalTime.since,is,clock_whole clock]
  simp only [Shown.midnight,Shown.clock,LocalTime.ofParts]
  omega

theorem dayNumber_date : clock.date.dayNumber = clock.dayNumber :=
  dayNumber_ofDayNumber _

theorem since_day : clock.since .day = clock.secondOfDay := by
  rw [since_midnight clock rfl,dayNumber_date]
  omega

theorem since_hour : clock.since .hour = clock.minute * 60 + clock.second := by
  have whole := clock_whole clock
  obtain ⟨split,-⟩ := secondOfDay_split clock
  simp only [LocalTime.since,bucketStart,Shown.clock,LocalTime.ofParts,dayNumber_date]
  omega

theorem since_minute : clock.since .minute = clock.second := by
  have whole := clock_whole clock
  obtain ⟨split,-⟩ := secondOfDay_split clock
  simp only [LocalTime.since,bucketStart,Shown.clock,LocalTime.ofParts,dayNumber_date]
  omega

theorem since_week :
    clock.since .week = daysFromMonday clock.dayNumber * 86400 + clock.secondOfDay := by
  rw [since_midnight clock rfl,dayNumber_ofDayNumber,sub_sub_cancel]

theorem dayNumber_first (d : Date) :
    ({ d with day := 1 } : Date).dayNumber = d.dayNumber - (d.day - 1) := by
  unfold Date.dayNumber
  dsimp only
  split <;> push_cast <;> ring

theorem since_month :
    clock.since .month = (clock.date.day - 1) * 86400 + clock.secondOfDay := by
  rw [since_midnight clock rfl,dayNumber_first,dayNumber_date,sub_sub_cancel]

theorem since_year : clock.since .year = (clock.dayOfYear - 1) * 86400 + clock.secondOfDay := by
  rw [since_midnight clock rfl,LocalTime.dayOfYear,add_sub_cancel_right]
  rfl

end Since

end Time

namespace Sql.Parts

open Time (LocalTime Part daysFromMonday)

-- A number that depends linearly on what the time is.
structure Form where
  constant : Int
  coefficient : Native → Int

namespace Form

-- The functions that the others are computed from.
def bases : List Native :=
  [.second,.minute,.hour,.dayOfMonth,.dayOfYear,.sinceMonday,.sinceSunday,.weekOfYear,.month,
    .quarter,.year]

def value (clock : LocalTime) (f : Form) : Int :=
  f.constant + (bases.map fun x => f.coefficient x * x.number clock).sum

def number (n : Int) : Form :=
  { constant := n,coefficient := fun _ => 0 }

def base (x : Native) : Form :=
  { constant := 0,coefficient := fun y => if y = x then 1 else 0 }

def add (f g : Form) : Form :=
  { constant := f.constant + g.constant
    coefficient := fun x => f.coefficient x + g.coefficient x }

def scale (n : Int) (f : Form) : Form :=
  { constant := n * f.constant,coefficient := fun x => n * f.coefficient x }

-- Hours from days, minutes from hours and seconds from minutes.
def hours (days : Form) : Form :=
  (days.scale 24).add (base .hour)

def minutes (hours : Form) : Form :=
  (hours.scale 60).add (base .minute)

def seconds (minutes : Form) : Form :=
  (minutes.scale 60).add (base .second)

def native : Native → Form
  | .secondOfDay => (number 0).hours.minutes.seconds
  | .fromMonday => (base .sinceMonday).add (number 1)
  | .fromSunday => (base .sinceSunday).add (number 1)
  | x => base x

-- Forms that differ in nothing but a constant.
def parallel (f g : Form) : Bool :=
  bases.all fun x => f.coefficient x == g.coefficient x

def same (f g : Form) : Bool :=
  f.constant == g.constant && f.parallel g

-- The remainder by seven of days since Monday or Sunday, moved by a number of days.
def inWeek? (f : Form) : Option Form :=
  if f.parallel (base .sinceMonday) ∧ 0 ≤ f.constant ∧ f.constant % 7 = 0
      ∨ f.parallel (base .sinceSunday) ∧ 0 ≤ f.constant ∧ f.constant % 7 = 6 then
    some (base .sinceMonday)
  else none

def arithmetic : Arithmetic Form where
  numeral n := number n
  native := native
  compute
    | .add,f,g => some (f.add g)
    | .subtract,f,g => some (f.add (g.scale (-1)))
    | .multiply,f,g => if g.parallel (number 0) then some (f.scale g.constant) else none
    | .remainder,f,g => if g.same (number 7) then f.inWeek? else none

section Values
variable (clock : LocalTime)

theorem value_number (n : Int) : (number n).value clock = n := by
  simp [number,value]

theorem value_base {x : Native} (listed : x ∈ bases) : (base x).value clock = x.number clock := by
  simp only [bases,List.mem_cons,List.not_mem_nil,or_false] at listed
  rcases listed with rfl | rfl | rfl | rfl | rfl | rfl | rfl | rfl | rfl | rfl | rfl <;>
    simp [base,value,bases]

theorem value_add (f g : Form) : (f.add g).value clock = f.value clock + g.value clock := by
  simp only [add,value,add_mul,List.sum_map_add]
  ring

theorem value_scale (n : Int) (f : Form) : (f.scale n).value clock = n * f.value clock := by
  simp only [scale,value,mul_assoc,List.sum_map_mul_left]
  ring

theorem value_native (x : Native) : (native x).value clock = x.number clock := by
  have split := (Time.secondOfDay_split clock).1
  cases x with
  | secondOfDay =>
      have hour := value_base clock (x := .hour) (by decide)
      have minute := value_base clock (x := .minute) (by decide)
      have second := value_base clock (x := .second) (by decide)
      simp only [native,hours,minutes,seconds,value_add,value_scale,value_number,hour,minute,
        second,Native.number,← split]
      push_cast
      ring
  | fromMonday =>
      rw [native,value_add,value_base clock (by decide),value_number]
      rfl
  | fromSunday =>
      rw [native,value_add,value_base clock (by decide),value_number]
      rfl
  | _ => exact value_base clock (by decide)

theorem value_parallel {f g : Form} (along : f.parallel g = true) :
    f.value clock = g.value clock + (f.constant - g.constant) := by
  have terms : bases.map (fun x => f.coefficient x * x.number clock)
      = bases.map (fun x => g.coefficient x * x.number clock) := by
    refine List.map_congr_left fun x listed => ?_
    rw [beq_iff_eq.mp (List.all_eq_true.mp along x listed)]
  rw [value,value,terms]
  ring

theorem value_same {f g : Form} (equal : f.same g = true) : f.value clock = g.value clock := by
  obtain ⟨constant,along⟩ := Bool.and_eq_true_iff.mp equal
  rw [value_parallel clock along,beq_iff_eq.mp constant]
  ring

theorem value_inWeek {f h : Form} (is : f.inWeek? = some h) :
    (f.value clock).tmod 7 = h.value clock := by
  obtain ⟨days,equal⟩ := Option.ite_none_right_eq_some.mp is
  cases equal
  rw [value_base clock (by decide)]
  rcases days with ⟨along,positive,whole⟩ | ⟨along,positive,whole⟩
  all_goals
    rw [value_parallel clock along,value_base clock (by decide)]
    simp only [Native.number,base,daysFromMonday,sub_zero]
    rw [Int.tmod_eq_emod_of_nonneg (by omega)]
    omega

theorem arithmetic_hom : arithmetic.Hom (Arithmetic.at clock) (value clock) where
  numeral n := value_number clock n
  native x := value_native clock x
  compute op f g h ran := by
    cases op with
    | add =>
        cases ran
        exact congrArg some (value_add clock f g).symm
    | subtract =>
        cases ran
        simp only [Arithmetic.at,value_add,value_scale]
        congr 1
        ring
    | multiply =>
        obtain ⟨along,made⟩ := Option.ite_none_right_eq_some.mp ran
        cases made
        simp only [Arithmetic.at,value_scale,value_parallel clock along,value_number]
        congr 1
        simp only [number]
        ring
    | remainder =>
        obtain ⟨seven,made⟩ := Option.ite_none_right_eq_some.mp ran
        rw [← value_inWeek clock made,Arithmetic.at]
        simp [value_same clock seven,value_number]

end Values

end Form

open Form in
-- The form of a part in itself.
def form? : Part → Option Form
  | .secondOfMinute => some (base .second)
  | .secondOfHour => some (base .minute).seconds
  | .secondOfDay => some (number 0).hours.minutes.seconds
  | .secondOfWeek => some (base .sinceMonday).hours.minutes.seconds
  | .secondOfMonth => some ((base .dayOfMonth).add (number (-1))).hours.minutes.seconds
  | .secondOfYear => some ((base .dayOfYear).add (number (-1))).hours.minutes.seconds
  | .minuteOfHour => some (base .minute)
  | .minuteOfDay => some (number 0).hours.minutes
  | .minuteOfWeek => some (base .sinceMonday).hours.minutes
  | .minuteOfMonth => some ((base .dayOfMonth).add (number (-1))).hours.minutes
  | .minuteOfYear => some ((base .dayOfYear).add (number (-1))).hours.minutes
  | .hourOfDay => some (base .hour)
  | .hourOfWeek => some (base .sinceMonday).hours
  | .hourOfMonth => some ((base .dayOfMonth).add (number (-1))).hours
  | .hourOfYear => some ((base .dayOfYear).add (number (-1))).hours
  | .dayOfWeek => some ((base .sinceMonday).add (number 1))
  | .dayOfMonth => some (base .dayOfMonth)
  | .dayOfYear => some (base .dayOfYear)
  | .weekOfMonth => none
  | .weekOfYear => some (base .weekOfYear)
  | .monthOfYear => some (base .month)
  | .quarter => some (base .quarter)
  | .year => some (base .year)

theorem form_value {part : Part} {f : Form} (is : form? part = some f) (clock : LocalTime) :
    part.value? clock = some (f.value clock) := by
  have values := fun x listed => Form.value_base clock (x := x) listed
  obtain ⟨split,minute,second⟩ := Time.secondOfDay_split clock
  cases part <;> cases is <;>
    simp only [Part.value?,Form.hours,Form.minutes,Form.seconds,Form.value_add,Form.value_scale,
      Form.value_number,values .second (by decide),values .minute (by decide),
      values .hour (by decide),values .dayOfMonth (by decide),values .dayOfYear (by decide),
      values .sinceMonday (by decide),values .weekOfYear (by decide),values .month (by decide),
      values .quarter (by decide),values .year (by decide),Native.number,Time.since_minute,
      Time.since_hour,Time.since_day,Time.since_week,Time.since_month,Time.since_year,
      LocalTime.dayOfWeek,Option.some.injEq] <;>
    omega

def computes (family : Family) (part : Part) (frame : Frame) : Bool :=
  bare frame &&
    match (term? frame).bind (·.value? Form.arithmetic family),form? part with
    | some f,some g => f.same g
    | _,_ => false

end Sql.Parts

open Sql
open Time (LocalTime Part Zone Instant)

inductive Sql.Entry.Computes (family : Family) : Entry → Prop where
  | cast : Entry.Computes family (.cast target source text)
  | bucket : Entry.Computes family (.bucket duration spec)
  | timePart (spelled : Spelled text cs) (same : Parts.computes family part (slots cs) = true) :
      Entry.Computes family (.timePart part text)

theorem entries_compute (family : Family) : ∀ entry ∈ family.entries, entry.Computes family := by
  cases family
  all_goals
    simp only [Family.entries,prestoEntries,bigQueryEntries,postgresEntries,mySqlEntries,
      bigQueryDayOfWeek,bigQueryHourOfWeek,bigQueryMinuteOfWeek,bigQuerySecondOfWeek,
      postgresField,postgresDayOfWeek,List.forall_mem_cons,List.not_mem_nil,false_implies,
      implies_true,and_true,-String.reduceAppend]
    repeat' apply And.intro
    all_goals
      first
      | exact .cast
      | exact .bucket
      | constructor
        · repeat' first | with_reducible apply Spelled.append | exact .constant
        · decide +kernel

namespace Sql

-- What the engine gives for a part of the time in a column.
def Dialect.partNumber? (d : Dialect) (column : String) (part : Part) (zone : Zone)
    (clock : LocalTime) : Option Int := do
  let text ← (d.timePart (d.quoteIdentifier column) part zone).toOption
  let term ← d.partTerm? column text
  term.value? (.at clock) d.family

theorem Parts.computes_number {family : Family} {part : Part} {frame : Frame}
    (same : computes family part frame = true) (clock : LocalTime) :
    bare frame = true ∧ ∃ n, part.value? clock = some n ∧
      (term? frame).bind (·.value? (.at clock) family) = some n := by
  obtain ⟨plain,equal⟩ := Bool.and_eq_true_iff.mp same
  split at equal
  · rename_i f g computed known
    obtain ⟨t,read,given⟩ := Option.bind_eq_some_iff.mp computed
    refine ⟨plain,g.value clock,form_value known clock,?_⟩
    rw [read,Option.bind_some,value_hom (Form.arithmetic_hom clock) given,
      Form.value_same clock equal]
  · cases equal

theorem partNumber_listed {family : Family} {part : Part} {zone : Zone}
    (listed : part ∈ family.dialect.tables.timeParts) (utc : zone.isUtc = true) (column : String)
    (clock : LocalTime) :
    ∃ n, part.value? clock = some n ∧
      family.dialect.partNumber? column part zone clock = some n := by
  obtain ⟨template,found⟩ := Option.isSome_iff_exists.mp (List.mem_filter.mp listed).2
  obtain ⟨entry,first,rfl⟩ := Option.map_eq_some_iff.mp found
  obtain ⟨text,written,parsed⟩ := tables_parts (List.mem_of_find?_eq_some first)
  have named : entry.part = part := beq_iff_eq.mp (List.find?_some first :)
  cases entries_compute family _ written with
  | @timePart _ cs _ spelled same =>
      obtain ⟨plain,n,canonical,given⟩ := Parts.computes_number same clock
      have filled := parse_render parsed (family.dialect.quoteIdentifier column)
      rw [spelled.toList] at filled
      refine ⟨n,named ▸ canonical,?_⟩
      rw [Dialect.partNumber?,Dialect.timePart,found,Dialect.utcToWalltime,if_pos utc]
      simp only [Except.toOption,Option.bind_eq_bind,Option.bind_some,
        Parts.partTerm_fill column filled plain]
      exact given

-- Dialects that know a part agree on it.
theorem timeParts_agree {part : Part} {zone : Zone} (utc : zone.isUtc = true) (column : String)
    (seconds : Int) :
    (∀ family : Family, part ∈ family.dialect.tables.timeParts →
      ∃ n, part.value? (Instant.utcClock ⟨seconds,0⟩) = some n ∧
        family.dialect.partNumber? column part zone (Instant.utcClock ⟨seconds,0⟩) = some n) ∧
    ∀ one other : Family, part ∈ one.dialect.tables.timeParts →
      part ∈ other.dialect.tables.timeParts →
        one.dialect.partNumber? column part zone (Instant.utcClock ⟨seconds,0⟩)
          = other.dialect.partNumber? column part zone (Instant.utcClock ⟨seconds,0⟩) := by
  refine ⟨fun family listed => partNumber_listed listed utc column _,
    fun one other first second => ?_⟩
  obtain ⟨n,canonical,given⟩ := partNumber_listed first utc column _
  obtain ⟨m,same,too⟩ := partNumber_listed second utc column _
  rw [given,too,← canonical,← same]

namespace Sunday

-- 2015-03-15T05:22:17Z, a Sunday: six days after Monday for one engine, the first day of the week for
-- another.
def morning : Int := 1426396937

theorem seventh_day : Zone.utc.isUtc = true ∧
    Part.dayOfWeek ∈ Family.mySql.dialect.tables.timeParts ∧
    Family.mySql.dialect.partNumber? "sold" .dayOfWeek .utc (Instant.utcClock ⟨morning,0⟩)
      = some 7 ∧
    ∀ family : Family, Part.dayOfWeek ∈ family.dialect.tables.timeParts →
      family.dialect.partNumber? "sold" .dayOfWeek .utc (Instant.utcClock ⟨morning,0⟩)
        = some 7 := by
  have utc : Zone.utc.isUtc = true := by decide
  have listed : Part.dayOfWeek ∈ Family.mySql.dialect.tables.timeParts := by decide +kernel
  have seven : Part.value? (Instant.utcClock ⟨morning,0⟩) .dayOfWeek = some 7 := by decide
  obtain ⟨each,alike⟩ := @timeParts_agree .dayOfWeek .utc utc "sold" morning
  obtain ⟨n,canonical,given⟩ := each .mySql listed
  have known := given.trans (canonical.symm.trans seven)
  exact ⟨utc,listed,known,fun family too => (alike family .mySql too listed).trans known⟩

end Sunday

end Sql

end OlapQuery
