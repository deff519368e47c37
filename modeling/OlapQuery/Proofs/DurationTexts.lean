import OlapQuery.Proofs.Checked
import OlapQuery.Proofs.DialectTables
import OlapQuery.Proofs.DurationGrammar
import OlapQuery.Proofs.WholeNumbers

-- Durations as text, and as the keys of bucket tables. The text of a duration is read as the duration
-- again, but it is printed only if the sum of the clock is a word: otherwise printing is a panic, and
-- so are looking the duration up and taking an entry for it.

namespace OlapQuery.Time

open Decimal (digits_nat natOfDigits_nat)

namespace Duration

section Printing

variable (d : Duration)

def amount (unit : CalendarUnit) : Amount :=
  { digits := (toString (d.count unit).toNat).toList,unit }

def amountsOf (units : List CalendarUnit) : List Amount :=
  (units.filter (fun unit => d.count unit != 0)).map d.amount

def written : DurationText :=
  if d.weeks ≠ 0 then { date := [d.amount .week],clock := none }
  else {
    date := d.amountsOf [.year,.month,.day]
    clock := if d.hours ≠ 0 ∨ d.minutes ≠ 0 ∨ d.seconds ≠ 0 then
        some (d.amountsOf [.hour,.minute,.second])
      else none }

theorem amountsOf_append (first second : List CalendarUnit) :
    d.amountsOf (first ++ second) = d.amountsOf first ++ d.amountsOf second := by
  simp [amountsOf]

theorem amount_number (unit : CalendarUnit) : (d.amount unit).number = (d.count unit).toNat :=
  natOfDigits_nat _

theorem amount_formed (unit : CalendarUnit) : (d.amount unit).Formed unit.ofClock := by
  refine ⟨digits_nat _,?_,rfl⟩
  rw [amount_number]
  exact Nat.le_of_lt_succ (d.count unit).toNat_lt

theorem amountsOf_formed {units : List CalendarUnit} {inTime : Bool}
    (side : ∀ unit ∈ units, unit.ofClock = inTime) : ∀ a ∈ d.amountsOf units, a.Formed inTime := by
  intro a listed
  obtain ⟨unit,known,rfl⟩ := List.mem_map.mp listed
  rw [← side unit (List.mem_of_mem_filter known)]
  exact d.amount_formed unit

theorem written_formed : d.written.Formed := by
  unfold written
  split
  · exact ⟨List.forall_mem_singleton.mpr (d.amount_formed .week),nofun⟩
  · refine ⟨d.amountsOf_formed (by decide),?_⟩
    intro clock found
    split at found
    · cases found
      exact d.amountsOf_formed (by decide)
    · cases found

theorem partText_chars (unit : CalendarUnit) {letter : String}
    (spelled : letter.toList = [unit.letter]) :
    (partText (d.count unit) letter).toList = (d.amountsOf [unit]).flatMap Amount.chars := by
  unfold partText
  by_cases none : d.count unit = 0
  · simp [amountsOf,none]
  · simp [amountsOf,none,amount,Amount.chars,spelled]

theorem written_chars : d.written.chars = d.text.toList := by
  have years : (partText d.years "Y").toList = _ := d.partText_chars .year rfl
  have months : (partText d.months "M").toList = _ := d.partText_chars .month rfl
  have days : (partText d.days "D").toList = _ := d.partText_chars .day rfl
  have hours : (partText d.hours "H").toList = _ := d.partText_chars .hour rfl
  have minutes : (partText d.minutes "M").toList = _ := d.partText_chars .minute rfl
  have seconds : (partText d.seconds "S").toList = _ := d.partText_chars .second rfl
  have apart (a b c : CalendarUnit) : d.amountsOf [a,b,c]
      = d.amountsOf [a] ++ d.amountsOf [b] ++ d.amountsOf [c] := by
    rw [← amountsOf_append,← amountsOf_append]
    rfl
  unfold written text
  by_cases weeks : d.weeks = 0
  · have shown : (d.hours != 0 || d.minutes != 0 || d.seconds != 0) = true ↔
        d.hours ≠ 0 ∨ d.minutes ≠ 0 ∨ d.seconds ≠ 0 := by
      simp [or_assoc]
    simp only [weeks]
    by_cases clock : d.hours ≠ 0 ∨ d.minutes ≠ 0 ∨ d.seconds ≠ 0
    · rw [if_pos (shown.mpr clock)]
      simp [DurationText.chars,DurationText.clockChars,clock,apart,years,months,days,hours,minutes,
        seconds]
    · rw [if_neg fun some => clock (shown.mp some)]
      simp [DurationText.chars,DurationText.clockChars,clock,apart,years,months,days]
  · have week : d.count .week = d.weeks := rfl
    simp [DurationText.chars,DurationText.clockChars,weeks,amount,Amount.chars,week,
      CalendarUnit.letter]

theorem last_amountsOf {w : DurationText} {units : List CalendarUnit}
    (amounts : w.amounts = d.amountsOf units) (unit : CalendarUnit) :
    w.last unit = if unit ∈ units then (d.count unit).toNat else 0 := by
  unfold DurationText.last
  rw [amounts,amountsOf,← List.map_reverse,List.find?_map,Option.map_map]
  cases found : (units.filter fun unit => d.count unit != 0).reverse.find?
      ((fun a => a.unit == unit) ∘ d.amount) with
  | none =>
      by_cases listed : unit ∈ units
      · have absent := List.find?_eq_none.mp found unit
        simp only [List.mem_reverse,List.mem_filter,listed,true_and,Function.comp_apply,amount,
          beq_self_eq_true,not_true,imp_false,Bool.not_eq_true,bne_eq_false_iff_eq] at absent
        simp [absent]
      · rw [if_neg listed]
        rfl
  | some other =>
      have own := List.find?_some found
      obtain rfl : other = unit := beq_iff_eq.mp own
      have listed := List.mem_reverse.mp (List.mem_of_find?_eq_some found)
      rw [if_pos (List.mem_of_mem_filter listed)]
      exact d.amount_number other

def printed : List CalendarUnit :=
  if d.weeks ≠ 0 then [.week]
  else if d.hours ≠ 0 ∨ d.minutes ≠ 0 ∨ d.seconds ≠ 0 then [.year,.month,.day] ++ [.hour,.minute,.second]
  else [.year,.month,.day]

theorem written_amounts : d.written.amounts = d.amountsOf d.printed := by
  unfold written printed
  split
  · rename_i weeks
    have week : d.count .week ≠ 0 := weeks
    simp [DurationText.amounts,amountsOf,week]
  · split
    · exact (d.amountsOf_append _ _).symm
    · exact List.append_nil _

theorem last_written (alone : d.weeks ≠ 0 → ∀ unit, unit ≠ .week → d.count unit = 0)
    (unit : CalendarUnit) : d.written.last unit = (d.count unit).toNat := by
  rw [last_amountsOf d d.written_amounts]
  unfold printed
  split
  · rename_i weeks
    by_cases own : unit = .week
    · rw [own]
      rfl
    · simp [own,alone weeks unit own]
  · rename_i weeks
    have week : d.count .week = 0 := of_not_not weeks
    split
    · cases unit <;> simp [week]
    · rename_i clock
      have still : d.hours = 0 ∧ d.minutes = 0 ∧ d.seconds = 0 := by simpa using clock
      obtain ⟨hours,minutes,seconds⟩ := still
      have hour : d.count .hour = 0 := hours
      have minute : d.count .minute = 0 := minutes
      have second : d.count .second = 0 := seconds
      cases unit <;> simp [week,hour,minute,second]

end Printing

section Reading

variable {text other : String} {d e : Duration}

theorem parsed_alone (parsed : parse? text = some d) :
    d.weeks ≠ 0 → ∀ unit, unit ≠ .week → d.count unit = 0 := by
  intro weeks
  obtain ⟨-,-,-,-,few⟩ := parse_some.mp parsed
  exact (weeks_alone weeks).mp (few weeks)

theorem read_back (parsed : parse? text = some d) : parse? d.text = some d := by
  have alone := parsed_alone parsed
  have last := d.last_written alone
  obtain ⟨-,-,-,present,-⟩ := parse_some.mp parsed
  have value : ofAmounts d.written.amounts = d := by
    refine ext_count fun unit => ?_
    rw [← UInt32.toNat_inj,count_last d.written_formed,last]
  have none (unit : CalendarUnit) : d.written.last unit = 0 ↔ d.count unit = 0 := by
    rw [last,← UInt32.toNat_inj]
    rfl
  rw [parse_chars d.written_formed d.written_chars,value]
  simp only [ne_eq,none]
  exact ⟨trivial,some_count.mp present,alone⟩

theorem text_unique (first : parse? text = some d) (second : parse? other = some e)
    (same : e.text = d.text) : e = d := by
  have read := read_back second
  rw [same,read_back first] at read
  exact (Option.some.inj read).symm

theorem parsed_display (parsed : parse? text = some d) {printed : String} :
    d.display = .ok printed ↔ d.ClockFits ∧ printed = d.text := by
  rw [display_ok]
  refine and_congr_left fun _ => or_iff_right_of_imp fun weeks => ?_
  have alone := parsed_alone parsed weeks
  have hours : d.hours = 0 := alone .hour nofun
  have minutes : d.minutes = 0 := alone .minute nofun
  have seconds : d.seconds = 0 := alone .second nofun
  rw [ClockFits,hours,minutes,seconds]
  decide

end Reading

end Duration

end OlapQuery.Time

namespace OlapQuery.Sql

open Time (Duration)

-- What the bucket entries for such durations say, in their order.
def bucketSpecs (entries : List Entry) (asked : Duration → Bool) : List String :=
  entries.filterMap fun
    | .bucket name spec => (Duration.parse? name).bind fun d => if asked d then some spec else none
    | _ => none

namespace Tables

variable {entries : List Entry} {t u : Tables}

theorem add_buckets {entry : Entry} (added : t.add entry = .ok u) (text : String) :
    u.buckets.get? text
      = (bucketSpecs [entry] (fun e => e.text == text)).getLast?.or (t.buckets.get? text) := by
  rcases add_cases added with ⟨_,_,_,_,rfl,-,rfl⟩ | ⟨name,spec,d,rfl,read,rfl⟩ | ⟨_,_,_,rfl,-,rfl⟩
  · rfl
  · rw [Table.get_insert]
    by_cases same : d.text = text
    · simp [bucketSpecs,read,same]
    · simp [bucketSpecs,read,same,Ne.symm same]
  · rfl

theorem fold_buckets (ran : entries.foldlM add t = .ok u) (text : String) :
    u.buckets.get? text
      = (bucketSpecs entries (fun e => e.text == text)).getLast?.or (t.buckets.get? text) := by
  induction entries generalizing t with
  | nil => cases ran; rfl
  | cons entry rest ih =>
      cases first : t.add entry with
      | error fault => simp [List.foldlM_cons,first,bind,Except.bind] at ran
      | ok next =>
          rw [List.foldlM_cons,first] at ran
          rw [ih ran,add_buckets first,← Option.or_assoc,← List.getLast?_append,bucketSpecs,
            bucketSpecs,← List.filterMap_append]
          rfl

theorem bucketSpecs_congr {asked other : Duration → Bool}
    (same : ∀ name spec d, .bucket name spec ∈ entries → Duration.parse name = .ok d →
      asked d = other d) : bucketSpecs entries asked = bucketSpecs entries other := by
  refine List.filterMap_congr fun entry listed => ?_
  cases entry with
  | cast target source template => rfl
  | timePart part template => rfl
  | bucket name spec =>
      cases read : Duration.parse? name with
      | none => simp [read]
      | some d => simp [read,same name spec d listed (Duration.parse_ok.mpr read)]

theorem keys_ok {texts : List String} (keys : keysOf entries = .ok texts) {name spec : String}
    {d : Duration} (listed : .bucket name spec ∈ entries) (read : Duration.parse? name = some d) :
    d.ClockFits := by
  have named : d ∈ entries.filterMap fun
      | .bucket text _ => Duration.parse? text
      | _ => none := List.mem_filterMap.mpr ⟨_,listed,read⟩
  obtain ⟨printed,prints⟩ := mapM_result keys d named
  exact ((Duration.parsed_display read).mp prints).1

-- A duration that was read is printed, as a text that is read as it, just when its clock fits. No two
-- durations have a text in common. A table answers with the last entry made for the duration itself, and
-- neither looks up nor takes one with a clock that does not fit.
theorem durations_by_text {text : String} {d : Duration} (parsed : Duration.parse text = .ok d) :
    ((∃ printed, d.display = .ok printed ∧ Duration.parse printed = .ok d) ↔ d.ClockFits) ∧
      (¬ d.ClockFits → d.display = .error .panic) ∧
      (∀ other e printed, Duration.parse other = .ok e → d.display = .ok printed →
        e.display = .ok printed → e = d) ∧
      ∀ entries,
        (∀ t, build entries = .ok t →
          t.bucket? d = if d.ClockFits then .ok (bucketSpecs entries (· == d)).getLast?
            else .error .panic) ∧
        (¬ d.ClockFits → ∀ spec, .bucket text spec ∈ entries → build entries = .error .panicked) := by
  rw [Duration.parse_ok] at parsed
  have breaks (large : ¬ d.ClockFits) : d.display = .error .panic := by
    cases printed : d.display with
    | error => rfl
    | ok text => exact absurd ((Duration.parsed_display parsed).mp printed).1 large
  refine ⟨⟨?_,?_⟩,breaks,?_,fun entries => ⟨fun t built => ?_,fun large spec listed => ?_⟩⟩
  · rintro ⟨printed,prints,-⟩
    exact ((Duration.parsed_display parsed).mp prints).1
  · intro fits
    exact ⟨d.text,(Duration.parsed_display parsed).mpr ⟨fits,rfl⟩,
      Duration.parse_ok.mpr (Duration.read_back parsed)⟩
  · intro other e printed read first second
    have left := ((Duration.parsed_display parsed).mp first).2
    have right := ((Duration.parsed_display (Duration.parse_ok.mp read)).mp second).2
    exact Duration.text_unique parsed (Duration.parse_ok.mp read) (right.symm.trans left)
  · split
    · rename_i fits
      refine bucket_ok.mpr ⟨.inr fits,?_⟩
      rw [fold_buckets (build_fold built)]
      refine Eq.symm ((Option.or_none).trans (congrArg List.getLast? (bucketSpecs_congr ?_)))
      intro name spec e listed read
      rw [Bool.eq_iff_iff,beq_iff_eq,beq_iff_eq]
      exact ⟨Duration.text_unique parsed (Duration.parse_ok.mp read),fun same => same ▸ rfl⟩
    · rename_i large
      rw [bucket?,breaks large]
      rfl
  · unfold build
    cases keys : keysOf entries with
    | error => rfl
    | ok texts => exact absurd (keys_ok keys listed parsed) large

-- 2^32 - 1 hours: with any minute more the clock would not fit.
def longestClock : Duration := { hours := 4294967295 }

theorem longest_clock_kept : Duration.parse "PT4294967295H" = .ok longestClock ∧
    ∃ printed, longestClock.display = .ok printed ∧ Duration.parse printed = .ok longestClock := by
  have read : Duration.parse "PT4294967295H" = .ok longestClock := by decide +kernel
  exact ⟨read,(durations_by_text read).1.mpr (by decide)⟩

-- With one minute more it is read, but neither printed nor looked up in a table or taken into one.
theorem clock_unprinted : ∃ d : Duration, Duration.parse "PT4294967295H1M" = .ok d ∧
    d.display = .error .panic ∧ (∀ t : Tables, t.bucket? d = .error .panic) ∧
    build [.bucket "PT4294967295H1M" "hour"] = .error .panicked := by
  have breaks : ({ hours := 4294967295,minutes := 1 } : Duration).display = .error .panic := by
    decide +kernel
  refine ⟨{ hours := 4294967295,minutes := 1 },by decide +kernel,breaks,fun t => ?_,?_⟩
  · rw [bucket?,breaks]
    rfl
  · have read : Duration.parse? "PT4294967295H1M" = some { hours := 4294967295,minutes := 1 } := by
      decide +kernel
    simp [build,keysOf,read,breaks,Checked.raise,Except.mapError,bind,Except.bind]

end Tables

end OlapQuery.Sql
