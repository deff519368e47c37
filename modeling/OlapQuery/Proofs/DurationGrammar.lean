import Mathlib.Data.List.Induction
import OlapQuery.Proofs.NumberTexts
import OlapQuery.Proofs.Shifts

-- The texts that are durations: amounts of calendar units, then amounts of clock units behind a `T`.
-- A unit may be written again, the last amount of it counts. What the reader makes of such a text
-- follows amount by amount, and there is no other text that it takes.

namespace OlapQuery.Time

open Decimal (Digits natOfDigits)

def CalendarUnit.letter : CalendarUnit → Char
  | .year => 'Y'
  | .month => 'M'
  | .week => 'W'
  | .day => 'D'
  | .hour => 'H'
  | .minute => 'M'
  | .second => 'S'

def CalendarUnit.ofClock : CalendarUnit → Bool
  | .hour => true
  | .minute => true
  | .second => true
  | _ => false

structure Amount where
  digits : List Char
  unit : CalendarUnit

namespace Amount

def chars (a : Amount) : List Char :=
  a.digits ++ [a.unit.letter]

def number (a : Amount) : Nat :=
  natOfDigits a.digits

structure Formed (a : Amount) (inTime : Bool) : Prop where
  digits : Digits a.digits
  word : a.number ≤ 4294967295
  unit : a.unit.ofClock = inTime

end Amount

structure DurationText where
  date : List Amount
  -- What stands behind the `T`, if there is one.
  clock : Option (List Amount)

namespace DurationText

def amounts (w : DurationText) : List Amount :=
  w.date ++ w.clock.getD []

def clockChars : Option (List Amount) → List Char
  | none => []
  | some clock => 'T' :: clock.flatMap Amount.chars

def chars (w : DurationText) : List Char :=
  'P' :: (w.date.flatMap Amount.chars ++ clockChars w.clock)

def last (w : DurationText) (unit : CalendarUnit) : Nat :=
  ((w.amounts.reverse.find? (fun a => a.unit == unit)).map Amount.number).getD 0

structure Formed (w : DurationText) : Prop where
  date : ∀ a ∈ w.date, a.Formed false
  clock : ∀ clock ∈ w.clock, ∀ a ∈ clock, a.Formed true

-- The text is of this form, and stands for a duration: not for none at all, and weeks stand alone.
structure Spells (w : DurationText) (text : String) : Prop where
  chars : w.chars = text.toList
  formed : w.Formed
  longer : w.chars ≠ ['P']
  some : ∃ unit, w.last unit ≠ 0
  alone : w.last .week ≠ 0 → ∀ unit, unit ≠ .week → w.last unit = 0

end DurationText

namespace Duration

section Counts

theorem count_setCount (d : Duration) (n : UInt32) (unit other : CalendarUnit) :
    (d.setCount n unit).count other = if unit = other then n else d.count other := by
  cases unit <;> cases other <;> rfl

theorem ext_count {d e : Duration} (same : ∀ unit, d.count unit = e.count unit) : d = e := by
  obtain ⟨years,months,weeks,days,hours,minutes,seconds⟩ := d
  rw [Duration.mk.injEq]
  exact ⟨same .year,same .month,same .week,same .day,same .hour,same .minute,same .second⟩

theorem some_count {d : Duration} : d ≠ {} ↔ ∃ unit, d.count unit ≠ 0 := by
  rw [← not_forall_not,not_iff_not]
  simp only [ne_eq,not_not]
  constructor
  · rintro rfl unit
    cases unit <;> rfl
  · intro none
    refine ext_count fun unit => ?_
    rw [none unit]
    cases unit <;> rfl

theorem weeks_alone {d : Duration} (weeks : d.weeks ≠ 0) :
    d.components.length ≤ 1 ↔ ∀ unit, unit ≠ .week → d.count unit = 0 := by
  have self : (.week,d.weeks) ∈ d.components := part_listed.mpr ⟨rfl,weeks⟩
  constructor
  · intro few unit other
    obtain ⟨only,same⟩ := List.length_eq_one_iff.mp
      (Nat.le_antisymm few (List.length_pos_of_mem self))
    rw [same,List.mem_singleton] at self
    subst self
    rw [(lonePart_count same).2 unit,if_neg other]
  · intro none
    have only : d.components = [(.week,d.weeks)] := by
      have weeks : d.count .week ≠ 0 := weeks
      simp [components,none,weeks]
      rfl
    rw [only]
    exact Nat.le_refl 1

end Counts

section Reading

variable {d e : Duration} {inTime : Bool} {rest : List Char}

def put (d : Duration) (a : Amount) : Duration :=
  d.setCount a.number.toUInt32 a.unit

theorem unit_letter {c : Char} {unit : CalendarUnit} :
    unitOfLetter inTime c = some unit ↔ c = unit.letter ∧ unit.ofClock = inTime := by
  constructor
  · intro known
    unfold unitOfLetter at known
    split at known <;> cases known <;> exact ⟨rfl,rfl⟩
  · rintro ⟨rfl,rfl⟩
    cases unit <;> rfl

theorem readCount_word {digits : List Char} {n : UInt32} : readCount digits = some n ↔
    digits ≠ [] ∧ natOfDigits digits ≤ 4294967295 ∧ n = (natOfDigits digits).toUInt32 := by
  unfold readCount
  dsimp only
  split
  · rename_i refused
    simp only [Bool.or_eq_true,List.isEmpty_iff,decide_eq_true_eq] at refused
    constructor
    · nofun
    · rintro ⟨written,fits,-⟩
      rcases refused with none | large
      · exact absurd none written
      · omega
  · rename_i taken
    simp only [Bool.or_eq_true,List.isEmpty_iff,decide_eq_true_eq,not_or] at taken
    rw [Option.some.injEq]
    constructor
    · rintro rfl
      exact ⟨taken.1,by omega,rfl⟩
    · rintro ⟨-,-,rfl⟩
      rfl

theorem readGroups_digits {digits : List Char} (each : ∀ c ∈ digits, c.isDigit = true)
    (before : List Char) :
    readGroups d inTime before (digits ++ rest) = readGroups d inTime (digits.reverse ++ before) rest := by
  induction digits generalizing before with
  | nil => rfl
  | cons c digits ih =>
      obtain ⟨digit,others⟩ := List.forall_mem_cons.mp each
      have mark : (c == 'T') = false := by
        rw [beq_eq_false_iff_ne]
        rintro rfl
        cases digit
      rw [List.cons_append,readGroups,mark,if_neg (by simp),if_pos digit,ih others,List.reverse_cons,
        List.append_assoc]
      rfl

theorem readGroups_amount {a : Amount} (formed : a.Formed inTime) :
    readGroups d inTime [] (a.chars ++ rest) = readGroups (d.put a) inTime [] rest := by
  have read : readCount a.digits = some a.number.toUInt32 :=
    readCount_word.mpr ⟨formed.digits.1,formed.word,rfl⟩
  have known : unitOfLetter inTime a.unit.letter = some a.unit := unit_letter.mpr ⟨rfl,formed.unit⟩
  have mark : (a.unit.letter == 'T') = false := by cases a.unit <;> rfl
  have letter : ¬ a.unit.letter.isDigit = true := by cases a.unit <;> decide
  rw [Amount.chars,List.append_assoc,readGroups_digits formed.digits.2,List.append_nil,
    List.singleton_append,readGroups,mark,if_neg (by simp),if_neg letter,List.reverse_reverse,read,
    known]
  rfl

theorem readGroups_amounts {amounts : List Amount} (formed : ∀ a ∈ amounts, a.Formed inTime) :
    readGroups d inTime [] (amounts.flatMap Amount.chars ++ rest)
      = readGroups (amounts.foldl put d) inTime [] rest := by
  induction amounts generalizing d with
  | nil => rfl
  | cons a amounts ih =>
      obtain ⟨first,others⟩ := List.forall_mem_cons.mp formed
      rw [List.flatMap_cons,List.append_assoc,readGroups_amount first,ih others,List.foldl_cons]

theorem readGroups_text {w : DurationText} (formed : w.Formed) :
    readGroups d false [] (w.date.flatMap Amount.chars ++ DurationText.clockChars w.clock)
      = some (w.amounts.foldl put d) := by
  obtain ⟨date,clock⟩ := w
  rw [readGroups_amounts formed.date]
  cases clock with
  | none => rw [DurationText.amounts,Option.getD_none,List.append_nil]; rfl
  | some clock =>
      rw [DurationText.clockChars,readGroups,if_pos (by rfl),← List.append_nil (clock.flatMap _),
        readGroups_amounts (formed.clock clock rfl),DurationText.amounts,Option.getD_some,
        List.foldl_append]
      rfl

-- Whatever is read consists of amounts, the digits at hand being the start of the first of them, and
-- there is no `T` behind a `T`.
theorem readGroups_spelled {cs before : List Char} (digits : ∀ c ∈ before, c.isDigit = true)
    (read : readGroups d inTime before cs = some e) :
    ∃ (own : List Amount) (clock : Option (List Amount)),
      before.reverse ++ cs = own.flatMap Amount.chars ++ DurationText.clockChars clock ∧
      (∀ a ∈ own, a.Formed inTime) ∧ (∀ later ∈ clock, ∀ a ∈ later, a.Formed true) ∧
      (inTime = true → clock = none) := by
  induction cs generalizing d inTime before with
  | nil =>
      unfold readGroups at read
      split at read
      · rename_i empty
        rw [List.isEmpty_iff.mp empty]
        exact ⟨[],none,rfl,nofun,nofun,fun _ => rfl⟩
      · cases read
  | cons c cs ih =>
      unfold readGroups at read
      split at read
      · rename_i mark
        simp only [Bool.and_eq_true,beq_iff_eq,Bool.not_eq_true',List.isEmpty_iff] at mark
        obtain ⟨⟨rfl,rfl⟩,rfl⟩ := mark
        obtain ⟨later,further,text,formed,-,only⟩ := ih (List.forall_mem_nil _) read
        rw [only rfl] at text
        refine ⟨[],some later,?_,nofun,?_,nofun⟩
        · simpa [DurationText.clockChars] using text
        · rintro _ ⟨⟩
          exact formed
      · split at read
        · rename_i digit
          obtain ⟨own,clock,text,parts⟩ := ih (List.forall_mem_cons.mpr ⟨digit,digits⟩) read
          refine ⟨own,clock,?_,parts⟩
          rw [← text,List.reverse_cons,List.append_assoc]
          rfl
        · split at read
          · rename_i n unit counted known
            obtain ⟨written,fits,-⟩ := readCount_word.mp counted
            obtain ⟨rfl,side⟩ := unit_letter.mp known
            obtain ⟨own,clock,text,formed,parts⟩ := ih (List.forall_mem_nil _) read
            refine ⟨⟨before.reverse,unit⟩ :: own,clock,?_,?_,parts⟩
            · rw [List.flatMap_cons,List.append_assoc,← text]
              simp [Amount.chars]
            · refine List.forall_mem_cons.mpr ⟨⟨⟨written,?_⟩,fits,side⟩,formed⟩
              simpa using digits
          · cases read

end Reading

section Values

def ofAmounts (amounts : List Amount) : Duration :=
  amounts.foldl put {}

theorem count_ofAmounts (amounts : List Amount) (unit : CalendarUnit) :
    (ofAmounts amounts).count unit
      = (((amounts.reverse.find? (fun a => a.unit == unit)).map Amount.number).getD 0).toUInt32 := by
  induction amounts using List.reverseRecOn with
  | nil => cases unit <;> rfl
  | append_singleton amounts a ih =>
      rw [ofAmounts,List.foldl_concat,put,count_setCount,List.reverse_concat,List.find?_cons]
      by_cases own : a.unit = unit
      · simp [own]
      · have other : (a.unit == unit) = false := beq_eq_false_iff_ne.mpr own
        rw [if_neg own,other]
        exact ih

theorem count_last {w : DurationText} (formed : w.Formed) (unit : CalendarUnit) :
    ((ofAmounts w.amounts).count unit).toNat = w.last unit := by
  have fits : w.last unit < 4294967296 := by
    unfold DurationText.last
    cases found : w.amounts.reverse.find? (fun a => a.unit == unit) with
    | none => decide
    | some a =>
        have listed := List.mem_reverse.mp (List.mem_of_find?_eq_some found)
        refine Nat.lt_succ_of_le ?_
        rcases List.mem_append.mp listed with early | late
        · exact (formed.date a early).word
        · cases clock : w.clock with
          | none => rw [clock] at late; cases late
          | some later =>
              rw [clock] at late
              exact (formed.clock later clock a late).word
  rw [count_ofAmounts]
  exact Nat.mod_eq_of_lt fits

theorem parse_some {text : String} {d : Duration} : parse? text = some d ↔
    ∃ rest, text.toList = 'P' :: rest ∧ readGroups {} false [] rest = some d ∧ d ≠ {} ∧
      (d.weeks ≠ 0 → d.components.length ≤ 1) := by
  unfold parse?
  simp only [Option.bind_eq_bind]
  split
  · rename_i rest spelled
    simp only [spelled,List.cons.injEq,true_and,exists_eq_left',Option.bind_some,
      Option.bind_eq_some_iff]
    constructor
    · rintro ⟨read,run,given⟩
      split at given
      · cases given
      · rename_i some
        split at given
        · cases given
        · rename_i few
          cases given
          refine ⟨run,by simpa using some,fun weeks => ?_⟩
          simpa [weeks] using few
    · rintro ⟨run,some,few⟩
      refine ⟨d,run,?_⟩
      rw [if_neg (by simpa using some),if_neg]
      simpa using few
  · rename_i other
    constructor
    · nofun
    · rintro ⟨rest,spelled,-⟩
      exact absurd spelled (other rest)

theorem parse_ok {text : String} {d : Duration} : parse text = .ok d ↔ parse? text = some d := by
  unfold parse
  cases parse? text <;> simp

theorem parse_chars {w : DurationText} (formed : w.Formed) {text : String}
    (spelled : w.chars = text.toList) (d : Duration) : parse? text = some d ↔
      d = ofAmounts w.amounts ∧ (∃ unit, w.last unit ≠ 0) ∧
        (w.last .week ≠ 0 → ∀ unit, unit ≠ .week → w.last unit = 0) := by
  have counted (unit : CalendarUnit) : (ofAmounts w.amounts).count unit = 0 ↔ w.last unit = 0 := by
    rw [← count_last formed unit,← UInt32.toNat_inj]
    rfl
  have weeks : (ofAmounts w.amounts).weeks ≠ 0 ↔ w.last .week ≠ 0 := not_congr (counted .week)
  rw [parse_some,← spelled,DurationText.chars]
  simp only [List.cons.injEq,true_and,exists_eq_left',readGroups_text formed,Option.some.injEq]
  constructor
  · rintro ⟨rfl,some,few⟩
    refine ⟨rfl,?_,fun present unit other => ?_⟩
    · obtain ⟨unit,present⟩ := some_count.mp some
      exact ⟨unit,fun none => present ((counted unit).mpr none)⟩
    · have present := weeks.mpr present
      exact (counted unit).mp ((weeks_alone present).mp (few present) unit other)
  · rintro ⟨rfl,⟨unit,present⟩,alone⟩
    refine ⟨rfl,some_count.mpr ⟨unit,fun none => present ((counted unit).mp none)⟩,fun present => ?_⟩
    exact (weeks_alone present).mpr fun unit other =>
      (counted unit).mpr (alone (weeks.mp present) unit other)

theorem parse_spelled {text : String} {d : Duration} (parsed : parse? text = some d) :
    ∃ w : DurationText, w.chars = text.toList ∧ w.Formed := by
  obtain ⟨rest,spelled,read,-⟩ := parse_some.mp parsed
  obtain ⟨date,clock,text,own,later,-⟩ := readGroups_spelled (List.forall_mem_nil _) read
  refine ⟨⟨date,clock⟩,?_,own,later⟩
  rw [spelled,DurationText.chars,← text]
  rfl

end Values

-- The durations are the texts of the grammar, each with the last amount of every unit.
theorem parse_grammar (text : String) :
    ((∃ d, parse text = .ok d) ↔ ∃ w : DurationText, w.Spells text) ∧
      ∀ d, parse text = .ok d ↔
        ∃ w : DurationText, w.Spells text ∧ ∀ unit, (d.count unit).toNat = w.last unit := by
  have each (d : Duration) : parse text = .ok d ↔
      ∃ w : DurationText, w.Spells text ∧ ∀ unit, (d.count unit).toNat = w.last unit := by
    rw [parse_ok]
    constructor
    · intro parsed
      obtain ⟨w,spelled,formed⟩ := parse_spelled parsed
      obtain ⟨value,some,alone⟩ := (parse_chars formed spelled d).mp parsed
      refine ⟨w,⟨spelled,formed,?_,some,alone⟩,value ▸ count_last formed⟩
      intro bare
      obtain ⟨rest,same,read,nonzero,-⟩ := parse_some.mp parsed
      rw [← spelled,bare] at same
      cases same
      cases read
      exact nonzero rfl
    · rintro ⟨w,⟨spelled,formed,-,some,alone⟩,counts⟩
      refine (parse_chars formed spelled d).mpr ⟨ext_count fun unit => ?_,some,alone⟩
      rw [← UInt32.toNat_inj,counts unit,count_last formed]
  refine ⟨⟨fun ⟨d,parsed⟩ => ?_,fun ⟨w,spells⟩ => ?_⟩,each⟩
  · obtain ⟨w,spells,-⟩ := (each d).mp parsed
    exact ⟨w,spells⟩
  · exact ⟨ofAmounts w.amounts,(each _).mpr ⟨w,spells,count_last spells.formed⟩⟩

-- The last amount of days counts, and a `T` may stand with nothing behind it.
example : parse "P1D002DT" = .ok { days := 2 } := by decide +kernel

end Duration

end OlapQuery.Time
