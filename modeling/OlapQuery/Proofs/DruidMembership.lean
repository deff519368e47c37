import OlapQuery.Proofs.InPlaceTimes
import OlapQuery.Proofs.KeyFilters
import OlapQuery.Proofs.NegatedTimes
import OlapQuery.Proofs.NumberIdentity
import OlapQuery.Proofs.Reading

-- Membership in a set as a filter on a column that is not the time. The filter compares the
-- column with the text of each element. Values of the column differ if and only if their texts
-- do, so this is right for a set of such values. The text of a range is that of none of its
-- members.

namespace OlapQuery

open Time (Instant)

section Times

variable {t u : Instant}

theorem millisText_chars (t : Instant) : t.millisText.toList
    = t.clockChars 'T' ('.' :: (Time.padLeft 3 (t.utcClock.shownSecond.2 / 1000000)).toList) := by
  simp [Instant.millisText,Time.LocalTime.textWithFraction,Time.dateText,Instant.clockChars]

theorem cut_whole (whole : 1000000 ∣ t.nanos) : t.cut = t := by
  rw [Instant.cut,Nat.div_mul_cancel whole]

theorem millisText_inj (proper : t.Proper) (whole : 1000000 ∣ t.nanos) (known : u.Proper)
    (even : 1000000 ∣ u.nanos) (same : t.millisText = u.millisText) : t = u := by
  have read {v : Instant} (proper : v.Proper) (whole : 1000000 ∣ v.nanos) :
      Instant.parseLoose? v.millisText = some v := by
    rw [← String.ofList_toList (s := v.millisText),millisText_chars,
      Instant.parseLoose_millis proper rfl,cut_whole whole]
  have again := read proper whole
  rw [same,read known even] at again
  exact (Option.some.inj again).symm

end Times

def NumberRange.contains (r : NumberRange) (x : Float) : Bool :=
  r.start.all (fun s => decide (s ≤ x)) && r.finish.all (fun e => decide (x < e))

namespace Value

-- What the rows of a column have, by its type. Times are kept to the millisecond.
inductive Stored : DataType → Value → Prop where
  | null : Stored kind .null
  | string : Stored .string (.string text)
  | member : Stored .stringSet (.string text)
  | boolean : Stored .boolean (.boolean b)
  | number (number : x.isNaN = false) : Stored .number (.number x)
  | time (proper : t.Proper) (whole : 1000000 ∣ t.nanos) : Stored .time (.time t)

def covers : Value → Value → Bool
  | .timeRange r,.time t => r.contains t
  | .numberRange r,.number x => r.contains x
  | _,_ => false

-- What an element of a set stands for: itself or, as a range, what lies in it.
def asks (v w : Value) : Bool :=
  v.same w || v.covers w

variable {kind : DataType} {u w : Value}

theorem same_texts (stored : Stored kind u) (other : Stored kind w) :
    u.same w = true ↔ u.nativeText = w.nativeText := by
  cases stored with
  | null => cases other <;> simp [same,nativeText]
  | string => cases other <;> simp [same,nativeText]
  | member => cases other <;> simp [same,nativeText]
  | boolean =>
      rename_i b
      cases other with
      | null => simp [same,nativeText]
      | boolean =>
          rename_i c
          cases b <;> cases c <;> decide
  | number number =>
      cases other with
      | null => simp [same,nativeText]
      | number numeric =>
          rw [same,← Decimal.numberText_same number numeric]
          exact (Option.some_inj).symm
  | time proper whole =>
      cases other with
      | null => simp [same,nativeText]
      | time known even =>
          rw [same,beq_iff_eq]
          refine ⟨fun equal => equal ▸ rfl,fun texts => ?_⟩
          exact millisText_inj proper whole known even (Option.some.inj texts)

theorem same_stored (alike : u.same w = true) (stored : Stored kind w) : Stored kind u := by
  cases stored with
  | null => cases u <;> first | exact .null | cases alike
  | string => cases u <;> first | exact .string | cases alike
  | member => cases u <;> first | exact .member | cases alike
  | boolean => cases u <;> first | exact .boolean | cases alike
  | number => cases u <;> first | exact .number (Decimal.number_of_beq alike) | cases alike
  | time proper whole =>
      cases u with
      | time t =>
          obtain rfl := beq_iff_eq.mp alike
          exact .time proper whole
      | _ => cases alike

theorem listed_texts {elements : List Value} (listed : ∀ v ∈ elements, Stored kind v)
    (stored : Stored kind w) :
    (∃ v ∈ elements, v.nativeText = w.nativeText) ↔ ∃ v ∈ elements, v.same w = true := by
  constructor
  · rintro ⟨v,member,text⟩
    exact ⟨v,member,(same_texts (listed v member) stored).mpr text⟩
  · rintro ⟨v,member,alike⟩
    exact ⟨v,member,(same_texts (listed v member) stored).mp alike⟩

-- In any set the scalars of the column are compared rightly, and the rest as their texts happen
-- to be.
theorem asked_texts {elements : List Value} (stored : Stored kind w) :
    ((∃ v ∈ elements, v.nativeText = w.nativeText) ↔ ∃ v ∈ elements, v.asks w = true) ↔
      ∀ v ∈ elements, (v.covers w = true → ∃ u ∈ elements, u.nativeText = w.nativeText) ∧
        (¬ Stored kind v → v.nativeText = w.nativeText → ∃ u ∈ elements, u.asks w = true) := by
  have asked {v : Value} : v.asks w = true ↔ v.same w = true ∨ v.covers w = true := Bool.or_eq_true_iff
  constructor
  · intro exactly v member
    exact ⟨fun covered => exactly.mpr ⟨v,member,asked.mpr (.inr covered)⟩,
      fun _ text => exactly.mp ⟨v,member,text⟩⟩
  · intro each
    constructor
    · rintro ⟨v,member,text⟩
      by_cases scalar : Stored kind v
      · exact ⟨v,member,asked.mpr (.inl ((same_texts scalar stored).mpr text))⟩
      · exact (each v member).2 scalar text
    · rintro ⟨v,member,asks⟩
      rcases asked.mp asks with alike | covered
      · exact ⟨v,member,(same_texts (same_stored alike stored) stored).mp alike⟩
      · exact (each v member).1 covered

end Value

namespace Druid

-- What the engine does with the text of a row: the functions of a dimension and the scripts of
-- filters, of which one accepts nothing.
structure Engine where
  run : ExtractionFn → Option String → Option String
  accepts : String → Option String → Bool
  never : ∀ text, accepts "function(d)\x7breturn false;\x7d" text = false

instance : Inhabited Engine :=
  ⟨{ run := fun _ text => text,accepts := fun _ _ => false,never := fun _ => rfl }⟩

-- The rows that a filter on columns keeps, by the texts in the columns.
inductive Filter.Accepts (engine : Engine) (cells : String → Option String) : Filter → Prop where
  | dimension (kept : f.Keeps engine.run cells) : Accepts engine cells f
  | javascript (accepted : engine.accepts function (cells dimension) = true) :
      Accepts engine cells (.javascript dimension function)
  | or (field : Filter) (listed : field ∈ fields) (accepted : Accepts engine cells field) :
      Accepts engine cells (.or fields)

section Texts

variable {engine : Engine} {cells : String → Option String} {dimension : String}

theorem accepts_selector {text : Option String} :
    (Filter.selector dimension text).Accepts engine cells ↔ text = cells dimension := by
  constructor
  · intro accepted
    cases accepted with
    | dimension kept =>
        cases kept with
        | selector same => exact same.symm
  · intro same
    exact .dimension (.selector same.symm)

theorem accepts_or {fields : List Filter} :
    (Filter.or fields).Accepts engine cells ↔ ∃ field ∈ fields, field.Accepts engine cells := by
  constructor
  · intro accepted
    cases accepted with
    | dimension kept => cases kept
    | or field listed accepted => exact ⟨field,listed,accepted⟩
  · rintro ⟨field,listed,accepted⟩
    exact .or field listed accepted

theorem never_accepts : ¬ Filter.never.Accepts engine cells := by
  intro accepted
  cases accepted with
  | dimension kept => cases kept
  | javascript accepted =>
      rw [engine.never] at accepted
      cases accepted

theorem accepts_anyOf (fields : List Filter) :
    (Filter.anyOf fields).Accepts engine cells ↔ ∃ field ∈ fields, field.Accepts engine cells := by
  unfold Filter.anyOf
  split
  · exact iff_of_false never_accepts (by simp)
  · simp
  · exact accepts_or

end Texts

namespace FilterBuilder

section
variable {b : FilterBuilder} {x : String} {a : Attribute}
  (declared : b.dataset.attribute? x = some a) (other : b.dataset.isTimeAttribute x = false)
include declared other

theorem matchesValue_column (v : Value) :
    b.matchesValue (.ref x) v = .ok (.selector x v.nativeText) := by
  have found : b.source (.ref x) = .ok { dimension := x } := by
    simp [source,other,plainDimension,declared,bind,Except.bind,pure,Except.pure]
  exact matchesValue_source found v

theorem membership_texts (type : DataType) (elements : List Value) :
    b.membership (.ref x) (.literal (.set type elements))
      = .ok (.anyOf (elements.map fun v => .selector x v.nativeText)) :=
  inSet_compared (fun v _ => matchesValue_column declared other v) (.inl other)

end

-- Membership in a set never fails for a declared column: the filter keeps the rows whose text is
-- that of an element. These are the rows whose value is one of the elements or within the
-- bounds of one, if and only if each value that a range covers is listed with its text, and no
-- element that is no value of the column has the text of a value that is not asked for.
theorem set_filter_exact (b : FilterBuilder) {x : String} {a : Attribute}
    (declared : b.dataset.attribute? x = some a) (other : b.dataset.isTimeAttribute x = false)
    (type : DataType) (elements : List Value) :
    ∃ f, b.filter (.member (.ref x) (.literal (.set type elements))) = .ok f ∧
      b.filter (.overlap (.ref x) (.literal (.set type elements))) = .ok f ∧
      ∀ engine : Engine,
        (∀ cells, f.Accepts engine cells ↔ ∃ v ∈ elements, v.nativeText = cells x) ∧
        ((∀ w, Value.Stored a.type w → ∀ cells, cells x = w.nativeText →
            (f.Accepts engine cells ↔ ∃ v ∈ elements, v.asks w = true)) ↔
          ∀ w, Value.Stored a.type w → ∀ v ∈ elements,
            (v.covers w = true → ∃ u ∈ elements, u.nativeText = w.nativeText) ∧
            (¬ Value.Stored a.type v → v.nativeText = w.nativeText →
              ∃ u ∈ elements, u.asks w = true)) ∧
        ((∀ v ∈ elements, Value.Stored a.type v) → ∀ w, Value.Stored a.type w →
          ∀ cells, cells x = w.nativeText →
            (f.Accepts engine cells ↔ ∃ v ∈ elements, v.same w = true)) := by
  have made := membership_texts declared other type elements
  refine ⟨_,made,made,fun engine => ?_⟩
  have texts (cells : String → Option String) :
      (Filter.anyOf (elements.map fun v => .selector x v.nativeText)).Accepts engine cells ↔
        ∃ v ∈ elements, v.nativeText = cells x := by
    simp [accepts_anyOf,accepts_selector]
  generalize Filter.anyOf (elements.map fun v => .selector x v.nativeText) = f at texts
  refine ⟨texts,?_,fun listed w stored cells cell => ?_⟩
  · refine forall₂_congr fun w stored => ?_
    rw [← Value.asked_texts stored]
    constructor
    · intro exactly
      exact (texts fun _ => w.nativeText).symm.trans (exactly (fun _ => w.nativeText) rfl)
    · intro exactly cells cell
      rw [texts,cell,exactly]
  · rw [texts,cell,Value.listed_texts listed stored]

end FilterBuilder

namespace Goods

def goods : Dataset :=
  { engine := .druid,source := "goods",timeAttribute := some "time",
    attributes := [{ name := "time",type := .time },{ name := "price",type := .number }] }

def among (elements : List Value) : Expr :=
  .member (.ref "price") (.literal (.set .number elements))

def oneOrFive : List Value := [.number 1.0,.number 5.0]

def oneToFive : Value := .numberRange ⟨some 1.0,some 5.0⟩

theorem listed_price_kept :
    ∃ f, (FilterBuilder.mk goods .query).filter (among oneOrFive) = .ok f ∧
      ∀ (engine : Engine) (w : Value), Value.Stored .number w →
        ∀ cells, cells "price" = w.nativeText →
          (f.Accepts engine cells ↔ ∃ v ∈ oneOrFive, v.same w = true) := by
  have listed : ∀ v ∈ oneOrFive, Value.Stored .number v := by
    intro v member
    rcases List.mem_cons.mp member with rfl | member
    · exact .number (by decide +kernel)
    · cases List.mem_singleton.mp member
      exact .number (by decide +kernel)
  obtain ⟨f,made,-,exactly⟩ := FilterBuilder.set_filter_exact ⟨goods,.query⟩
    (show goods.attribute? "price" = some { name := "price",type := .number } from rfl) rfl .number oneOrFive
  exact ⟨f,made,fun engine => (exactly engine).2.2 listed⟩

theorem price_in_range_lost :
    (FilterBuilder.mk goods .query).filter (among [oneToFive])
        = .ok (.selector "price" (some "[1, 5)")) ∧
      oneToFive.asks (.number 2.0) = true ∧ (Value.number 2.0).nativeText = some "2" ∧
      ∀ (engine : Engine) (cells : String → Option String), cells "price" = some "2" →
        ¬ (Filter.selector "price" (some "[1, 5)")).Accepts engine cells := by
  have text : oneToFive.nativeText = some "[1, 5)" := by decide +kernel
  have compared : (FilterBuilder.mk goods .query).filter (among [oneToFive])
      = .ok (.selector "price" oneToFive.nativeText) := rfl
  refine ⟨text ▸ compared,by decide +kernel,by decide +kernel,fun engine cells cell => ?_⟩
  rw [accepts_selector,cell]
  decide

end Goods

end Druid

end OlapQuery
