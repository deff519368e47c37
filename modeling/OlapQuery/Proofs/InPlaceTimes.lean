import OlapQuery.Druid.Filter
import OlapQuery.Proofs.Checked
import OlapQuery.Proofs.FoldRun

-- Conditions on the time column in the place where they stand: inside a disjunction, under a
-- negation or in an aggregator, where they cannot be taken out as the intervals to scan. A
-- condition that could be taken out becomes a filter on the same intervals, unless it is
-- membership in a set with an instant among its elements. Such a set is compared text by text.

namespace OlapQuery

-- An instant that stands for itself, not as the bound of a range.
def Value.isInstant : Value → Bool
  | .time _ => true
  | _ => false

-- Membership in a set that lists an instant.
def Expr.listsInstant : Expr → Bool
  | .member _ (.literal (.set _ elements)) => elements.any Value.isInstant
  | _ => false

namespace Druid

open TimeFilter (elementRange? literalRanges? literalEdges clauseRanges? clauseRanges clauseRanges_ok)
open Compiled

def Filter.anyOf : List Filter → Filter
  | [] => Filter.constant false
  | [one] => one
  | fields => .or fields

namespace FilterBuilder

theorem ranges_exact {elements : List Value} {ranges : List TimeRange}
    (lifted : elements.mapM elementRange? = some ranges) :
    elements.mapM range? = if elements.any Value.isInstant then none else some ranges := by
  induction elements generalizing ranges with
  | nil => cases lifted; rfl
  | cons v rest ih =>
      rw [List.mapM_cons] at lifted
      obtain ⟨first,found,lifted⟩ := Option.bind_eq_some_iff.mp lifted
      obtain ⟨others,later,lifted⟩ := Option.bind_eq_some_iff.mp lifted
      cases lifted
      rw [List.mapM_cons,ih later]
      cases v with
      | timeRange range =>
          cases found
          cases instants : rest.any Value.isInstant <;> simp [range?,Value.isInstant,instants]
      | time t => simp [range?,Value.isInstant]
      | _ => cases found

theorem inSet_compared {b : FilterBuilder} {e : Expr} {elements : List Value}
    {made : Value → Filter} (each : ∀ v ∈ elements, b.matchesValue e v = .ok (made v))
    (mixed : b.isTime e = false ∨ elements.mapM range? = none) :
    b.inSet e elements = .ok (.anyOf (elements.map made)) := by
  unfold inSet
  split
  · rename_i ranges timed whole
    rcases mixed with plain | scalars
    · rw [timed] at plain
      cases plain
    · rw [whole] at scalars
      cases scalars
  · rw [mapM_total each]
    generalize elements.map made = fields
    match fields with
    | [] => rfl
    | [one] => rfl
    | one :: other :: rest => rfl

section
variable {b : FilterBuilder} {column : String} (time : b.dataset.timeAttribute = some column)
include time

theorem isTime_column : b.isTime (.ref column) = true := by
  simp [isTime,Dataset.isTimeAttribute,time]

theorem matchesValue_time {a : Attribute} (declared : b.dataset.attribute? column = some a)
    (v : Value) : b.matchesValue (.ref column) v = .ok (.selector timeDimension v.nativeText) := by
  have known := isTime_column time
  simp only [isTime] at known
  simp [matchesValue,source,known,DimensionSource.ofExpr,DimensionSource.ofColumn,declared,
    bind,Except.bind,pure,Except.pure]

theorem inSet_ranges {elements : List Value} {ranges : List TimeRange}
    (whole : elements.mapM range? = some ranges) :
    b.inSet (.ref column) elements = .ok (.onTime ranges) := by
  simp only [inSet,isTime_column time,whole]

theorem inSet_texts {a : Attribute} (declared : b.dataset.attribute? column = some a)
    {elements : List Value} (mixed : elements.mapM range? = none) :
    b.inSet (.ref column) elements
      = .ok (.anyOf (elements.map fun v => .selector timeDimension v.nativeText)) :=
  inSet_compared (fun v _ => matchesValue_time time declared v) (.inr mixed)

theorem inSet_undeclared (unknown : b.dataset.attribute? column = none) {v : Value}
    {rest : List Value} (mixed : (v :: rest).mapM range? = none) :
    b.inSet (.ref column) (v :: rest) = .error (.refused (.unknownAttribute column)) := by
  have known := isTime_column time
  simp only [isTime] at known
  simp [inSet,mixed,matchesValue,source,known,DimensionSource.ofExpr,DimensionSource.ofColumn,
    unknown,bind,Except.bind]

-- Outside of sets a literal is turned into a range in the same way in both places, with the same
-- instants to come after.
theorem binary_ranges {op : BinaryOp} {value : Value} {ranges : List TimeRange}
    (lifted : literalRanges? op value = some ranges)
    (goes : ∀ t ∈ literalEdges op value, t.next = .ok (t.addMillis 1))
    (plain : (Expr.binary op (.ref column) (.literal value)).listsInstant = false) :
    b.binary op (.ref column) (.literal value) = .ok (.onTime ranges) := by
  have known := isTime_column time
  unfold literalRanges? at lifted
  split at lifted
  case h_2 type elements =>
    have whole := ranges_exact lifted
    simp only [Expr.listsInstant] at plain
    rw [plain,if_neg Bool.false_ne_true] at whole
    exact inSet_ranges time whole
  case h_1 range =>
    cases lifted
    simp [binary,membership,literal,known,bind,Except.bind,pure,Except.pure]
  case h_3 t =>
    cases lifted
    have next := goes t (List.mem_singleton_self t)
    simp [binary,equality,literal,known,next,Checked.raise,Except.mapError,TimeRange.instant,bind,
      Except.bind,pure,Except.pure]
  case h_8 => cases lifted
  case h_4 t =>
    cases lifted
    have next := goes t (List.mem_singleton_self t)
    simp [binary,comparison,literal,known,comparedTimes,next,Checked.raise,Except.mapError,bind,
      Except.bind,pure,Except.pure]
  case h_7 t =>
    cases lifted
    have next := goes t (List.mem_singleton_self t)
    simp [binary,comparison,literal,known,comparedTimes,next,Checked.raise,Except.mapError,bind,
      Except.bind,pure,Except.pure]
  all_goals
    cases lifted
    simp [binary,comparison,literal,known,comparedTimes,Checked.raise,Except.mapError,bind,
      Except.bind,pure,Except.pure]

end

theorem anyOf_texts (elements : List Value) (texts : List String) :
    Filter.anyOf (elements.map fun v => .selector timeDimension v.nativeText)
      ≠ .interval timeDimension texts := by
  match elements with
  | [] => simp [Filter.anyOf,Filter.constant,Filter.never]
  | [v] => simp [Filter.anyOf]
  | v :: w :: rest => simp [Filter.anyOf]

theorem listsInstant_parts {e : Expr} (instant : e.listsInstant = true) :
    ∃ operand type v rest, e = .member operand (.literal (.set type (v :: rest))) ∧
      (v :: rest).any Value.isInstant = true := by
  unfold Expr.listsInstant at instant
  split at instant
  · rename_i operand type elements
    match elements with
    | [] => cases instant
    | v :: rest => exact ⟨operand,type,v,rest,rfl,instant⟩
  · cases instant

theorem clause_parts {column : String} {clause : Expr} {ranges : List TimeRange}
    (lifted : clauseRanges? column clause = some ranges) :
    ∃ op value, clause = .binary op (.ref column) (.literal value) ∧
      literalRanges? op value = some ranges := by
  unfold clauseRanges? at lifted
  split at lifted
  · rename_i op name value
    obtain ⟨same,ranged⟩ := Option.ite_none_right_eq_some.mp lifted
    rw [beq_iff_eq.mp same]
    exact ⟨op,value,rfl,ranged⟩
  · cases lifted

-- A condition that can be taken out of a filter as ranges of time becomes, where it stands, a
-- filter on exactly these intervals, if and only if it is no membership in a set that lists an
-- instant. In that case each element is compared by its text, the ranges among them too.
theorem in_place_exact (b : FilterBuilder) {column : String}
    (time : b.dataset.timeAttribute = some column) {clause : Expr} {ranges : List TimeRange}
    (lifted : clauseRanges column clause = .ok (some ranges)) :
    (b.filter clause = .ok (.interval timeDimension (ranges.map intervalText)) ↔
      clause.listsInstant = false) ∧
    (clause.listsInstant = true → ∃ type elements,
      clause = .member (.ref column) (.literal (.set type elements)) ∧
      b.filter clause = match b.dataset.attribute? column with
        | some _ => .ok (.anyOf (elements.map fun v => .selector timeDimension v.nativeText))
        | none => .error (.refused (.unknownAttribute column))) := by
  obtain ⟨goes,lifted⟩ := clauseRanges_ok.mp lifted
  obtain ⟨op,value,rfl,ranged⟩ := clause_parts lifted.symm
  have goes : ∀ t ∈ literalEdges op value, t.next = .ok (t.addMillis 1) := by
    simpa [TimeFilter.clauseEdges] using goes
  have stands : b.filter (.binary op (.ref column) (.literal value))
      = b.binary op (.ref column) (.literal value) := by simp only [filter]
  have texts : (Expr.binary op (.ref column) (.literal value)).listsInstant = true →
      ∃ type elements,
        Expr.binary op (.ref column) (.literal value)
          = .member (.ref column) (.literal (.set type elements)) ∧
        b.filter (.binary op (.ref column) (.literal value))
          = match b.dataset.attribute? column with
            | some _ => .ok (.anyOf (elements.map fun v => .selector timeDimension v.nativeText))
            | none => .error (.refused (.unknownAttribute column)) := by
    intro instant
    obtain ⟨operand,type,v,rest,shape,listed⟩ := listsInstant_parts instant
    cases shape
    have mixed := ranges_exact ranged
    rw [if_pos listed] at mixed
    refine ⟨type,v :: rest,rfl,?_⟩
    rw [stands]
    change b.inSet (.ref column) (v :: rest) = _
    cases declared : b.dataset.attribute? column with
    | some a => exact inSet_texts time declared mixed
    | none => exact inSet_undeclared time declared mixed
  refine ⟨⟨fun same => ?_,fun plain => stands ▸ binary_ranges time ranged goes plain⟩,texts⟩
  rw [← Bool.not_eq_true]
  intro instant
  obtain ⟨type,elements,-,compared⟩ := texts instant
  rw [same] at compared
  split at compared
  · exact anyOf_texts elements _ (Except.ok.inj compared).symm
  · cases compared

end FilterBuilder

namespace Logins

open Time (Instant)

def logins : Dataset :=
  { engine := .druid,source := "logins",timeAttribute := some "time",
    attributes := [{ name := "time",type := .time },{ name := "user",type := .string }] }

def march12 : Instant := ⟨1426118400,0⟩
def march13 : Instant := ⟨1426204800,0⟩

def thatDay : Expr :=
  .member (.ref "time") (.literal (.set .time [.timeRange ⟨some march12,some march13⟩]))

def thatMidnight : Expr :=
  .member (.ref "time") (.literal (.set .time [.time march12]))

theorem day_kept_in_place :
    (FilterBuilder.mk logins .aggregator).filter thatDay
      = .ok (.interval "__time" ["2015-03-12/2015-03-13"]) := by
  have exactly := FilterBuilder.in_place_exact ⟨logins,.aggregator⟩ rfl
    (show clauseRanges "time" thatDay = .ok (some [⟨some march12,some march13⟩]) from rfl)
  have texts : [TimeRange.mk (some march12) (some march13)].map intervalText
      = ["2015-03-12/2015-03-13"] := by decide
  rw [← texts]
  exact exactly.1.mpr rfl

theorem midnight_compared_as_text :
    clauseRanges "time" thatMidnight = .ok (some [.instant march12]) ∧
      (FilterBuilder.mk logins .query).filter thatMidnight
        = .ok (.selector "__time" (some "2015-03-12T00:00:00.000Z")) ∧
      (FilterBuilder.mk logins .query).filter thatMidnight
        ≠ .ok (.interval timeDimension ([TimeRange.instant march12].map intervalText)) := by
  have text : march12.millisText = "2015-03-12T00:00:00.000Z" := by decide
  have compared : (FilterBuilder.mk logins .query).filter thatMidnight
      = .ok (.selector "__time" (some march12.millisText)) := rfl
  refine ⟨rfl,text ▸ compared,?_⟩
  rw [compared]
  simp

end Logins

end Druid

end OlapQuery
