import OlapQuery.Proofs.ClosedQueries
import OlapQuery.Proofs.ExactNumbers
import OlapQuery.Proofs.Reading

-- The condition on the rows of a grouping, as the engine is asked for it. It is kept by the
-- numbers of the aggregations, and it says of them what the filter says of the columns of that
-- name, with the two comparisons that the engine does not have as negations of those it has. A
-- split with such a filter is planned as a grouping with that very condition or not at all.

namespace OlapQuery

open OlapQuery.Expr

def Json.numberValue? (j : Json) : Option ℚ :=
  j.number?.bind Decimal.value?

-- A row with a number under each name: the comparisons of a name with a finite literal come out
-- as the number lies to the literal, alternatives and negations as usual.
structure Reading.ReadsNumbers {ρ : Type u} (S : Reading ρ) (row : ρ) (numbers : String → ℚ) :
    Prop where
  is : ∀ name x q, Decimal.value? x = some q →
    (S.holds row (.is (.ref name) (.number x)) ↔ numbers name = q)
  greaterThan : ∀ name x q, Decimal.value? x = some q →
    (S.holds row (.greaterThan (.ref name) (.number x)) ↔ q < numbers name)
  greaterThanOrEqual : ∀ name x q, Decimal.value? x = some q →
    (S.holds row (.greaterThanOrEqual (.ref name) (.number x)) ↔ q ≤ numbers name)
  lessThan : ∀ name x q, Decimal.value? x = some q →
    (S.holds row (.lessThan (.ref name) (.number x)) ↔ numbers name < q)
  lessThanOrEqual : ∀ name x q, Decimal.value? x = some q →
    (S.holds row (.lessThanOrEqual (.ref name) (.number x)) ↔ numbers name ≤ q)
  or : ∀ es, S.holds row (.or es) ↔ ∃ e ∈ es, S.holds row e
  not : ∀ e, S.holds row (.not e) ↔ ¬ S.holds row e

-- All number literals are finite, as those read from JSON are.
def Expr.FiniteNumbers (e : Expr) : Prop :=
  ∀ x, .number x ∈ e.nodes → ∃ q, Decimal.value? x = some q

theorem Expr.FiniteNumbers.child {e part : Expr} (finite : e.FiniteNumbers)
    (inside : part ∈ e.children) : part.FiniteNumbers :=
  fun x listed => finite x (child_node inside _ listed)

namespace Druid

namespace HavingSpec

-- The condition over the numbers of the aggregations.
mutual
def Holds (numbers : String → ℚ) : HavingSpec → Prop
  | .greaterThan aggregation v => ∃ q, v.numberValue? = some q ∧ q < numbers aggregation
  | .lessThan aggregation v => ∃ q, v.numberValue? = some q ∧ numbers aggregation < q
  | .equalTo aggregation v => ∃ q, v.numberValue? = some q ∧ numbers aggregation = q
  | .and specs => HoldsAll numbers specs
  | .or specs => HoldsAny numbers specs
  | .not spec => ¬ Holds numbers spec

def HoldsAll (numbers : String → ℚ) : List HavingSpec → Prop
  | [] => True
  | h :: rest => Holds numbers h ∧ HoldsAll numbers rest

def HoldsAny (numbers : String → ℚ) : List HavingSpec → Prop
  | [] => False
  | h :: rest => Holds numbers h ∨ HoldsAny numbers rest
end

section
variable {numbers : String → ℚ}

theorem holdsAll_exact (specs : List HavingSpec) :
    HoldsAll numbers specs ↔ ∀ h ∈ specs, Holds numbers h := by
  induction specs with
  | nil => simp [HoldsAll]
  | cons h rest ih => simp [HoldsAll,ih]

theorem holdsAny_exact (specs : List HavingSpec) :
    HoldsAny numbers specs ↔ ∃ h ∈ specs, Holds numbers h := by
  induction specs with
  | nil => simp [HoldsAny]
  | cons h rest ih => simp [HoldsAny,ih]

theorem comparison_parts {e x : Expr} {make : String → Json → HavingSpec} {spec : HavingSpec}
    (ran : comparison e x make = .ok spec) :
    ∃ name n, e = .ref name ∧ x = .number n ∧ spec = make name (Json.ofNumber n) := by
  unfold comparison at ran
  split at ran
  · split at ran
    · cases ran; exact ⟨_,_,rfl,rfl,rfl⟩
    · cases ran
  · cases ran

theorem ofExprs_each {es : List Expr} {specs : List HavingSpec} (ran : ofExprs es = .ok specs) :
    List.Forall₂ (fun e spec => ofExpr e = .ok spec) es specs := by
  induction es generalizing specs with
  | nil => cases ran; exact .nil
  | cons e rest ih =>
      obtain ⟨first,here,ran⟩ := Compiled.bind_ok.mp ran
      obtain ⟨others,later,ran⟩ := Compiled.bind_ok.mp ran
      cases Compiled.pure_ok.mp ran
      exact .cons here (ih later)

end

section
variable {ρ : Type u} {S : OlapQuery.Reading ρ} {row : ρ} {numbers : String → ℚ}
  (numbered : S.ReadsNumbers row numbers)
include numbered

-- The engine compares strictly, and its numbers are never incomparable: what is not less than a
-- number is at least that number.
theorem ofComparison_holds {op : BinaryOp} {e x : Expr} {spec : HavingSpec}
    (ran : ofComparison op e x = .ok spec) (finite : ∀ n, x = .number n → ∃ q, Decimal.value? n = some q) :
    spec.Holds numbers ↔ S.holds row (.binary op e x) := by
  unfold ofComparison at ran
  split at ran
  case h_6 => cases ran
  all_goals
    obtain ⟨name,n,rfl,rfl,rfl⟩ := comparison_parts ran
    obtain ⟨q,is⟩ := finite n rfl
    have written : (Json.ofNumber n).numberValue? = some q := Decimal.number_ofNumber is
  · rw [numbered.greaterThan name n q is]; simp [Holds,written]
  · rw [numbered.lessThan name n q is]; simp [Holds,written]
  · rw [numbered.is name n q is]; simp [Holds,written,eq_comm]
  · rw [numbered.greaterThanOrEqual name n q is]; simp [Holds,written]
  · rw [numbered.lessThanOrEqual name n q is]; simp [Holds,written]

theorem ofExpr_holds {e : Expr} {spec : HavingSpec} (ran : ofExpr e = .ok spec)
    (finite : e.FiniteNumbers) : spec.Holds numbers ↔ S.holds row e := by
  induction e using Expr.structural generalizing spec with
  | binary op e x _ _ =>
      refine ofComparison_holds numbered ran fun n same => ?_
      exact finite n (same ▸ child_inside (by simp [children]))
  | junction op es ih =>
      have each {specs : List HavingSpec} (inside : ofExprs es = .ok specs) :
          List.Forall₂ (fun e spec => S.holds row e ↔ spec.Holds numbers) es specs :=
        forall_related (ofExprs_each inside) fun e member spec made =>
          (ih e member made (finite.child member)).symm
      cases op with
      | and =>
          obtain ⟨specs,inside,made⟩ := Compiled.bind_ok.mp ran
          cases Compiled.pure_ok.mp made
          rw [S.holds_and,Holds,holdsAll_exact]
          exact (forall_exact (each inside) fun _ _ same => same).symm
      | or =>
          obtain ⟨specs,inside,made⟩ := Compiled.bind_ok.mp ran
          cases Compiled.pure_ok.mp made
          rw [numbered.or,Holds,holdsAny_exact]
          exact (exists_exact (each inside) fun _ _ same => same).symm
  | unary op e ih =>
      unfold ofExpr at ran
      split at ran
      case h_4 inner same =>
          cases same
          obtain ⟨spec,inside,made⟩ := Compiled.bind_ok.mp ran
          cases Compiled.pure_ok.mp made
          rw [Holds,numbered.not,ih inside (finite.child (by simp [children]))]
      all_goals first | cases ran | (rename_i same; cases same)
  | literal v => cases ran
  | ref name => cases ran
  | ply => cases ran
  | split e keys dataName ih others => cases ran

end

end HavingSpec

namespace Planner

theorem groupBy_having {p : Planner} {keys : List (String × Expr)} {having : Option HavingSpec}
    {planned : Plan} (ran : p.groupBy keys having = .ok planned) :
    ∃ q, planned.query = .groupBy q ∧ q.having = having := by
  obtain ⟨_,_,_,_,-,-,-,-,rfl⟩ := Planner.groupBy_made ran
  exact ⟨_,rfl,rfl⟩

theorem havingSpec_parts {p : Planner} {h : Having} {having : Option HavingSpec}
    (filtered : p.folded.having = some h) (ran : p.havingSpec = .ok having) :
    ∃ spec, HavingSpec.ofExpr h.expression = .ok spec ∧ having = some spec := by
  unfold havingSpec at ran
  rw [filtered] at ran
  dsimp only at ran
  split at ran
  · cases ran
  · cases made : HavingSpec.ofExpr h.expression with
    | error e => rw [made] at ran; cases ran
    | ok spec =>
        rw [made] at ran
        cases ran; exact ⟨spec,rfl,rfl⟩

theorem split_having {p : Planner} {h : Having} {planned : Plan} (mode : p.folded.mode = .split)
    (filtered : p.folded.having = some h) (ran : p.plan = .ok planned) :
    ∃ q spec, planned.query = .groupBy q ∧ q.having = some spec ∧
      HavingSpec.ofExpr h.expression = .ok spec := by
  have asked (unfiltered : p.havingSpec = .ok none) : False := by
    obtain ⟨_,_,none⟩ := havingSpec_parts filtered unfiltered
    cases none
  cases plan_chosen ran with
  | select raw ran => cases mode.symm.trans raw
  | timeBoundary unsplit bounds => exact absurd mode unsplit.2
  | totals unsplit ran => exact absurd mode unsplit.2
  | timeseries unfiltered single bucket ran => exact (asked unfiltered).elim
  | topN unfiltered single ran => exact (asked unfiltered).elim
  | groupBy conditioned ran =>
      obtain ⟨spec,made,rfl⟩ := havingSpec_parts filtered conditioned
      obtain ⟨q,grouped,kept⟩ := groupBy_having ran
      exact ⟨q,spec,grouped,kept,made⟩

end Planner

-- The condition that is asked for says what the filter says, and no plan of a split that has a
-- filter on its rows goes without it.
theorem having_keeps_meaning {ρ : Type u} :
    (∀ (condition : Expr) (spec : HavingSpec), HavingSpec.ofExpr condition = .ok spec →
      condition.FiniteNumbers → ∀ (S : OlapQuery.Reading ρ) (row : ρ) (numbers : String → ℚ),
        S.ReadsNumbers row numbers → (spec.Holds numbers ↔ S.holds row condition)) ∧
    ∀ (dataset : Dataset) (folded : FoldedQuery) (h : Having), folded.mode = .split →
      folded.having = some h → (∃ e, plan dataset folded = .error e) ∨
        ∃ planned q spec, plan dataset folded = .ok planned ∧ planned.query = .groupBy q ∧
          q.having = some spec ∧ HavingSpec.ofExpr h.expression = .ok spec := by
  constructor
  · intro condition spec ran finite S row numbers numbered
    exact HavingSpec.ofExpr_holds numbered ran finite
  · intro dataset folded h mode filtered
    cases ran : plan dataset folded with
    | error e => exact .inl ⟨e,rfl⟩
    | ok planned =>
        obtain ⟨p,made,chosen⟩ := Compiled.bind_ok.mp ran
        obtain ⟨-,rfl,-⟩ := Planner.make_parts made
        obtain ⟨q,spec,grouped,kept,same⟩ := Planner.split_having mode filtered chosen
        exact .inr ⟨planned,q,spec,rfl,grouped,kept,same⟩

end Druid

namespace Tally

-- A reading that can be run: rows of numbers by name, with the comparisons of numbers and all
-- that is made of them.
abbrev Counts := String → ℚ

def value? (row : Counts) : Expr → Option ℚ
  | .ref name => some (row name)
  | .literal (.number x) => Decimal.value? x
  | _ => none

def compares (op : BinaryOp) (a b : ℚ) : Bool :=
  match op with
  | .is => a == b
  | .greaterThan => b < a
  | .greaterThanOrEqual => b ≤ a
  | .lessThan => a < b
  | .lessThanOrEqual => a ≤ b
  | _ => false

mutual
def holds (row : Counts) : Expr → Bool
  | .literal (.boolean b) => b
  | .junction .and es => holdsAll row es
  | .junction .or es => holdsAny row es
  | .unary .not e => !holds row e
  | .binary op e x =>
      match value? row e,value? row x with
      | some a,some b => compares op a b
      | _,_ => false
  | _ => false

def holdsAll (row : Counts) : List Expr → Bool
  | [] => true
  | e :: rest => holds row e && holdsAll row rest

def holdsAny (row : Counts) : List Expr → Bool
  | [] => false
  | e :: rest => holds row e || holdsAny row rest
end

theorem holdsAll_exact (row : Counts) (es : List Expr) :
    holdsAll row es = true ↔ ∀ e ∈ es, holds row e = true := by
  induction es with
  | nil => simp [holdsAll]
  | cons e rest ih => simp [holdsAll,ih]

theorem holdsAny_exact (row : Counts) (es : List Expr) :
    holdsAny row es = true ↔ ∃ e ∈ es, holds row e = true := by
  induction es with
  | nil => simp [holdsAny]
  | cons e rest ih => simp [holdsAny,ih]

def reading : Reading Counts where
  holds row e := holds row e = true
  holds_bool row b := by simp [holds]
  holds_and row es := by simpa [holds] using holdsAll_exact row es

theorem reads_numbers (row : Counts) : reading.ReadsNumbers row row where
  is name x q is := by simp [reading,holds,value?,is,compares]
  greaterThan name x q is := by simp [reading,holds,value?,is,compares]
  greaterThanOrEqual name x q is := by simp [reading,holds,value?,is,compares]
  lessThan name x q is := by simp [reading,holds,value?,is,compares]
  lessThanOrEqual name x q is := by simp [reading,holds,value?,is,compares]
  or es := by simpa [reading,holds] using holdsAny_exact row es
  not e := by simp [reading,holds]

end Tally

namespace Druid.Days

def frequent : Expr :=
  .and [.greaterThanOrEqual (.ref "Edits") (.number 5),.not (.is (.ref "Edits") (.number 100))]

def frequently : Expr :=
  .filter ofPages frequent

theorem frequent_finite : frequent.FiniteNumbers := by
  intro x listed
  have known : x = 5 ∨ x = 100 := by simpa [frequent,nodes,nodesAll] using listed
  rcases known with rfl | rfl
  · exact ⟨5,by decide +kernel⟩
  · exact ⟨100,by decide +kernel⟩

theorem frequent_kept : ∃ folded planned q spec, fold edits frequently = .ok folded ∧
    plan edits folded = .ok planned ∧ planned.query = .groupBy q ∧ q.having = some spec ∧
    spec.Holds (fun _ => 5) ∧ ¬ spec.Holds (fun _ => 4) ∧ ¬ spec.Holds (fun _ => 100) := by
  obtain ⟨folded,folds,mode,having⟩ : ∃ folded, fold edits frequently = .ok folded ∧
      folded.mode = .split ∧
      folded.having = some { expression := frequent,afterLimit := false } := ⟨_,rfl,rfl,rfl⟩
  have planned : ∀ e, plan edits folded ≠ .error e := by
    intro e refused
    have made : ((fold edits frequently).toOption.bind fun f => (plan edits f).toOption).isSome
        = true := by decide +kernel
    simp [folds,refused,Except.toOption] at made
  obtain ⟨e,refused⟩ | ⟨planned,q,spec,ran,grouped,kept,made⟩ :=
    (having_keeps_meaning (ρ := Tally.Counts)).2 edits folded _ mode having
  · exact absurd refused (planned e)
  · have exactly := fun numbers => having_keeps_meaning.1 frequent spec made frequent_finite
      Tally.reading numbers numbers (Tally.reads_numbers numbers)
    refine ⟨folded,planned,q,spec,folds,ran,grouped,kept,(exactly _).mpr ?_,
      fun held => ?_,fun held => ?_⟩
    · exact show Tally.holds (fun _ => 5) frequent = true by decide +kernel
    · exact absurd ((exactly _).mp held) (show ¬ Tally.holds (fun _ => 4) frequent = true by
        decide +kernel)
    · exact absurd ((exactly _).mp held) (show ¬ Tally.holds (fun _ => 100) frequent = true by
        decide +kernel)

end Druid.Days

end OlapQuery
