import OlapQuery.Proofs.PlainRows
import OlapQuery.Proofs.RowFilters
import OlapQuery.Proofs.Simplification

-- The filter of a folded query against the filters it was made from: the base filter of the
-- dataset and the filters of the query itself.

namespace OlapQuery

namespace Fold
open Compiled

-- The filters of a query besides the base filter: those written before the split or, where the
-- query is not a chain over the dataset, those that all its aggregates share.
def ownFilters (dataset : Dataset) (e : Expr) : Compiled (List Expr) :=
  if !e.isDatasetOp then do
    let (resolved,_) ← e.resolveAggregates (fun root => .ok (root,[]))
    return Expr.commonFilters [resolved]
  else
    match e.chainBase with
    | .ply => do
        let t ← e.chainSteps.foldlM totalsStep { scope := { dataset,datasets := e.datasets } }
        return Expr.commonFilters (t.applies.map (·.expression))
    | _ => return Step.rowFilters e.chainSteps

theorem folded_filter {dataset : Dataset} {e : Expr} {folded : FoldedQuery}
    (ran : fold dataset e = .ok folded) :
    ∃ filters, ownFilters dataset e = .ok filters ∧ folded.filter = queryFilter dataset filters := by
  rcases fold_cases ran with ⟨single,value⟩ | ⟨chain,base,totals⟩ | ⟨chain,root,base,rows⟩
  · obtain ⟨resolved,expanded,resolves,rfl⟩ := value_parts value
    refine ⟨Expr.commonFilters [resolved],?_,rfl⟩
    rw [ownFilters,if_pos (by simp [single])]
    exact bind_ok.mpr ⟨(resolved,expanded),resolves,rfl⟩
  · obtain ⟨t,run,rfl⟩ := totals_parts totals
    refine ⟨_,?_,rfl⟩
    rw [ownFilters,if_neg (by simp [chain]),base]
    exact bind_ok.mpr ⟨t,run,rfl⟩
  · obtain ⟨q,run,rfl⟩ := rows_parts rows
    refine ⟨q.filters,?_,rfl⟩
    rw [ownFilters,if_neg (by simp [chain]),base,(rows_reached run).filters]
    rfl

end Fold

namespace ValueReading
open OlapQuery.Expr

variable {ρ : Type u} {α : Type v} {S : ValueReading ρ α} {row : ρ}

theorem holds_queryFilter (dataset : Dataset) (filters : List Expr) :
    (S.holds row dataset.filter ∧ ∀ f ∈ filters, S.holds row f) ↔
      S.holds row (queryFilter dataset filters) ∧ S.Consistent row (dataset.filter :: filters) := by
  have all := S.toReading.holds_andAll row (dataset.filter :: filters)
  rw [List.forall_mem_cons] at all
  rw [← all,holds_simplifyAnd]
  simp only [Consistent,conjunctsAll_andAll,queryFilter]

end ValueReading

-- Filters hold of a row exactly when their simplification does and no literal that one of them
-- equates with an operand lies outside a membership of that operand.
theorem simplified_filter_exact (S : ValueReading ρ α) (row : ρ) :
    (∀ e, S.holds row e ↔ S.holds row e.simplifyAnd ∧ S.Consistent row [e]) ∧
    ∀ dataset e folded, fold dataset e = .ok folded →
      ∃ filters, Fold.ownFilters dataset e = .ok filters ∧
        ((S.holds row dataset.filter ∧ ∀ f ∈ filters, S.holds row f) ↔
          S.holds row folded.filter ∧ S.Consistent row (dataset.filter :: filters)) := by
  refine ⟨fun e => ValueReading.holds_simplifyAnd e,?_⟩
  intro dataset e folded ran
  obtain ⟨filters,own,equal⟩ := Fold.folded_filter ran
  refine ⟨filters,own,?_⟩
  rw [equal]
  exact ValueReading.holds_queryFilter dataset filters

namespace Tenants

def among (names : List String) : Expr :=
  .member (.ref "tenant") (.literal (.set .string (names.map .string)))

def only (name : String) : Expr :=
  .is (.ref "tenant") (.literal (.string name))

def twoTenants : Dataset :=
  { engine := .postgres,source := "events",attributes := [{ name := "tenant",type := .string }],
    filter := among ["a","b"] }

def rowOf (tenant : String) : Plain.Record :=
  fun _ => .text tenant

theorem tenant_filters_kept :
    ∃ folded, fold twoTenants (.filter (.filter (.ref "data") (only "a")) (among ["a","c"]))
        = .ok folded ∧ folded.filter = only "a" ∧
      Plain.reading.holds (rowOf "a") twoTenants.filter ∧
      ∀ f ∈ [only "a",among ["a","c"]], Plain.reading.holds (rowOf "a") f := by
  obtain ⟨filters,own,exactly⟩ := (simplified_filter_exact Plain.reading (rowOf "a")).2 twoTenants
    (.filter (.filter (.ref "data") (only "a")) (among ["a","c"])) _ rfl
  have equal : [only "a",among ["a","c"]] = filters := Except.ok.inj own
  subst equal
  refine ⟨_,rfl,rfl,exactly.mpr ⟨rfl,?_⟩⟩
  intro clauses found
  cases found
  intro x v y s equality membership alike
  simp [only,among,twoTenants] at equality membership
  obtain ⟨rfl,rfl⟩ := equality
  rcases membership with ⟨rfl,rfl⟩ | ⟨rfl,rfl⟩ <;> rfl

-- Two filters that no row satisfies together fold into one that the row of a third tenant does.
theorem base_filter_widened :
    ∃ folded, fold twoTenants (.filter (.ref "data") (only "c")) = .ok folded ∧
      Plain.reading.holds (rowOf "c") folded.filter ∧
      ¬ Plain.reading.holds (rowOf "c") twoTenants.filter := by
  refine ⟨_,rfl,rfl,?_⟩
  intro held
  cases held

end Tenants

end OlapQuery
