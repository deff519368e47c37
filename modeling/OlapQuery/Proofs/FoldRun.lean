import OlapQuery.Fold

-- Folding as a run of steps. For each kind of chain there is one relation that says everything
-- a step can do to the state, with the checks that let it through. What a run keeps follows
-- from what a step keeps, with the steps taken so far at hand.

namespace OlapQuery

namespace Compiled

theorem bind_ok {x : Compiled α} {f : α → Compiled β} {b : β} :
    (x >>= f) = .ok b ↔ ∃ a, x = .ok a ∧ f a = .ok b := by
  cases x <;> simp [bind,Except.bind]

theorem pure_ok {a b : α} : (pure a : Compiled α) = .ok b ↔ a = b := by
  simp [pure,Except.pure]

theorem unsupported_ok {what : String} {a : α} : (unsupported what : Compiled α) ≠ .ok a := by
  simp [unsupported]

theorem throw_ok {e : Stop CompileError} {a : α} : (throw e : Compiled α) ≠ .ok a := by
  simp [throw,throwThe,MonadExceptOf.throw]

section
variable {step : β → α → Compiled β} (invariant : List α → β → Prop)
  (kept : ∀ taken state a next, invariant taken state → step state a = .ok next →
    invariant (taken ++ [a]) next)
include kept

theorem run_extends {steps taken : List α} {state last : β} (start : invariant taken state)
    (ran : steps.foldlM step state = .ok last) : invariant (taken ++ steps) last := by
  induction steps generalizing taken state with
  | nil =>
      rw [List.foldlM_nil,pure_ok] at ran
      subst ran; simpa using start
  | cons a rest ih =>
      rw [List.foldlM_cons,bind_ok] at ran
      obtain ⟨next,first,later⟩ := ran
      have reached := ih (kept taken state a next start first) later
      simpa using reached

-- The invariant speaks of the steps already taken and of the state they led to.
theorem run_keeps {steps : List α} {state last : β} (start : invariant [] state)
    (ran : steps.foldlM step state = .ok last) : invariant steps last :=
  run_extends invariant kept start ran

end

end Compiled

open Compiled

namespace Fold

def furtherHaving (q : Rows) (condition : Expr) : Having :=
  match q.having with
  | none => { expression := condition,afterLimit := q.limit.isSome }
  | some h =>
      { expression := .andAll [h.expression,condition],
        afterLimit := h.afterLimit || q.limit.isSome }

theorem smallerLimit_toNat (limit count : UInt64) :
    (smallerLimit (some limit) count).toNat = min limit.toNat count.toNat := by
  change (if limit ≤ count then limit else count).toNat = _
  split <;> rename_i order <;> rw [UInt64.le_iff_toNat_le] at order <;> omega

-- One step of a chain over the dataset.
inductive RowsTaken (root : String) (q : Rows) : Step → Rows → Prop where
  | filtered (checked : q.scope.checkBoolean condition = .ok ()) (unsplit : q.split = none)
      (unsorted : q.sort = none) (unlimited : q.limit = none) :
      RowsTaken root q (.filter condition) { q with filters := q.filters ++ [condition] }
  | having (checked : q.scope.checkBoolean condition = .ok ()) (already : q.split = some split) :
      RowsTaken root q (.filter condition) { q with having := some (furtherHaving q condition) }
  | split (unsplit : q.split = none) (unsorted : q.sort = none) (unlimited : q.limit = none)
      (keyed : keys ≠ []) (declared : keys.foldlM declareKey q.scope = .ok scope) :
      RowsTaken root q (.split keys dataName) { q with
        scope := { scope with datasets := sortedNames (dataName :: scope.datasets) }
        split := some { keys,dataName } }
  | nested (already : q.split = some split) (inner : e.hasSplit = true) :
      RowsTaken root q (.apply name e) { q with
        scope := q.scope.declare name .dataset
        nested := q.nested
          ++ [{ name,expression := e.withChainBase (.filteredDataset root q.filters) }] }
  | applied (already : q.split = some split) (flat : e.hasSplit = false)
      (typed : q.scope.infer e = .ok type)
      (resolves : e.resolveAggregates (splitRoot split.dataName) = .ok (resolved,expanded)) :
      RowsTaken root q (.apply name e) { q with
        scope := q.scope.declare name type
        applies := pushApply
          { name,expression := resolved.collapseAggregates split.dataName [],expanded } q.applies }
  | sorted (named : key.refName? = some name) (known : (q.scope.resolve name).isSome = true)
      (unlimited : q.limit = none) :
      RowsTaken root q (.sort key direction) { q with sort := some { name,direction } }
  | limited :
      RowsTaken root q (.limit count) { q with limit := some (smallerLimit q.limit count) }

theorem rowsFilter_taken {root : String} {q next : Rows} {condition : Expr}
    (ran : rowsFilter q condition = .ok next) : RowsTaken root q (.filter condition) next := by
  unfold rowsFilter at ran
  obtain ⟨_,checked,rest⟩ := bind_ok.mp ran
  split at rest
  · rename_i already
    obtain ⟨split,already⟩ := Option.isSome_iff_exists.mp already
    have result : RowsTaken root q (.filter condition) _ := .having checked already
    cases earlier : q.having with
    | none =>
        simp only [earlier,pure_ok] at rest
        simpa only [furtherHaving,earlier,← rest] using result
    | some h =>
        simp only [earlier,pure_ok] at rest
        simpa only [furtherHaving,earlier,← rest] using result
  · rename_i unsplit
    split at rest
    · exact absurd rest unsupported_ok
    · rename_i inOrder
      simp only [Bool.or_eq_true,not_or,Option.not_isSome_iff_eq_none] at unsplit inOrder
      cases pure_ok.mp rest
      exact .filtered checked unsplit inOrder.1 inOrder.2

theorem rowsSplit_taken {root : String} {q next : Rows} {keys : List (String × Expr)}
    {dataName : String} (ran : rowsSplit q keys dataName = .ok next) :
    RowsTaken root q (.split keys dataName) next := by
  unfold rowsSplit at ran
  split at ran
  · exact absurd ran unsupported_ok
  · rename_i unsplit
    split at ran
    · exact absurd ran unsupported_ok
    · rename_i inOrder
      split at ran
      · exact absurd ran unsupported_ok
      · rename_i keyed
        obtain ⟨scope,declared,rest⟩ := bind_ok.mp ran
        simp only [Bool.or_eq_true,not_or,Option.not_isSome_iff_eq_none] at unsplit inOrder
        cases pure_ok.mp rest
        exact .split unsplit inOrder.1 inOrder.2 (by simpa using keyed) declared

theorem rowsApply_taken {root : String} {q next : Rows} {name : String} {e : Expr}
    (ran : rowsApply root q name e = .ok next) : RowsTaken root q (.apply name e) next := by
  unfold rowsApply at ran
  split at ran
  · exact absurd ran unsupported_ok
  · rename_i split already
    split at ran
    · rename_i inner
      cases pure_ok.mp ran
      exact .nested already inner
    · rename_i flat
      obtain ⟨type,typed,rest⟩ := bind_ok.mp ran
      obtain ⟨⟨resolved,expanded⟩,resolves,rest⟩ := bind_ok.mp rest
      cases pure_ok.mp rest
      exact .applied already (by simpa using flat) typed resolves

theorem rowsSort_taken {root : String} {q next : Rows} {key : Expr} {direction : Direction}
    (ran : rowsSort q key direction = .ok next) : RowsTaken root q (.sort key direction) next := by
  unfold rowsSort at ran
  split at ran
  · exact absurd ran unsupported_ok
  · rename_i name named
    split at ran
    · exact absurd ran throw_ok
    · rename_i known
      split at ran
      · exact absurd ran unsupported_ok
      · rename_i unlimited
        cases pure_ok.mp ran
        refine .sorted named ?_ ?_
        · simpa [Option.isSome_iff_ne_none] using known
        · simpa using unlimited

theorem rowsStep_taken {root : String} {q next : Rows} {step : Step}
    (ran : rowsStep root q step = .ok next) : RowsTaken root q step next := by
  cases step with
  | filter condition => exact rowsFilter_taken ran
  | split keys dataName => exact rowsSplit_taken ran
  | apply name e => exact rowsApply_taken ran
  | sort key direction => exact rowsSort_taken ran
  | limit count => cases ran; exact .limited

-- One apply on the single datum of a query for totals.
inductive TotalsTaken (t : Totals) : Step → Totals → Prop where
  | aliased (chain : e.datasetChain? = some (root,own))
      (checked : own.forM t.scope.checkBoolean = .ok ())
      (resolves : resolveAlias t.aliases root = (origin,filters)) :
      TotalsTaken t (.apply name e) { t with
        dataName := some (t.dataName.getD origin)
        aliases := { name,root := origin,filters := filters ++ own } :: t.aliases }
  | nested (unchained : e.datasetChain? = none) (inner : e.hasSplit = true)
      (based : e.chainBase.refName? = some root)
      (resolves : resolveAlias t.aliases root = (origin,filters)) :
      TotalsTaken t (.apply name e) { t with
        scope := t.scope.declare name .dataset
        nested := t.nested
          ++ [{ name,expression := e.withChainBase (.filteredDataset origin filters) }] }
  | applied (unchained : e.datasetChain? = none) (flat : e.hasSplit = false)
      (typed : t.scope.infer e = .ok type)
      (resolves : e.resolveAggregates (fun root => .ok (resolveAlias t.aliases root))
        = .ok (resolved,expanded)) :
      TotalsTaken t (.apply name e) { t with
        scope := t.scope.declare name type
        dataName := match t.dataName with
          | some known => some known
          | none => resolved.firstAggregateRoot?
        applies := pushApply { name,expression := resolved,expanded } t.applies }

theorem totalsApply_taken {t next : Totals} {name : String} {e : Expr}
    (ran : totalsApply t name e = .ok next) : TotalsTaken t (.apply name e) next := by
  unfold totalsApply at ran
  split at ran
  · rename_i root own chain
    obtain ⟨_,checked,rest⟩ := bind_ok.mp ran
    cases pure_ok.mp rest
    exact .aliased chain checked rfl
  · rename_i unchained
    split at ran
    · rename_i inner
      split at ran
      · exact absurd ran unsupported_ok
      · rename_i root based
        cases pure_ok.mp ran
        exact .nested unchained inner based rfl
    · rename_i flat
      obtain ⟨type,typed,rest⟩ := bind_ok.mp ran
      obtain ⟨⟨resolved,expanded⟩,resolves,rest⟩ := bind_ok.mp rest
      cases pure_ok.mp rest
      exact .applied unchained (by simpa using flat) typed resolves

theorem totalsStep_taken {t next : Totals} {step : Step} (ran : totalsStep t step = .ok next) :
    TotalsTaken t step next := by
  cases step with
  | apply name e => exact totalsApply_taken ran
  | filter condition => exact absurd ran unsupported_ok
  | split keys dataName => exact absurd ran unsupported_ok
  | sort key direction => exact absurd ran unsupported_ok
  | limit count => exact absurd ran unsupported_ok

theorem value_parts {scope : Scope} {e : Expr} {folded : FoldedQuery}
    (ran : value scope e = .ok folded) :
    ∃ resolved expanded, e.resolveAggregates (fun root => .ok (root,[])) = .ok (resolved,expanded) ∧
      folded = {
        mode := .value
        dataName := scope.firstDataset
        filter := queryFilter scope.dataset (Expr.commonFilters [resolved])
        applies := [{
          name := valueName
          expression :=
            resolved.collapseAggregates scope.firstDataset (Expr.commonFilters [resolved])
          expanded }]
        types := [(valueName,.number)] } := by
  unfold value at ran
  obtain ⟨_,_,rest⟩ := bind_ok.mp ran
  obtain ⟨⟨resolved,expanded⟩,resolves,rest⟩ := bind_ok.mp rest
  exact ⟨resolved,expanded,resolves,(pure_ok.mp rest).symm⟩

theorem totals_parts {scope : Scope} {steps : List Step} {folded : FoldedQuery}
    (ran : totals scope steps = .ok folded) :
    ∃ t, steps.foldlM totalsStep { scope } = .ok t ∧
      folded = {
        mode := .total
        dataName := t.dataName.getD t.scope.firstDataset
        filter := queryFilter scope.dataset (Expr.commonFilters (t.applies.map (·.expression)))
        applies := t.applies.map fun a => { a with
          expression := a.expression.collapseAggregates (t.dataName.getD t.scope.firstDataset)
            (Expr.commonFilters (t.applies.map (·.expression))) }
        nested := t.nested
        types := t.scope.names } := by
  unfold totals at ran
  obtain ⟨t,run,rest⟩ := bind_ok.mp ran
  exact ⟨t,run,(pure_ok.mp rest).symm⟩

theorem rows_parts {scope : Scope} {root : String} {steps : List Step} {folded : FoldedQuery}
    (ran : rows scope root steps = .ok folded) :
    ∃ q, steps.foldlM (rowsStep root) { scope } = .ok q ∧
      folded = {
        mode := if q.split.isSome then .split else .raw
        dataName := match q.split with
          | some split => split.dataName
          | none => root
        filter := queryFilter scope.dataset q.filters
        split := q.split
        applies := q.applies
        sort := q.sort
        limit := q.limit
        having := q.having
        nested := q.nested
        types := q.scope.names } := by
  unfold rows at ran
  obtain ⟨q,run,rest⟩ := bind_ok.mp ran
  exact ⟨q,run,(pure_ok.mp rest).symm⟩

end Fold

theorem fold_cases {dataset : Dataset} {e : Expr} {folded : FoldedQuery}
    (ran : fold dataset e = .ok folded) :
    (e.isDatasetOp = false ∧ Fold.value { dataset,datasets := e.datasets } e = .ok folded) ∨
    (e.isDatasetOp = true ∧ e.chainBase = .ply ∧
      Fold.totals { dataset,datasets := e.datasets } e.chainSteps = .ok folded) ∨
    (e.isDatasetOp = true ∧ ∃ root, e.chainBase = .ref root ∧
      Fold.rows { dataset,datasets := e.datasets } root e.chainSteps = .ok folded) := by
  unfold fold at ran
  obtain ⟨_,_,rest⟩ := bind_ok.mp ran
  split at rest
  · rename_i single
    split at rest
    · exact .inl ⟨by simpa using single,rest⟩
    · exact absurd rest unsupported_ok
  · rename_i chain
    have chain : e.isDatasetOp = true := by simpa using chain
    split at rest
    · rename_i base; exact .inr (.inl ⟨chain,base,rest⟩)
    · rename_i root base; exact .inr (.inr ⟨chain,root,base,rest⟩)
    · exact absurd rest unsupported_ok

end OlapQuery
