import OlapQuery.Proofs.FoldRun

-- The filters that choose rows of the dataset are those written before the split. Folding
-- collects them in the order written, and gives them to every split nested in the chain.

namespace OlapQuery

namespace Step

def split? : Step → Option Split
  | .split keys dataName => some { keys,dataName }
  | _ => none

def nested? : Step → Option Nested
  | .apply name e => if e.hasSplit then some { name,expression := e } else none
  | _ => none

-- The conditions on rows of the dataset, up to the split.
def rowFilters : List Step → List Expr
  | [] => []
  | .filter condition :: rest => condition :: rowFilters rest
  | .split _ _ :: _ => []
  | .apply _ _ :: rest => rowFilters rest
  | .sort _ _ :: rest => rowFilters rest
  | .limit _ :: rest => rowFilters rest

def Unsplit (steps : List Step) : Prop :=
  ∀ step ∈ steps, step.isSplit = false

theorem split_none {step : Step} : step.split? = none ↔ step.isSplit = false := by
  cases step <;> simp [split?,isSplit]

theorem unsplit_exact {steps : List Step} : steps.findSome? split? = none ↔ Unsplit steps := by
  simp [Unsplit,split_none]

theorem unsplit_append {early late : List Step} :
    Unsplit (early ++ late) ↔ Unsplit early ∧ Unsplit late :=
  List.forall_mem_append

theorem unsplit_count {steps : List Step} : steps.countP isSplit = 0 ↔ Unsplit steps := by
  simp [List.countP_eq_zero,Unsplit]

theorem rowFilters_unsplit {early : List Step} (unsplit : Unsplit early) (late : List Step) :
    rowFilters (early ++ late) = rowFilters early ++ rowFilters late := by
  induction early with
  | nil => rfl
  | cons step rest ih =>
      have tail := ih (fun s member => unsplit s (List.mem_cons_of_mem _ member))
      have first := unsplit step List.mem_cons_self
      cases step with
      | split keys dataName => cases first
      | filter condition => simpa [rowFilters] using tail
      | apply name e => simpa [rowFilters] using tail
      | sort key direction => simpa [rowFilters] using tail
      | limit count => simpa [rowFilters] using tail

theorem rowFilters_split {early : List Step} {split : Split}
    (found : early.findSome? split? = some split) (late : List Step) :
    rowFilters (early ++ late) = rowFilters early := by
  induction early with
  | nil => cases found
  | cons step rest ih =>
      cases step with
      | split keys dataName => rfl
      | filter condition => simpa [rowFilters] using ih found
      | apply name e => simpa [rowFilters] using ih found
      | sort key direction => simpa [rowFilters] using ih found
      | limit count => simpa [rowFilters] using ih found

theorem rowFilters_other (early : List Step) {step : Step} (other : rowFilters [step] = []) :
    rowFilters (early ++ [step]) = rowFilters early := by
  cases found : early.findSome? split? with
  | none => rw [rowFilters_unsplit (unsplit_exact.mp found),other,List.append_nil]
  | some split => exact rowFilters_split found [step]

end Step

namespace Fold
open Step

-- A nested split over the dataset that its level is over, with the level's filters.
def templateOver (root : String) (filters : List Expr) (n : Nested) : Nested :=
  { n with expression := n.expression.withChainBase (.filteredDataset root filters) }

-- What the state owes to the steps taken.
structure RowsReached (root : String) (taken : List Step) (q : Rows) : Prop where
  filters : q.filters = rowFilters taken
  split : q.split = taken.findSome? split?
  once : taken.countP Step.isSplit ≤ 1
  nested : q.nested = (taken.filterMap nested?).map (templateOver root q.filters)
  flat : q.split = none → q.nested = []

theorem rowsReached_start (root : String) (scope : Scope) : RowsReached root [] { scope } :=
  ⟨rfl,rfl,by simp,rfl,fun _ => rfl⟩

theorem RowsReached.quiet {root : String} {taken : List Step} {q next : Rows} {step : Step}
    (reached : RowsReached root taken q) (sameFilters : next.filters = q.filters)
    (sameSplit : next.split = q.split) (sameNested : next.nested = q.nested)
    (noFilter : rowFilters (taken ++ [step]) = rowFilters taken) (noSplit : step.isSplit = false)
    (noNested : step.nested? = none) : RowsReached root (taken ++ [step]) next := by
  refine ⟨?_,?_,?_,?_,?_⟩
  · rw [sameFilters,noFilter]; exact reached.filters
  · rw [sameSplit,List.findSome?_append,reached.split]
    simp [split_none.mpr noSplit]
  · simpa [List.countP_append,noSplit] using reached.once
  · rw [sameNested,sameFilters,reached.nested]
    simp [List.filterMap_append,noNested]
  · rw [sameSplit,sameNested]; exact reached.flat

theorem rowsReached_step {root : String} {taken : List Step} {q next : Rows} {step : Step}
    (reached : RowsReached root taken q) (ran : RowsTaken root q step next) :
    RowsReached root (taken ++ [step]) next := by
  cases ran with
  | @filtered condition checked unsplit unsorted unlimited =>
      have before : Unsplit taken := unsplit_exact.mp (reached.split ▸ unsplit)
      have flat : taken.filterMap nested? = [] := by
        have none := reached.flat unsplit
        rw [reached.nested] at none
        exact List.map_eq_nil_iff.mp none
      refine ⟨?_,?_,?_,?_,?_⟩
      · rw [rowFilters_unsplit before,reached.filters]; rfl
      · rw [List.findSome?_append,← reached.split]; simp [unsplit,split?]
      · simpa [List.countP_append,Step.isSplit] using reached.once
      · rw [List.filterMap_append,flat,reached.flat unsplit]; rfl
      · exact reached.flat
  | @split keys dataName scope unsplit unsorted unlimited keyed declared =>
      have before : Unsplit taken := unsplit_exact.mp (reached.split ▸ unsplit)
      refine ⟨?_,?_,?_,?_,?_⟩
      · rw [rowFilters_unsplit before,reached.filters]; simp [rowFilters]
      · rw [List.findSome?_append,← reached.split]; simp [unsplit,split?]
      · simp [List.countP_append,unsplit_count.mpr before,Step.isSplit]
      · rw [List.filterMap_append,reached.nested]; simp [nested?]
      · intro impossible; cases impossible
  | @nested split name e already inner =>
      refine ⟨?_,?_,?_,?_,?_⟩
      · rw [rowFilters_split (reached.split ▸ already)]; exact reached.filters
      · rw [List.findSome?_append,← reached.split]; simp [already]
      · simpa [List.countP_append,Step.isSplit] using reached.once
      · rw [List.filterMap_append,List.map_append,← reached.nested]
        simp [nested?,inner,templateOver]
      · intro impossible; rw [already] at impossible; cases impossible
  | @having condition split checked already =>
      exact reached.quiet rfl rfl rfl (rowFilters_split (reached.split ▸ already) _) rfl rfl
  | @applied split name e type resolved expanded already flat typed resolves =>
      exact reached.quiet rfl rfl rfl (rowFilters_split (reached.split ▸ already) _) rfl
        (by simp [nested?,flat])
  | sorted named known unlimited =>
      exact reached.quiet rfl rfl rfl (rowFilters_other taken rfl) rfl rfl
  | limited => exact reached.quiet rfl rfl rfl (rowFilters_other taken rfl) rfl rfl

theorem rows_reached {root : String} {scope : Scope} {steps : List Step} {q : Rows}
    (ran : steps.foldlM (rowsStep root) { scope } = .ok q) : RowsReached root steps q :=
  Compiled.run_keeps (RowsReached root)
    (fun _ _ _ _ reached step => rowsReached_step reached (rowsStep_taken step))
    (rowsReached_start root scope) ran

end Fold

end OlapQuery
