import OlapQuery.Proofs.Aliases
import OlapQuery.Proofs.Outermost

-- The values that a chain defines. A later definition of a name takes the place of the earlier
-- one, so a query has each name once: where it was first defined, as it was last defined.

namespace OlapQuery

def Apply.isNamed (name : String) (a : Apply) : Bool :=
  a.name == name

theorem pushApply_find (a : Apply) (applies : List Apply) (name : String) :
    (pushApply a applies).find? (Apply.isNamed name)
      = if a.name = name then some a else applies.find? (Apply.isNamed name) := by
  induction applies with
  | nil => by_cases same : a.name = name <;> simp [pushApply,Apply.isNamed,same]
  | cons b rest ih =>
      unfold pushApply
      split
      · rename_i taken
        have equal : b.name = a.name := by simpa using taken
        by_cases same : a.name = name <;> simp [Apply.isNamed,equal,same]
      · rename_i free
        have different : b.name ≠ a.name := by simpa using free
        by_cases same : b.name = name
        · have other : a.name ≠ name := fun equal => different (same.trans equal.symm)
          simp [Apply.isNamed,same,other]
        · have missed : Apply.isNamed name b = false := by simpa [Apply.isNamed] using same
          simpa [missed] using ih

theorem pushApply_names (a : Apply) (applies : List Apply) :
    (pushApply a applies).map (·.name) = applies.map (·.name) ++
      if a.name ∈ applies.map (·.name) then [] else [a.name] := by
  induction applies with
  | nil => simp [pushApply]
  | cons b rest ih =>
      by_cases taken : b.name = a.name
      · simp [pushApply,taken]
      · have other : a.name ≠ b.name := Ne.symm taken
        simp only [pushApply,beq_iff_eq,taken,if_false,List.map_cons,List.mem_cons,other,false_or]
        rw [ih]; rfl

theorem pushApply_source {a b : Apply} {applies : List Apply} (member : b ∈ pushApply a applies) :
    b = a ∨ b ∈ applies := by
  induction applies with
  | nil => exact .inl (List.mem_singleton.mp member)
  | cons c rest ih =>
      unfold pushApply at member
      split at member
      · exact (List.mem_cons.mp member).imp_right (List.mem_cons_of_mem c)
      · rcases List.mem_cons.mp member with rfl | later
        · exact .inr List.mem_cons_self
        · exact (ih later).imp_right (List.mem_cons_of_mem c)

theorem pushApply_fresh {a : Apply} {applies : List Apply}
    (fresh : a.name ∉ applies.map (·.name)) : pushApply a applies = applies ++ [a] := by
  induction applies with
  | nil => rfl
  | cons b rest ih =>
      rw [List.map_cons,List.mem_cons,not_or] at fresh
      have different : b.name ≠ a.name := Ne.symm fresh.1
      simp [pushApply,different,ih fresh.2]

theorem pushApply_map {f : Apply → Apply} (named : ∀ a, (f a).name = a.name) (a : Apply)
    (applies : List Apply) : (pushApply a applies).map f = pushApply (f a) (applies.map f) := by
  induction applies with
  | nil => rfl
  | cons b rest ih =>
      by_cases taken : b.name = a.name
      · simp [pushApply,named,taken]
      · simp [pushApply,named,taken,ih]

def settle (definitions : List Apply) : List Apply :=
  definitions.foldl (fun applies a => pushApply a applies) []

@[simp] theorem settle_append (definitions : List Apply) (a : Apply) :
    settle (definitions ++ [a]) = pushApply a (settle definitions) := by
  simp [settle,List.foldl_append]

theorem settle_find (definitions : List Apply) (name : String) :
    (settle definitions).find? (Apply.isNamed name)
      = definitions.reverse.find? (Apply.isNamed name) := by
  induction definitions using List.reverseRecOn with
  | nil => rfl
  | append_singleton before a ih =>
      rw [settle_append,pushApply_find,ih]
      by_cases same : a.name = name <;> simp [Apply.isNamed,same]

theorem settle_names (definitions : List Apply) :
    (settle definitions).map (·.name) = (definitions.map (·.name)).eraseDups := by
  induction definitions using List.reverseRecOn with
  | nil => rfl
  | append_singleton before a ih =>
      rw [settle_append,pushApply_names,ih,List.map_append,List.eraseDups_append]
      by_cases taken : a.name ∈ before.map (·.name)
      · have gone : [a.name].removeAll (before.map (·.name)) = [] := by
          simpa [List.removeAll] using taken
        simp only [List.map_singleton,gone,List.mem_eraseDups,taken,if_true,List.eraseDups_nil]
      · have kept : [a.name].removeAll (before.map (·.name)) = [a.name] := by
          simpa [List.removeAll] using taken
        simp only [List.map_singleton,kept,List.mem_eraseDups,taken,if_false]
        rfl

theorem settle_source {definitions : List Apply} {a : Apply} (member : a ∈ settle definitions) :
    a ∈ definitions := by
  induction definitions using List.reverseRecOn with
  | nil => exact member
  | append_singleton before b ih =>
      rw [settle_append] at member
      rcases pushApply_source member with rfl | early
      · simp
      · exact List.mem_append_left _ (ih early)

theorem settle_map {f : Apply → Apply} (named : ∀ a, (f a).name = a.name)
    (definitions : List Apply) : (settle definitions).map f = settle (definitions.map f) := by
  induction definitions using List.reverseRecOn with
  | nil => rfl
  | append_singleton before a ih => simp [pushApply_map named,ih]

theorem settle_distinct (definitions : List Apply) :
    ((settle definitions).map (·.name)).Nodup := by
  induction definitions using List.reverseRecOn with
  | nil => exact List.nodup_nil
  | append_singleton before a ih =>
      rw [settle_append,pushApply_names]
      split
      · simpa using ih
      · rename_i fresh
        exact List.nodup_append.mpr ⟨ih,by simp,fun b member c last equal =>
          fresh (List.mem_singleton.mp last ▸ equal ▸ member)⟩

-- A value as written in a chain, with the steps before it, the latest first.
structure Written where
  earlier : List Step
  name : String
  expression : Expr

namespace Step

-- A value on the rows of a split: anything but a nested split.
def value? : Step → Option (String × Expr)
  | .apply name e => if e.hasSplit then none else some (name,e)
  | _ => none

-- A value among totals, where datasets are given names too.
def total? (step : Step) : Option (String × Expr) :=
  if step.alias?.isSome then none else step.value?

def written (value? : Step → Option (String × Expr)) (earlier : List Step) :
    List Step → List Written
  | [] => []
  | step :: rest =>
      ((value? step).map fun value => { earlier,name := value.1,expression := value.2 }).toList
        ++ written value? (step :: earlier) rest

theorem written_append (value? : Step → Option (String × Expr)) (earlier taken : List Step)
    (step : Step) : written value? earlier (taken ++ [step]) = written value? earlier taken
      ++ ((value? step).map fun value =>
        { earlier := taken.reverse ++ earlier,name := value.1,expression := value.2 }).toList := by
  induction taken generalizing earlier with
  | nil => simp [written]
  | cons first rest ih => simp [written,ih]

end Step

open Step

-- A definition beside what was written: under the same name, with the aggregates put over their
-- root datasets and then over the dataset of the query, without the filters that it has.
structure Written.Defines (resolve : List Step → String → Compiled (String × List Expr))
    (collapse : Expr → Expr) (w : Written) (a : Apply) : Prop where
  name : a.name = w.name
  expression : ∃ resolved, w.expression.resolveAggregates (resolve w.earlier)
    = .ok (resolved,a.expanded) ∧ a.expression = collapse resolved

namespace Fold
open Compiled

-- The definitions that a run has met so far, and what is left of them.
def Defined (resolve : List Step → String → Compiled (String × List Expr)) (collapse : Expr → Expr)
    (written : List Written) (applies : List Apply) : Prop :=
  ∃ definitions, applies = settle definitions ∧
    List.Forall₂ (Written.Defines resolve collapse) written definitions

section
variable {resolve : List Step → String → Compiled (String × List Expr)} {collapse : Expr → Expr}

theorem defined_start : Defined resolve collapse [] [] :=
  ⟨[],rfl,.nil⟩

theorem Defined.push {written : List Written} {applies : List Apply} {w : Written} {a : Apply}
    (defined : Defined resolve collapse written applies) (defines : w.Defines resolve collapse a) :
    Defined resolve collapse (written ++ [w]) (pushApply a applies) := by
  obtain ⟨definitions,rfl,each⟩ := defined
  exact ⟨definitions ++ [a],by simp,List.rel_append each (.cons defines .nil)⟩

theorem Defined.map {written : List Written} {applies : List Apply}
    (defined : Defined resolve id written applies) (collapse : Expr → Expr) :
    Defined resolve collapse written
      (applies.map fun a => { a with expression := collapse a.expression }) := by
  obtain ⟨definitions,rfl,each⟩ := defined
  have whole := settle_map (f := fun a => { a with expression := collapse a.expression })
    (fun _ => rfl) definitions
  refine ⟨_,whole,List.forall₂_map_right_iff.mpr (each.imp ?_)⟩
  rintro w a ⟨name,resolved,resolves,equal⟩
  exact ⟨name,resolved,resolves,congrArg collapse equal⟩

end

-- Names in totals stand for what they stood for where the value is written.
def totalsRoot (earlier : List Step) (root : String) : Compiled (String × List Expr) :=
  .ok (inForce earlier root)

theorem totals_defined {scope : Scope} {steps : List Step} {t : Totals}
    (ran : steps.foldlM totalsStep { scope } = .ok t) :
    Defined totalsRoot id (written total? [] steps) t.applies := by
  refine (run_keeps (fun taken t => TotalsReached taken t ∧
    Defined totalsRoot id (written total? [] taken) t.applies) ?_
    ⟨totalsReached_start scope,defined_start⟩ ran).2
  intro taken t step next ⟨reached,defined⟩ ran
  have ran := totalsStep_taken ran
  refine ⟨totalsReached_step reached ran,?_⟩
  rw [written_append]
  cases ran with
  | aliased chain checked resolves => simpa [total?,alias?,chain] using defined
  | nested unchained inner based resolves =>
      simpa [total?,alias?,value?,unchained,inner] using defined
  | @applied e type resolved expanded name unchained flat typed resolves =>
      have roots : (fun root => (.ok (resolveAlias t.aliases root) : Compiled _))
          = totalsRoot taken.reverse := by
        funext root; exact congrArg Except.ok (reached.names root)
      have defines : Written.Defines totalsRoot id ⟨taken.reverse,name,e⟩
          { name,expression := resolved,expanded } := ⟨rfl,resolved,roots ▸ resolves,rfl⟩
      simpa [total?,alias?,value?,unchained,flat] using defined.push defines

theorem rows_defined {root : String} {scope : Scope} {steps : List Step} {q : Rows}
    (ran : steps.foldlM (rowsStep root) { scope } = .ok q) :
    (q.split = none → written value? [] steps = [] ∧ q.applies = []) ∧
    ∀ split, q.split = some split →
      Defined (fun _ => splitRoot split.dataName) (Expr.collapseAggregates split.dataName [])
        (written value? [] steps) q.applies := by
  refine run_keeps (fun taken (q : Rows) =>
    (q.split = none → written value? [] taken = [] ∧ q.applies = []) ∧
    ∀ split, q.split = some split →
      Defined (fun _ => splitRoot split.dataName) (Expr.collapseAggregates split.dataName [])
        (written value? [] taken) q.applies) ?_ ⟨fun _ => ⟨rfl,rfl⟩,fun _ _ => defined_start⟩ ran
  rintro taken q step next ⟨unsplit,defined⟩ ran
  rw [written_append]
  cases rowsStep_taken ran with
  | split before unsorted unlimited keyed declared =>
      refine ⟨(fun impossible => nomatch impossible),fun split found => ?_⟩
      obtain ⟨none,empty⟩ := unsplit before
      simpa [none,empty,value?] using defined_start
  | nested already inner =>
      refine ⟨fun none => by simp [already] at none,fun split found => ?_⟩
      simpa [value?,inner] using defined split found
  | @applied split e type resolved expanded name already flat typed resolves =>
      refine ⟨fun none => by simp [already] at none,fun other found => ?_⟩
      cases already.symm.trans found
      have defines : Written.Defines (fun _ => splitRoot split.dataName)
          (Expr.collapseAggregates split.dataName []) ⟨taken.reverse,name,e⟩
          { name,expression := resolved.collapseAggregates split.dataName [],expanded } :=
        ⟨rfl,resolved,resolves,rfl⟩
      simpa [value?,flat] using (defined split found).push defines
  | _ => simpa [value?] using ⟨unsplit,defined⟩

def chainValues (e : Expr) : List Written :=
  match e.chainBase with
  | .ply => written total? [] e.chainSteps
  | _ => written value? [] e.chainSteps

def chainRoots (e : Expr) (dataName : String) : List Step → String → Compiled (String × List Expr) :=
  match e.chainBase with
  | .ply => totalsRoot
  | _ => fun _ => splitRoot dataName

theorem fold_defined {dataset : Dataset} {e : Expr} {folded : FoldedQuery}
    (ran : fold dataset e = .ok folded) (chain : e.isDatasetOp = true) :
    ∃ common, Defined (chainRoots e folded.dataName)
      (Expr.collapseAggregates folded.dataName common) (chainValues e) folded.applies := by
  rcases fold_cases ran with ⟨single,-⟩ | ⟨-,base,totals⟩ | ⟨-,root,base,rows⟩
  · rw [chain] at single; cases single
  · obtain ⟨t,run,rfl⟩ := totals_parts totals
    rw [chainRoots,chainValues,base]
    exact ⟨_,(totals_defined run).map _⟩
  · obtain ⟨q,run,rfl⟩ := rows_parts rows
    obtain ⟨unsplit,defined⟩ := rows_defined run
    rw [chainRoots,chainValues,base]
    cases found : q.split with
    | some split => exact ⟨[],by simpa [found] using defined split found⟩
    | none =>
        obtain ⟨none,empty⟩ := unsplit found
        exact ⟨[],by simpa [none,empty] using defined_start⟩

-- A nested split of the query beside the one written, over another base.
structure Rebased (written nested : Nested) : Prop where
  name : nested.name = written.name
  expression : ∃ base, nested.expression = written.expression.withChainBase base

theorem totals_nested {scope : Scope} {steps : List Step} {t : Totals}
    (ran : steps.foldlM totalsStep { scope } = .ok t) :
    List.Forall₂ Rebased (steps.filterMap nested?) t.nested := by
  refine run_keeps (fun taken (t : Totals) => List.Forall₂ Rebased (taken.filterMap nested?) t.nested)
    ?_ .nil ran
  intro taken t step next each ran
  rw [List.filterMap_append]
  cases totalsStep_taken ran with
  | aliased chain checked resolves =>
      simpa [nested?,Expr.datasetChain_flat chain] using each
  | @nested root origin filters name e unchained inner based resolves =>
      have rebased : Rebased ⟨name,e⟩ ⟨name,e.withChainBase (.filteredDataset origin filters)⟩ :=
        ⟨rfl,_,rfl⟩
      simpa [nested?,inner] using List.rel_append each (.cons rebased .nil)
  | applied unchained flat typed resolves => simpa [nested?,flat] using each

theorem fold_nested {dataset : Dataset} {e : Expr} {folded : FoldedQuery}
    (ran : fold dataset e = .ok folded) :
    List.Forall₂ Rebased (e.chainSteps.filterMap nested?) folded.nested := by
  rcases fold_cases ran with ⟨single,value⟩ | ⟨-,base,totals⟩ | ⟨-,root,base,rows⟩
  · obtain ⟨_,_,_,rfl⟩ := value_parts value
    rw [Expr.single_steps single]; exact .nil
  · obtain ⟨t,run,rfl⟩ := totals_parts totals
    exact totals_nested run
  · obtain ⟨q,run,rfl⟩ := rows_parts rows
    have each : List.Forall₂ Rebased (e.chainSteps.filterMap nested?)
        ((e.chainSteps.filterMap nested?).map (templateOver root q.filters)) :=
      List.forall₂_map_right_iff.mpr (List.forall₂_same.mpr fun n _ => ⟨rfl,_,rfl⟩)
    rw [← (rows_reached run).nested] at each
    exact each

end Fold

end OlapQuery
