import OlapQuery.Proofs.Nesting
import OlapQuery.Proofs.RenamedRows

-- The names of split keys and the types. Where no key hides a name that another key or an
-- aggregate reads, a chain folds under any names of its keys, with the same types.

namespace OlapQuery

open Fold (Rows rowsStep rowsSplit)

namespace SplitChain

variable {c : SplitChain} {ρ : String → String} {dataset : Dataset} {name : String}

theorem Renaming.avoid (renames : c.Renaming ρ) :
    ∀ step ∈ c.expr.chainSteps, step.Avoids (c.newNames ρ) :=
  Expr.steps_avoid renames.unused

theorem Renaming.avoids_split (renames : c.Renaming ρ) :
    (Step.split c.keys c.dataName).Avoids (c.newNames ρ) :=
  renames.avoid _ c.split_mem

theorem Renaming.mem_keys (renames : c.Renaming ρ) {key : String × Expr} :
    key ∈ (c.renamed ρ).keys ↔ ∃ own ∈ c.keys, (ρ own.1,own.2) = key := by
  rw [renames.keys.mem_iff,List.mem_map]

theorem Renaming.undeclared (renames : c.Renaming ρ) {s other : Scope}
    (declared : s.Declared (c.renamed ρ).keys other) (free : s.names.get? name = none)
    (old : name ∉ c.newNames ρ) (gone : name ∈ c.keyNames → ρ name ≠ name) :
    other.names.get? name = none := by
  refine (declared.others name fun listed => ?_).trans free
  obtain ⟨key,member,named⟩ := List.mem_map.mp listed
  obtain ⟨own,known,rfl⟩ := renames.mem_keys.mp member
  have key : own.1 ∈ c.keyNames := List.mem_map_of_mem known
  by_cases still : ρ own.1 = own.1
  · have same : own.1 = name := still.symm.trans named
    exact gone (same ▸ key) (same ▸ still)
  · exact old (mem_newNames.mpr ⟨own.1,key,still,named⟩)

section Scopes

variable (renames : c.Renaming ρ) (unshadowed : Unshadowed dataset c ρ)
include renames unshadowed

theorem scopes_alike :
    (c.scope dataset).Alike id (c.newNames ρ) ((c.renamed ρ).scope dataset) := by
  refine ⟨rfl,fun name old => ?_,fun _ _ => rfl,fun name moved => (moved rfl).elim⟩
  obtain ⟨back,forth⟩ := renames.uses.datasets name old
  simp only [scope]
  constructor
  · simpa only [Expr.mem_datasets] using back
  · intro used
    by_cases known : name ∈ c.keyNames
    · obtain ⟨key,listed,rfl⟩ := List.mem_map.mp known
      exact unshadowed.datasets key listed used
    · rw [Expr.mem_datasets] at used ⊢
      exact forth used known

theorem resolve_old (old : name ∉ c.newNames ρ) :
    ((c.renamed ρ).scope dataset).resolve name = (c.scope dataset).resolve name :=
  ((scopes_alike renames unshadowed).resolves old).1

theorem infer_key {key : String × Expr} (listed : key ∈ c.keys) :
    ((c.renamed ρ).scope dataset).infer key.2 = (c.scope dataset).infer key.2 :=
  Scope.infer_congr fun name mentioned => resolve_old renames unshadowed
    (renames.avoids_split.parts key.2 (List.mem_map_of_mem listed) name mentioned)

theorem independent_renamed : ((c.renamed ρ).scope dataset).Independent (c.renamed ρ).keys := by
  intro key listed other member apart mentioned type typed
  obtain ⟨own,known,rfl⟩ := renames.mem_keys.mp listed
  obtain ⟨reader,reads,rfl⟩ := renames.mem_keys.mp member
  have old := renames.avoids_split.parts reader.2 (List.mem_map_of_mem reads) (ρ own.1) mentioned
  have still : ρ own.1 = own.1 := by
    by_contra moved
    exact old (mem_newNames.mpr ⟨own.1,List.mem_map_of_mem known,moved,rfl⟩)
  rw [infer_key renames unshadowed known] at typed
  rw [resolve_old renames unshadowed old,still]
  rw [still] at mentioned
  have other : reader.1 ≠ own.1 := fun same => apart (congrArg ρ same)
  exact unshadowed.keys own known (.inl ⟨reader,reads,other,mentioned⟩) type typed

theorem keys_together :
    Together (fun s other => (c.scope dataset).Declared c.keys s ∧
        ((c.renamed ρ).scope dataset).Declared (c.renamed ρ).keys other)
      (c.keys.foldlM Fold.declareKey (c.scope dataset))
      ((c.renamed ρ).keys.foldlM Fold.declareKey ((c.renamed ρ).scope dataset)) := by
  have independent : (c.scope dataset).Independent c.keys :=
    fun key listed other member apart mentioned =>
      unshadowed.keys key listed (.inl ⟨other,member,apart,mentioned⟩)
  have again := independent_renamed renames unshadowed
  have once := (c.renamed ρ).ordered.distinct
  refine .of_results ⟨?_,?_⟩ fun s other ran also =>
    ⟨Scope.keys_declared c.ordered.distinct independent ran,Scope.keys_declared once again also⟩
  · rintro ⟨s,ran⟩
    have declared := Scope.keys_declared c.ordered.distinct independent ran
    refine Scope.keys_declare (.start _) once again fun key listed => ?_
    obtain ⟨own,known,rfl⟩ := renames.mem_keys.mp listed
    obtain ⟨type,typed,-⟩ := declared.types own known
    exact ⟨declared.plain own known,type,(infer_key renames unshadowed known).trans typed⟩
  · rintro ⟨s,ran⟩
    have declared := Scope.keys_declared once again ran
    refine Scope.keys_declare (.start _) c.ordered.distinct independent fun key known => ?_
    have listed := renames.mem_keys.mpr ⟨key,known,rfl⟩
    obtain ⟨type,typed,-⟩ := declared.types _ listed
    exact ⟨declared.plain (ρ key.1,key.2) listed,type,
      (infer_key renames unshadowed known).symm.trans typed⟩

variable {s other : Scope} (declared : (c.scope dataset).Declared c.keys s)
  (again : ((c.renamed ρ).scope dataset).Declared (c.renamed ρ).keys other)
include declared again

theorem key_typed {key : String × Expr} (listed : key ∈ c.keys) :
    ∃ type, (c.scope dataset).infer key.2 = .ok type ∧ s.names.get? key.1 = some type ∧
      other.names.get? (ρ key.1) = some type := by
  obtain ⟨type,typed,named⟩ := declared.types key listed
  obtain ⟨same,also,renamed⟩ := again.types _ (renames.mem_keys.mpr ⟨key,listed,rfl⟩)
  cases typed.symm.trans ((infer_key renames unshadowed listed).symm.trans also)
  exact ⟨type,typed,named,renamed⟩

theorem keys_alike : s.Alike (c.onKeys ρ) (c.newNames ρ) other := by
  have before := scopes_alike renames unshadowed
  refine ⟨again.dataset.trans declared.dataset.symm,?_,fun name old => ?_,fun name moved => ?_⟩
  · rw [declared.datasets,again.datasets]
    exact before.datasets
  · by_cases known : name ∈ c.keyNames
    · obtain ⟨key,listed,rfl⟩ := List.mem_map.mp known
      obtain ⟨type,-,named,renamed⟩ := key_typed renames unshadowed declared again listed
      rw [onKeys,if_pos known,named,renamed]
    · rw [onKeys,if_neg known,renames.undeclared again rfl old (absurd · known)]
      exact (declared.others name known).symm
  · obtain ⟨known,fresh⟩ := c.onKeys_moves ρ name moved
    obtain ⟨key,listed,rfl⟩ := List.mem_map.mp known
    obtain ⟨type,-,named,-⟩ := key_typed renames unshadowed declared again listed
    exact ⟨fresh,by rw [named]; rfl⟩

theorem overlooked_alike (datasets : List String) {others : List String}
    (used : ∀ name, name ∈ others ↔ name ∈ ((c.renamed ρ).scope dataset).datasets)
    (read : name ∈ overlooked (c.onKeys ρ) c.after) :
    ({ other with datasets := others } : Scope).resolve name
      = ({ s with datasets := datasets } : Scope).resolve name := by
  have moved := overlooked_moved read
  obtain ⟨known,-⟩ := c.onKeys_moves ρ name moved
  obtain ⟨key,listed,rfl⟩ := List.mem_map.mp known
  obtain ⟨type,typed,named,-⟩ := key_typed renames unshadowed declared again listed
  have old := renames.avoids_split.declares key.1 known
  rw [onKeys,if_pos known] at moved
  have free := renames.undeclared again rfl old fun _ => moved
  have before := unshadowed.keys key listed (.inr read) type typed
  have standing : ({ s with datasets := datasets } : Scope).resolve key.1 = some type :=
    Scope.resolve_named named
  rw [standing,← before,← resolve_old renames unshadowed old]
  exact Scope.resolve_unnamed again.dataset (used key.1) rfl free

end Scopes

def lastName (c : SplitChain) (ρ : String → String) : String → String :=
  c.after.foldl (fun σ step => step.namesAfter σ) (c.onKeys ρ)

section Fold

variable (renames : c.Renaming ρ) (unshadowed : Unshadowed dataset c ρ) {q other : Rows}
  {root : String}
include renames unshadowed

theorem split_together (alike : RowsAlike id (c.newNames ρ) none [] q other)
    (here : q.scope = c.scope dataset) (there : other.scope = (c.renamed ρ).scope dataset) :
    Together (RowsAlike (c.onKeys ρ) (c.newNames ρ) (some c.dataName) c.after)
      (rowsSplit q c.keys c.dataName) (rowsSplit other (c.renamed ρ).keys c.dataName) := by
  have unsplit : q.split = none := Option.map_eq_none_iff.mp alike.split
  have too : other.split = none := Option.map_eq_none_iff.mp alike.split'
  have keyed : (c.renamed ρ).keys.isEmpty = c.keys.isEmpty := by
    rw [renames.keys.isEmpty_eq,List.isEmpty_map]
  rw [rowsSplit,rowsSplit,unsplit,too,alike.sort,alike.limit,keyed,here,there]
  simp only [Option.isSome_none,Bool.false_eq_true,if_false]
  cases q.sort.isSome || q.limit.isSome with
  | true => exact .error
  | false =>
      cases c.keys.isEmpty with
      | true => exact .error
      | false =>
          refine (keys_together renames unshadowed).bind fun s next both => .ok ?_
          obtain ⟨declared,again⟩ := both
          have scopes := keys_alike renames unshadowed declared again
          have used (name : String) : name ∈ sortedNames (c.dataName :: next.datasets) ↔
              name ∈ ((c.renamed ρ).scope dataset).datasets := by
            rw [mem_sortedNames,List.mem_cons,again.datasets]
            exact or_iff_right_of_imp (· ▸ (c.renamed ρ).dataName_used)
          refine ⟨⟨scopes.dataset,fun name old => ?_,scopes.names,scopes.moved⟩,fun name read => ?_,
            rfl,rfl,alike.sort,rfl⟩
          · simp only [mem_sortedNames,List.mem_cons]
            exact or_congr_right (scopes.datasets name old)
          · exact overlooked_alike renames unshadowed declared again _ used read

theorem chain_together : Together (RowsAlike (c.lastName ρ) (c.newNames ρ) (some c.dataName) [])
    (c.expr.chainSteps.foldlM (rowsStep root) { scope := c.scope dataset })
    ((c.renamed ρ).expr.chainSteps.foldlM (rowsStep root)
      { scope := (c.renamed ρ).scope dataset }) := by
  have avoid := renames.avoid
  rw [steps_expr] at avoid ⊢
  obtain ⟨early,rest⟩ := List.forall_mem_append.mp avoid
  obtain ⟨-,late⟩ := List.forall_mem_cons.mp rest
  have unsplit : Step.Unsplit c.operand.chainSteps := by
    simpa [Expr.hasSplit,Step.Unsplit] using c.unsplit
  have start : RowsAlike id (c.newNames ρ) none c.operand.chainSteps
      { scope := c.scope dataset } { scope := (c.renamed ρ).scope dataset } :=
    ⟨scopes_alike renames unshadowed,fun name read => (overlooked_moved read rfl).elim,rfl,rfl,rfl,rfl⟩
  have before := steps_together root start early fun step listed split => by
    rw [unsplit step listed] at split
    cases split
  rw [(renamedSteps_id _).1,(renamedSteps_id _).2] at before
  rw [steps_expr,List.foldlM_append,List.foldlM_append]
  refine before.reached.bind fun q other both => ?_
  obtain ⟨alike,ran,also⟩ := both
  rw [List.foldlM_cons,List.foldlM_cons]
  refine (split_together renames unshadowed alike (unsplit_scope ran unsplit).1
    (unsplit_scope also unsplit).1).bind fun _ _ alike => ?_
  exact steps_together root alike late fun _ _ _ => rfl

end Fold

end SplitChain

theorem patterns_together {e other : Expr}
    (same : ∀ pattern, pattern ∈ other.patterns ↔ pattern ∈ e.patterns) :
    Together (fun _ _ => True) (validatePatterns e) (validatePatterns other) := by
  refine .of_results ?_ fun _ _ _ _ => trivial
  have valid (e : Expr) : (∃ u, validatePatterns e = .ok u) ↔
      ∀ pattern ∈ e.patterns, Regex.isWellFormed pattern = true :=
    ⟨fun ⟨_,ran⟩ => validatePatterns_ok.mp ran,fun good => ⟨(),validatePatterns_ok.mpr good⟩⟩
  rw [valid,valid]
  simp only [same]

namespace SplitChain

theorem expr_chain (c : SplitChain) : c.expr.isDatasetOp = true :=
  Expr.hasSplit_chain (List.any_eq_true.mpr ⟨_,c.split_mem,rfl⟩)

theorem fold_together {c : SplitChain} {ρ : String → String} {dataset : Dataset}
    (renames : c.Renaming ρ) (unshadowed : Unshadowed dataset c ρ) :
    Together (fun folded other => ∀ name, name ∉ c.newNames ρ →
        other.types.get? (c.lastName ρ name) = folded.types.get? name)
      (fold dataset c.expr) (fold dataset (c.renamed ρ).expr) := by
  have base : (c.renamed ρ).expr.chainBase = c.expr.chainBase := by
    rw [base_expr,base_expr]
    rfl
  refine (patterns_together renames.uses.patterns).bind fun _ _ _ => ?_
  dsimp only
  rw [expr_chain,expr_chain,base]
  simp only [Bool.not_true,Bool.false_eq_true,if_false]
  cases c.expr.chainBase with
  | ref root =>
      exact (chain_together renames unshadowed).bind fun q other alike => .ok alike.scope.names
  | ply =>
      have fails (c : SplitChain) {scope : Scope} {folded : FoldedQuery} :
          Fold.totals scope c.expr.chainSteps ≠ .ok folded := fun ran =>
        nomatch totals_unsplit ran _ c.split_mem
      exact .of_results ⟨fun ⟨_,ran⟩ => (fails c ran).elim,fun ⟨_,ran⟩ => (fails _ ran).elim⟩
        fun _ _ ran _ => (fails c ran).elim
  | _ => exact .error

theorem folded_declares {c : SplitChain} {dataset : Dataset} {folded : FoldedQuery}
    (ran : fold dataset c.expr = .ok folded) : ∀ step ∈ c.expr.chainSteps,
      ∀ name ∈ step.declares, (folded.types.get? name).isSome = true := by
  rcases fold_cases ran with ⟨single,-⟩ | ⟨-,-,totals⟩ | ⟨-,root,-,rows⟩
  · rw [expr_chain] at single
    cases single
  · exact nomatch totals_unsplit totals _ c.split_mem
  · obtain ⟨q,run,rfl⟩ := Fold.rows_parts rows
    exact steps_present run

end SplitChain

-- A chain folds under other names of its keys exactly if it folds, and every key and every apply
-- has the type that it had, where no key hides what another key or an aggregate reads.
theorem renamed_keys_typed {dataset : Dataset} {c : SplitChain} {ρ : String → String}
    (renames : c.Renaming ρ) (unshadowed : SplitChain.Unshadowed dataset c ρ) :
    ((∃ folded, fold dataset c.expr = .ok folded) ↔
      ∃ folded, fold dataset (c.renamed ρ).expr = .ok folded) ∧
    ∀ folded other, fold dataset c.expr = .ok folded → fold dataset (c.renamed ρ).expr = .ok other →
      (∀ key ∈ c.keys, (∀ x, .apply key.1 x ∉ c.after) → ∃ type,
        folded.types.get? key.1 = some type ∧ other.types.get? (ρ key.1) = some type) ∧
      ∀ name x, .apply name x ∈ c.after → ∃ type,
        folded.types.get? name = some type ∧ other.types.get? name = some type := by
  have both := SplitChain.fold_together renames unshadowed
  refine ⟨both.succeeds,fun folded other ran also => ?_⟩
  have same := both.results ran also
  have avoid := renames.avoid
  have declares := SplitChain.folded_declares ran
  rw [SplitChain.steps_expr] at avoid declares
  obtain ⟨-,split,after⟩ := (List.forall_mem_append.trans (and_congr_right' List.forall_mem_cons)).mp avoid
  obtain ⟨-,keys,applies⟩ :=
    (List.forall_mem_append.trans (and_congr_right' List.forall_mem_cons)).mp declares
  refine ⟨fun key listed free => ?_,fun name x applied => ?_⟩
  · have known : key.1 ∈ c.keyNames := List.mem_map_of_mem listed
    obtain ⟨type,typed⟩ := Option.isSome_iff_exists.mp (keys key.1 known)
    have renamed := same key.1 (split.declares key.1 known)
    rw [SplitChain.lastName,name_kept free,SplitChain.onKeys,if_pos known] at renamed
    exact ⟨type,typed,renamed.trans typed⟩
  · obtain ⟨type,typed⟩ := Option.isSome_iff_exists.mp (applies _ applied name List.mem_cons_self)
    have renamed := same name ((after _ applied).declares name List.mem_cons_self)
    rw [SplitChain.lastName,name_taken applied] at renamed
    exact ⟨type,typed,renamed.trans typed⟩

namespace Paints

def paints : Dataset :=
  { engine := .postgres,source := "paints"
    attributes := [{ name := "color",type := .string },{ name := "open",type := .boolean },
      { name := "price",type := .number }] }

def total : Step :=
  .apply "Total" (.sum (.ref "data") (.ref "price"))

def ranges : SplitChain where
  operand := .ref "data"
  keys := [("color",.ref "color"),("price",.numberBucket (.ref "price") 10.0 0.0)]
  dataName := "data"
  after := [total,.sort (.ref "price") .ascending]
  unsplit := rfl
  ordered := by decide

def inRange (name : String) : String :=
  if name = "price" then "Range" else name

theorem ranges_renamed : ∃ folded other, fold paints ranges.expr = .ok folded ∧
    fold paints (ranges.renamed inRange).expr = .ok other ∧
    ∃ type, folded.types.get? "price" = some type ∧ other.types.get? "Range" = some type := by
  have renames : ranges.Renaming inRange := ⟨by decide +kernel,by decide +kernel⟩
  have columns : ∀ key ∈ ranges.keys, ((ranges.scope paints).infer key.2).toOption
      = (ranges.scope paints).resolve key.1 := by decide +kernel
  have unshadowed : SplitChain.Unshadowed paints ranges inRange := by
    refine ⟨fun key listed _ type typed => ?_,by decide +kernel⟩
    rw [← columns key listed,typed]
    rfl
  obtain ⟨both,typed⟩ := renamed_keys_typed renames unshadowed
  have folds : (fold paints ranges.expr).isOk = true := by decide +kernel
  obtain ⟨folded,ran⟩ : ∃ folded, fold paints ranges.expr = .ok folded := by
    cases ran : fold paints ranges.expr with
    | ok folded => exact ⟨folded,rfl⟩
    | error e => rw [ran] at folds; cases folds
  obtain ⟨other,also⟩ := both.mp ⟨folded,ran⟩
  have keys := (typed folded other ran also).1
  have same := keys ("price",.numberBucket (.ref "price") 10.0 0.0) (by simp [ranges])
    (by simp [ranges,total])
  exact ⟨folded,other,ran,also,same⟩

def shades : SplitChain where
  operand := .ref "data"
  keys := [("price",.ref "color")]
  dataName := "data"
  after := [total]
  unsplit := rfl
  ordered := by decide

def swapped : SplitChain where
  operand := .ref "data"
  keys := [("color",.ref "price"),("shade",.ref "color")]
  dataName := "data"
  after := []
  unsplit := rfl
  ordered := by decide

-- A key without a type that is used like a dataset later.
def opened : SplitChain where
  operand := .filter (.ref "data") (.ref "open")
  keys := [("open",.literal .null)]
  dataName := "data"
  after := [.apply "rows" (.filter (.ref "open") (.bool true))]
  unsplit := rfl
  ordered := by decide

def anew (name : String) : String :=
  name ++ "_key"

def types (c : SplitChain) : Option (Table DataType) :=
  (fold paints c.expr).toOption.map (·.types)

-- A sum is refused for the name of a key, a key has the type of another one, and a filter is
-- refused for a key.
theorem key_names_matter :
    shades.Renaming anew ∧ types shades = none ∧
      types (shades.renamed anew) = some [("Total",.number),("price_key",.string)] ∧
    swapped.Renaming anew ∧ types swapped = some [("color",.number),("shade",.number)] ∧
      types (swapped.renamed anew) = some [("color_key",.number),("shade_key",.string)] ∧
    opened.Renaming anew ∧ types opened = none ∧
      types (opened.renamed anew) = some [("open_key",.null),("rows",.dataset)] := by
  have anew_fresh : shades.Renaming anew ∧ swapped.Renaming anew ∧ opened.Renaming anew :=
    ⟨⟨by decide +kernel,by decide +kernel⟩,⟨by decide +kernel,by decide +kernel⟩,
      ⟨by decide +kernel,by decide +kernel⟩⟩
  exact ⟨anew_fresh.1,by decide +kernel,by decide +kernel,anew_fresh.2.1,by decide +kernel,
    by decide +kernel,anew_fresh.2.2,by decide +kernel,by decide +kernel⟩

end Paints

end OlapQuery
