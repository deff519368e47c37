import OlapQuery.Proofs.Chain
import OlapQuery.Proofs.ScopedTypes

-- Chains with one split, and the same chains with other names for the keys. Later steps refer to
-- the keys by the new names; inside of aggregates and in the keys a name means what it did.

namespace OlapQuery

namespace Step

def parts : Step → List Expr
  | .filter condition => [condition]
  | .split keys _ => keys.map (·.2)
  | .apply _ x => [x]
  | .sort key _ => [key]
  | .limit _ => []

def declares : Step → List String
  | .split keys _ => keys.map (·.1)
  | .apply name _ => [name]
  | _ => []

-- The step with other names for the keys that it refers to. A split inside the rows does not
-- refer to them.
def renamed (σ : String → String) : Step → Step
  | .filter condition => .filter (condition.renamed σ)
  | .apply name x => .apply name (if x.hasSplit then x else x.renamed σ)
  | .sort key direction => .sort (key.renamed σ) direction
  | .split keys dataName => .split keys dataName
  | .limit count => .limit count

-- An apply takes its name, also from a key.
def namesAfter (σ : String → String) : Step → String → String
  | .apply name _ => Function.update σ name name
  | _ => σ

-- The names that aggregates of the step read.
def inside : Step → List String
  | .filter condition => condition.namesInside
  | .apply _ x => if x.hasSplit then [] else x.namesInside
  | _ => []

end Step

def renamedSteps (σ : String → String) : List Step → List Step
  | [] => []
  | step :: rest => step.renamed σ :: renamedSteps (step.namesAfter σ) rest

-- The names that aggregates read and that are other names after the renames.
def overlooked (σ : String → String) : List Step → List String
  | [] => []
  | step :: rest =>
      step.inside.filter (fun name => σ name != name) ++ overlooked (step.namesAfter σ) rest

namespace Expr

-- The names that one node gives or refers to.
def ownNames : Expr → List String
  | .ref name => [name]
  | .apply _ name _ => [name]
  | .split _ keys dataName => dataName :: keys.map (·.1)
  | _ => []

def namesUsed (e : Expr) : List String :=
  e.nodes.flatMap ownNames

def taking (e : Expr) (steps : List Step) : Expr :=
  steps.foldl (fun e step => step.after e) e

theorem chainSteps_taking (e : Expr) (steps : List Step) :
    (e.taking steps).chainSteps = e.chainSteps ++ steps := by
  induction steps generalizing e with
  | nil => exact (List.append_nil _).symm
  | cons step rest ih => rw [taking,List.foldl_cons,← taking,ih,chainSteps_after,List.append_assoc]; rfl

theorem chainBase_taking (e : Expr) (steps : List Step) :
    (e.taking steps).chainBase = e.chainBase := by
  induction steps generalizing e with
  | nil => rfl
  | cons step rest ih => rw [taking,List.foldl_cons,← taking,ih,chainBase_after]

theorem nodes_after (step : Step) (e : Expr) :
    (step.after e).nodes = step.after e :: (e.nodes ++ step.parts.flatMap nodes) := by
  cases step <;> simp [Step.after,Step.parts,nodes,List.flatMap_map]

end Expr

structure SplitChain where
  operand : Expr
  keys : List (String × Expr)
  dataName : String
  after : List Step
  unsplit : operand.hasSplit = false
  ordered : Table.Ordered keys

namespace SplitChain

def expr (c : SplitChain) : Expr :=
  (Expr.split c.operand c.keys c.dataName).taking c.after

def keyNames (c : SplitChain) : List String :=
  c.keys.map (·.1)

-- What references outside of aggregates become.
def onKeys (c : SplitChain) (ρ : String → String) (name : String) : String :=
  if name ∈ c.keyNames then ρ name else name

-- The chain with other names for its keys.
def renamed (c : SplitChain) (ρ : String → String) : SplitChain where
  operand := c.operand
  keys := Table.ofList (c.keys.map fun key => (ρ key.1,key.2))
  dataName := c.dataName
  after := renamedSteps (c.onKeys ρ) c.after
  unsplit := c.unsplit
  ordered := Table.ofList_ordered _

-- No two keys get one name, and the new names are in no use.
structure Renaming (c : SplitChain) (ρ : String → String) : Prop where
  injective : ∀ k ∈ c.keyNames, ∀ l ∈ c.keyNames, ρ k = ρ l → k = l
  fresh : ∀ k ∈ c.keyNames, ρ k ≠ k → ρ k ∉ c.expr.namesUsed

-- Where names stand for datasets and columns only.
def scope (c : SplitChain) (dataset : Dataset) : Scope :=
  { dataset,datasets := c.expr.datasets }

-- No key is a trap. One whose name is read by another key or, under the old name, by an aggregate
-- has the type that the name has without it; and none is used as a dataset without being one.
structure Unshadowed (dataset : Dataset) (c : SplitChain) (ρ : String → String) : Prop where
  keys : ∀ key ∈ c.keys, (∃ other ∈ c.keys, other.1 ≠ key.1 ∧ Expr.Mentions key.1 other.2) ∨
    key.1 ∈ overlooked (c.onKeys ρ) c.after →
      ∀ type, (c.scope dataset).infer key.2 = .ok type → (c.scope dataset).resolve key.1 = some type
  datasets : ∀ key ∈ c.keys, key.1 ∈ c.expr.datasets → key.1 ∈ (c.renamed ρ).expr.datasets

end SplitChain

section Names

-- A step that neither has nor refers to any of the names.
structure Step.Avoids (new : List String) (step : Step) : Prop where
  parts : ∀ x ∈ step.parts, ∀ name, Expr.Mentions name x → name ∉ new
  declares : ∀ name ∈ step.declares, name ∉ new

namespace Expr

theorem mentions_used {name : String} {e : Expr} (mentioned : Mentions name e) :
    name ∈ e.namesUsed :=
  List.mem_flatMap.mpr ⟨_,mentioned,List.mem_singleton_self name⟩

theorem namesUsed_after (step : Step) (e : Expr) : (step.after e).namesUsed
    = (step.after e).ownNames ++ (e.namesUsed ++ step.parts.flatMap namesUsed) := by
  rw [namesUsed,nodes_after,List.flatMap_cons,List.flatMap_append,List.flatMap_assoc]
  rfl

theorem steps_avoid {e : Expr} {new : List String} (unused : ∀ name ∈ e.namesUsed, name ∉ new) :
    ∀ step ∈ e.chainSteps, step.Avoids new := by
  induction e using chain_induction with
  | base e isBase => rw [isBase.steps]; nofun
  | step step e ih =>
      rw [namesUsed_after] at unused
      obtain ⟨own,others⟩ := List.forall_mem_append.mp unused
      obtain ⟨before,parts⟩ := List.forall_mem_append.mp others
      rw [chainSteps_after]
      refine List.forall_mem_append.mpr ⟨ih before,fun last listed => ?_⟩
      cases List.mem_singleton.mp listed
      refine ⟨fun x part name mentioned => parts name ?_,fun name declared => own name ?_⟩
      · exact List.mem_flatMap.mpr ⟨x,part,mentions_used mentioned⟩
      · cases step with
        | split keys dataName => exact List.mem_cons_of_mem _ declared
        | apply other x => exact declared
        | _ => cases declared

-- The names used as datasets, each time that they are used.
def datasetUses (e : Expr) : List String :=
  e.nodes.flatMap datasetNames

theorem mem_datasets (name : String) (e : Expr) : name ∈ e.datasets ↔ name ∈ e.datasetUses :=
  mem_sortedNames _ _

end Expr

def Step.partNames : Step → List String
  | .split _ dataName => [dataName]
  | _ => []

namespace Expr

theorem datasetUses_after (step : Step) (e : Expr) : (step.after e).datasetUses
    = e.refName?.toList ++ step.partNames ++ (e.datasetUses ++ step.parts.flatMap datasetUses) := by
  have own : (step.after e).datasetNames = e.refName?.toList ++ step.partNames := by
    cases step <;> rfl
  rw [datasetUses,nodes_after,List.flatMap_cons,List.flatMap_append,List.flatMap_assoc,own]
  rfl

theorem datasetUses_taking {name : String} {e : Expr} (used : name ∈ e.datasetUses)
    (steps : List Step) : name ∈ (e.taking steps).datasetUses := by
  induction steps generalizing e with
  | nil => exact used
  | cons step rest ih =>
      refine ih ?_
      rw [datasetUses_after]
      exact List.mem_append_right _ (List.mem_append_left _ used)

def patterns (e : Expr) : List String :=
  e.nodes.filterMap pattern?

theorem patterns_after (step : Step) (e : Expr) :
    (step.after e).patterns = e.patterns ++ step.parts.flatMap patterns := by
  have own : (step.after e).pattern? = none := by cases step <;> rfl
  rw [patterns,nodes_after,List.filterMap_cons,own,List.filterMap_append,List.filterMap_flatMap]
  rfl

end Expr

theorem validatePatterns_ok {e : Expr} :
    validatePatterns e = .ok () ↔ ∀ pattern ∈ e.patterns, Regex.isWellFormed pattern = true := by
  unfold validatePatterns
  split
  · rename_i pattern found
    have bad := List.find?_some found
    refine ⟨nofun,fun good => ?_⟩
    rw [good pattern (List.mem_of_find?_eq_some found)] at bad
    cases bad
  · rename_i none
    have good := List.find?_eq_none.mp none
    exact ⟨fun _ pattern listed => by simpa using good pattern listed,fun _ => rfl⟩

end Names

section Uses

variable {moved new : List String}

-- But for names that were moved and the new ones, the same names are listed.
def SameBut (moved new before after : List String) : Prop :=
  ∀ name, name ∉ new → (name ∈ after → name ∈ before) ∧ (name ∈ before → name ∉ moved → name ∈ after)

theorem SameBut.self (names : List String) : SameBut moved new names names :=
  fun _ _ => ⟨id,fun listed _ => listed⟩

theorem SameBut.append {before after early late : List String} (first : SameBut moved new before after)
    (second : SameBut moved new early late) : SameBut moved new (before ++ early) (after ++ late) := by
  intro name old
  obtain ⟨back,forth⟩ := first name old
  obtain ⟨again,further⟩ := second name old
  simp only [List.mem_append]
  exact ⟨Or.imp back again,fun listed still => listed.imp (forth · still) (further · still)⟩

-- The renaming moves no other names, and no name elsewhere.
def Moves (moved new : List String) (σ : String → String) : Prop :=
  ∀ name, σ name ≠ name → name ∈ moved ∧ σ name ∈ new

theorem Moves.namesAfter {σ : String → String} (moves : Moves moved new σ) (step : Step) :
    Moves moved new (step.namesAfter σ) := by
  cases step with
  | apply name x =>
      intro other changed
      have apart : other ≠ name := by
        rintro rfl
        exact changed (Function.update_self _ _ _)
      simp only [Step.namesAfter,Function.update_of_ne apart] at changed ⊢
      exact moves other changed
  | _ => exact moves

theorem Moves.sameBut {σ : String → String} (moves : Moves moved new σ) {before after : List String}
    (each : List.Forall₂ (fun name other => other = name ∨ other = σ name) before after) :
    SameBut moved new before after := by
  have single {name other : String} (image : other = name ∨ other = σ name) :
      SameBut moved new [name] [other] := by
    intro listed old
    by_cases still : σ name = name
    · have same : other = name := image.elim id (·.trans still)
      rw [same]
      exact ⟨id,fun found _ => found⟩
    · obtain ⟨known,fresh⟩ := moves name still
      refine ⟨fun found => ?_,fun found unmoved => ?_⟩
      · cases List.mem_singleton.mp found
        rcases image with rfl | rfl
        · exact found
        · exact (old fresh).elim
      · cases List.mem_singleton.mp found
        exact (unmoved known).elim
  induction each with
  | nil => exact .self _
  | cons first rest ih => exact (single first).append ih

-- An expression whose names are used as in another one, but for the moved ones.
structure Uses (moved new : List String) (e other : Expr) : Prop where
  datasets : SameBut moved new e.datasetUses other.datasetUses
  patterns : ∀ pattern, pattern ∈ other.patterns ↔ pattern ∈ e.patterns

theorem Uses.self (e : Expr) : Uses moved new e e :=
  ⟨.self _,fun _ => .rfl⟩

theorem Uses.renamed {σ : String → String} (moves : Moves moved new σ) (e : Expr) :
    Uses moved new e (e.renamed σ) :=
  ⟨moves.sameBut (Expr.datasetNames_renamed σ e),fun pattern => by
    rw [Expr.patterns,Expr.patterns_renamed]
    rfl⟩

-- The same for the names and patterns of several expressions.
structure UsesAll (moved new : List String) (es others : List Expr) : Prop where
  datasets : SameBut moved new (es.flatMap Expr.datasetUses) (others.flatMap Expr.datasetUses)
  patterns : ∀ pattern, pattern ∈ others.flatMap Expr.patterns ↔ pattern ∈ es.flatMap Expr.patterns

theorem Uses.all {es others : List Expr} (each : List.Forall₂ (Uses moved new) es others) :
    UsesAll moved new es others := by
  induction each with
  | nil => exact ⟨.self _,fun _ => .rfl⟩
  | cons first rest ih =>
      refine ⟨first.datasets.append ih.datasets,fun pattern => ?_⟩
      rw [List.flatMap_cons,List.flatMap_cons,List.mem_append,List.mem_append,first.patterns,
        ih.patterns]

theorem UsesAll.of_perm {es others : List Expr} (same : others.Perm es) :
    UsesAll moved new es others := by
  refine ⟨fun name _ => ?_,fun pattern => (same.flatMap_right _).mem_iff⟩
  rw [(same.flatMap_right _).mem_iff]
  exact ⟨id,fun listed _ => listed⟩

theorem parts_renamed {σ : String → String} (moves : Moves moved new σ) (step : Step) :
    UsesAll moved new step.parts (step.renamed σ).parts := by
  refine Uses.all ?_
  cases step with
  | filter condition => exact .cons (.renamed moves condition) .nil
  | split keys dataName => exact List.forall₂_same.mpr fun x _ => .self x
  | apply name x =>
      refine .cons ?_ .nil
      split
      · exact .self x
      · exact .renamed moves x
  | sort key direction => exact .cons (.renamed moves key) .nil
  | limit count => exact .nil

theorem Uses.after {e other : Expr} (before : Uses moved new e other)
    (root : other.refName? = e.refName?) {step last : Step} (names : last.partNames = step.partNames)
    (parts : UsesAll moved new step.parts last.parts) :
    Uses moved new (step.after e) (last.after other) := by
  refine ⟨?_,fun pattern => ?_⟩
  · rw [Expr.datasetUses_after,Expr.datasetUses_after,root,names]
    exact (SameBut.self _).append (before.datasets.append parts.datasets)
  · rw [Expr.patterns_after,Expr.patterns_after,List.mem_append,List.mem_append,before.patterns,
      parts.patterns]

theorem Uses.taking {e other : Expr} {σ : String → String} {steps : List Step}
    (before : Uses moved new e other) (root : other.refName? = e.refName?)
    (moves : Moves moved new σ) :
    Uses moved new (e.taking steps) (other.taking (renamedSteps σ steps)) := by
  induction steps generalizing e other σ with
  | nil => exact before
  | cons step rest ih =>
      have names : (step.renamed σ).partNames = step.partNames := by cases step <;> rfl
      have unnamed : ((step.renamed σ).after other).refName? = (step.after e).refName? := by
        cases step <;> rfl
      exact ih (before.after root names (parts_renamed moves step)) unnamed (moves.namesAfter step)

end Uses

namespace SplitChain

theorem steps_expr (c : SplitChain) :
    c.expr.chainSteps = c.operand.chainSteps ++ .split c.keys c.dataName :: c.after := by
  rw [expr,Expr.chainSteps_taking,Expr.chainSteps,List.append_assoc]
  rfl

theorem split_mem (c : SplitChain) : Step.split c.keys c.dataName ∈ c.expr.chainSteps := by
  rw [steps_expr]
  exact List.mem_append_right _ List.mem_cons_self

theorem dataName_used (c : SplitChain) : c.dataName ∈ c.expr.datasets := by
  refine (Expr.mem_datasets _ _).mpr (Expr.datasetUses_taking ?_ c.after)
  exact List.mem_flatMap.mpr ⟨_,List.mem_cons_self,List.mem_append_right _ (List.mem_singleton_self _)⟩

theorem base_expr (c : SplitChain) : c.expr.chainBase = c.operand.chainBase := by
  rw [expr,Expr.chainBase_taking,Expr.chainBase]

variable {c : SplitChain} {ρ : String → String}

def newNames (c : SplitChain) (ρ : String → String) : List String :=
  (c.keyNames.filter fun k => ρ k != k).map ρ

theorem mem_newNames {name : String} :
    name ∈ c.newNames ρ ↔ ∃ k ∈ c.keyNames, ρ k ≠ k ∧ ρ k = name := by
  simp [newNames,and_assoc]

theorem onKeys_moves (c : SplitChain) (ρ : String → String) :
    Moves c.keyNames (c.newNames ρ) (c.onKeys ρ) := by
  intro name changed
  unfold onKeys at changed ⊢
  split at changed
  · rename_i known
    rw [if_pos known]
    exact ⟨known,mem_newNames.mpr ⟨name,known,changed,rfl⟩⟩
  · exact (changed rfl).elim

theorem keyNames_distinct (c : SplitChain) : c.keyNames.Nodup :=
  c.ordered.distinct

theorem Renaming.distinct (renames : c.Renaming ρ) :
    ((c.keys.map fun key => (ρ key.1,key.2)).map (·.1)).Nodup := by
  rw [List.map_map]
  have same : (c.keys.map fun key => ρ key.1) = c.keyNames.map ρ := by
    rw [keyNames,List.map_map]
    rfl
  have mapped := c.keyNames_distinct.map_on renames.injective
  rw [← same] at mapped
  exact mapped

theorem Renaming.keys (renames : c.Renaming ρ) :
    (c.renamed ρ).keys.Perm (c.keys.map fun key => (ρ key.1,key.2)) :=
  Table.ofList_perm renames.distinct

theorem Renaming.unused (renames : c.Renaming ρ) :
    ∀ name ∈ c.expr.namesUsed, name ∉ c.newNames ρ := by
  intro name used fresh
  obtain ⟨k,known,changed,rfl⟩ := mem_newNames.mp fresh
  exact renames.fresh k known changed used

theorem Renaming.uses (renames : c.Renaming ρ) :
    Uses c.keyNames (c.newNames ρ) c.expr (c.renamed ρ).expr := by
  have parts : ((c.renamed ρ).keys.map (·.2)).Perm (c.keys.map (·.2)) := by
    have mapped := renames.keys.map (·.2)
    rwa [List.map_map] at mapped
  have split : Uses c.keyNames (c.newNames ρ) ((Step.split c.keys c.dataName).after c.operand)
      ((Step.split (c.renamed ρ).keys c.dataName).after c.operand) :=
    (Uses.self _).after rfl rfl (.of_perm parts)
  exact split.taking rfl (c.onKeys_moves ρ)

end SplitChain

end OlapQuery
