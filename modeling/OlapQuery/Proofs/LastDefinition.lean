import OlapQuery.Proofs.Collection
import OlapQuery.Proofs.Hoisting
import OlapQuery.Proofs.NestedRows

-- What a name stands for when a chain defines it several times. A query has the last definition
-- in the place of the first, so a name in an apply stands for the last definition of that name,
-- whether that was written before the apply or after it.

namespace OlapQuery

open OlapQuery.Expr

theorem Expr.namesOutside_collapse (dataName : String) (common : List Expr) (e : Expr)
    (name : String) :
    name ∈ (e.collapseAggregates dataName common).namesOutside ↔ name ∈ e.namesOutside := by
  obtain ⟨images,each,-,names⟩ := (mapAggregates_upTo (collapseAggregate dataName common) e).brought
  simp only [List.flatMap_singleton] at each names
  have none : images.flatMap namesOutside = [] := by
    refine List.flatMap_eq_nil_iff.mpr fun b member => ?_
    obtain ⟨a,found,rfl⟩ := related_source each member
    apply namesOutside_aggregate
    rw [collapseAggregate,isAggregate_withAggregateOperand]
    exact (aggregates_nodes found).2
  rw [collapseAggregates,names name,none]
  simp

theorem Expr.expanded_closed {a expansion : Expr} (expands : a.expandAggregate? = some expansion) :
    expansion.namesOutside = [] := by
  unfold expandAggregate? at expands
  split at expands
  · cases expands
    simp [namesOutside,BinaryOp.isAggregate,UnaryOp.isAggregate]
  · split at expands
    · cases expands; simp [namesOutside,BinaryOp.isAggregate]
    · cases expands
  · split at expands
    · cases expands; simp [namesOutside,BinaryOp.isAggregate]
    · cases expands
  · cases expands

theorem Written.Defines.closed {resolve : List Step → String → Compiled (String × List Expr)}
    {dataName : String} {common : List Expr} {w : Written} {a : Apply}
    (defines : w.Defines resolve (collapseAggregates dataName common) a)
    (expanded : a.expanded = true) : a.expression.namesOutside = [] := by
  obtain ⟨resolved,ran,equal⟩ := defines.expression
  obtain ⟨image,mapped,ran⟩ := Compiled.bind_ok.mp ran
  obtain ⟨rfl,flag⟩ := Prod.mk.inj (Compiled.pure_ok.mp ran)
  have outermost : w.expression.isAggregate = true := by
    rw [expanded] at flag
    exact (Bool.and_eq_true_iff.mp flag).1
  rw [mapAggregatesM_aggregate outermost] at mapped
  obtain ⟨_,_,_,_,normal,-,-,aggregate,-,rfl⟩ := resolveAggregate_parts mapped
  have none : (normal.expandAggregate?.getD normal).namesOutside = [] := by
    cases expands : normal.expandAggregate? with
    | some expansion => exact expanded_closed expands
    | none => exact namesOutside_aggregate aggregate
  rw [equal]
  refine List.eq_nil_iff_forall_not_mem.mpr fun name outside => ?_
  rw [namesOutside_collapse,none] at outside
  cases outside

namespace Sql

def withKeys (keys : List (String × Expr)) (e : Expr) : Expr :=
  e.replaceOutside fun name => keys.lookup name

-- What the columns of a query need for the names in them to stand for earlier applies and keys:
-- a name of an apply is that of an earlier one, no aggregate mentions one, and keys are made of
-- columns.
structure InOrder (q : FoldedQuery) : Prop where
  ordered : ∀ before a after, q.applies = before ++ a :: after →
    ∀ name ∈ a.expression.namesOutside, name ∈ before.map (·.name) ∨ name ∉ q.applies.map (·.name)
  apart : NamesApart q
  columns : ∀ key ∈ q.splitKeys, ∀ name ∈ key.2.namesOutside, name ∉ q.applies.map (·.name) ∧
    ∀ other ∈ q.splitKeys, other.1 = name → other.2 = .ref name

section
variable {q : FoldedQuery} (inOrder : InOrder q)
include inOrder

theorem expansions_free {before after : List Apply} (place : q.applies = before ++ after) :
    ∀ d ∈ expansions before, ∀ name ∈ d.2.namesOutside, name ∉ q.applies.map (·.name) := by
  induction before using List.reverseRecOn generalizing after with
  | nil => intro d member; cases member
  | append_singleton before a ih =>
      have position : q.applies = before ++ a :: after := by simpa using place
      have earlier := ih position
      rw [expansions_append]
      refine List.forall_mem_append.mpr ⟨earlier,List.forall_mem_singleton.mpr ?_⟩
      intro name outside
      obtain ⟨other,own,inside⟩ := (namesOutside_replaceOutside _ _ _).mp outside
      cases found : expansion? before other with
      | some e =>
          rw [found] at inside
          obtain ⟨early,late,whole,-⟩ := List.lookup_eq_some_iff.mp found
          exact earlier (other,e) (by simp [whole]) name inside
      | none =>
          rw [found] at inside
          cases List.mem_singleton.mp inside
          exact (inOrder.ordered before a after position name own).resolve_left
            (expansion_unknown.mp found)

theorem columns_settled {before after : List Apply} (place : q.applies = before ++ after)
    {d : String × Expr}
    (defined : d ∈ (expansions before).map (fun d => (d.1,withKeys q.splitKeys d.2)) ++ q.splitKeys)
    {name : String} (outside : name ∈ d.2.namesOutside) :
    name ∉ q.applies.map (·.name) ∧
      ∀ other ∈ q.splitKeys, other.1 = name → other.2 = .ref name := by
  rcases List.mem_append.mp defined with early | key
  · obtain ⟨d,member,rfl⟩ := List.mem_map.mp early
    obtain ⟨other,own,inside⟩ := (namesOutside_replaceOutside _ _ _).mp outside
    cases found : q.splitKeys.lookup other with
    | some e =>
        rw [found] at inside
        obtain ⟨before,after,whole,-⟩ := List.lookup_eq_some_iff.mp found
        exact inOrder.columns (other,e) (by simp [whole]) name inside
    | none =>
        rw [found] at inside
        cases List.mem_singleton.mp inside
        refine ⟨expansions_free inOrder place d member name own,fun key listed same => ?_⟩
        exact absurd (same ▸ List.mem_map_of_mem listed) (lookup_unknown.mp found)
  · exact inOrder.columns d key name outside

-- The columns of the query are the applies with all names in them written out.
theorem inlineApplies_expansions (plain : ∀ key ∈ q.splitKeys, key.2.containsAggregate = false)
    {before after : List Apply} (place : q.applies = before ++ after) :
    inlineApplies before q.splitKeys
      = (expansions before).map fun d => (d.1,withKeys q.splitKeys d.2) := by
  induction before using List.reverseRecOn generalizing after with
  | nil => rfl
  | append_singleton before a ih =>
      have position : q.applies = before ++ a :: after := by simpa using place
      have uncaptured := namesApart_uncaptured plain inOrder.apart _ _ (.apply position)
      rw [ih position] at uncaptured
      have settled : ∀ d ∈ (expansions before).map (fun d => (d.1,withKeys q.splitKeys d.2))
            ++ q.splitKeys,
          ∀ name ∈ d.2.namesOutside, ∀ other ∈ (expansions before).map (fun d =>
            (d.1,withKeys q.splitKeys d.2)) ++ q.splitKeys, other.1 = name → other.2 = .ref name := by
        intro d defined name outside other found same
        obtain ⟨noApply,keys⟩ := columns_settled inOrder position defined outside
        rcases List.mem_append.mp found with early | key
        · obtain ⟨e,member,rfl⟩ := List.mem_map.mp early
          refine absurd ?_ noApply
          have named : e.1 ∈ (expansions before).map (·.1) := List.mem_map_of_mem member
          rw [expansions_names] at named
          rw [← same,position,List.map_append]
          exact List.mem_append_left _ named
        · exact keys other key same
      have column : a.expression.replaceOutside (fun name => ((expansions before).map (fun d =>
            (d.1,withKeys q.splitKeys d.2)) ++ q.splitKeys).lookup name)
          = withKeys q.splitKeys (a.expression.replaceOutside (expansion? before)) := by
        rw [withKeys,replaceOutside_twice]
        refine replaceOutside_congr fun name _ => ?_
        rw [List.lookup_append,Table.lookup_map]
        cases found : expansion? before name with
        | none => rw [show (expansions before).lookup name = none from found]; rfl
        | some e => rw [show (expansions before).lookup name = some e from found]; rfl
      rw [inlineApplies_append,ih position,inline_replace settled uncaptured,column,
        expansions_append,List.map_append]
      rfl

end

end Sql

open AggregateSet (collect collect_bare collect_posts collect_restored)

-- The values of a query: each name once, in the place of its first definition and as it was last
-- defined.
structure LastDefined (e : Expr) (folded : FoldedQuery) (definitions : List Apply) : Prop where
  written : ∃ common, List.Forall₂ (Written.Defines (Fold.chainRoots e folded.dataName)
    (collapseAggregates folded.dataName common)) (Fold.chainValues e) definitions
  order : folded.applies.map (·.name) = (definitions.map (·.name)).eraseDups
  last : ∀ name, folded.named? name = definitions.reverse.find? (Apply.isNamed name)

-- What an engine computes under the name of an apply, where a name stands for what is defined
-- under it: columns are written out, and so is arithmetic once its aggregates are put back.
structure ReadAs (q : FoldedQuery) (stands : String → Option Expr) : Prop where
  fixed : ∀ a ∈ q.applies, stands a.name = some (a.expression.replaceOutside stands)
  columns : ∀ a ∈ q.applies, (Sql.inlineApplies q.applies q.splitKeys).lookup a.name
    = (stands a.name).map (Sql.withKeys q.splitKeys)
  aggregates : ∀ a ∈ q.applies, a.expression.isAggregate = true →
    { name := a.name,expression := a.expression,synthetic := false }
      ∈ (collect q.applies).aggregates
  arithmetic : (∀ a ∈ q.applies, isSynthetic a.name = false ∧
      ∀ name ∈ a.expression.namesOutside, isSynthetic name = false) →
    ∀ a ∈ q.applies, a.expression.isAggregate = false →
      ∃ post ∈ (collect q.applies).postAggregates, post.name = a.name ∧ ∃ expansion,
        stands a.name = some expansion ∧
        UpTo Alike expansion (post.expression.replaceOutside fun name =>
          ((collect q.applies).aggregate? name).map (·.expression))

-- A row that is returned against the same row of the level itself: a name that is only given to
-- values is theirs, and a name that was last given to a nested split stands for its rows.
structure Reported (dataset : Dataset) (e : Expr) (level : Level) (own row : Row) : Prop where
  values : ∀ name, (∀ x, Step.apply name x ∈ e.chainSteps → x.hasSplit = false) →
    row.get? name = own.get? name
  nested : ∀ before name x after, e.chainSteps = before ++ .apply name x :: after →
    x.hasSplit = true → (∀ y, Step.apply name y ∉ after) →
    ∃ base rows, Run.RanFor dataset level { name,expression := x.withChainBase base } rows ∧
      row.get? name = some (.arr (rows.map .obj))

theorem fold_lastDefined {dataset : Dataset} {e : Expr} {folded : FoldedQuery}
    (ran : fold dataset e = .ok folded) (chain : e.isDatasetOp = true) :
    ∃ definitions, LastDefined e folded definitions ∧ folded.applies = settle definitions := by
  obtain ⟨common,definitions,settled,each⟩ := Fold.fold_defined ran chain
  refine ⟨definitions,⟨⟨common,each⟩,?_,fun name => ?_⟩,settled⟩
  · rw [settled,settle_names]
  · rw [← settle_find,← settled]; rfl

theorem fold_readAs {dataset : Dataset} {e : Expr} {folded : FoldedQuery}
    (ran : fold dataset e = .ok folded) (chain : e.isDatasetOp = true)
    (inOrder : Sql.InOrder folded) : ReadAs folded (expansion? folded.applies) := by
  obtain ⟨common,definitions,settled,each⟩ := Fold.fold_defined ran chain
  have distinct : (folded.applies.map (·.name)).Nodup := settled ▸ settle_distinct definitions
  have closed : ∀ a ∈ folded.applies, a.expanded = true → a.expression.namesOutside = [] := by
    intro a member
    rw [settled] at member
    obtain ⟨w,-,defines⟩ := related_source each (settle_source member)
    exact defines.closed
  refine ⟨fun a => expansion_fixed distinct inOrder.ordered,?_,fun a => collect_bare,?_⟩
  · intro a member
    have whole : folded.applies = folded.applies ++ [] := by simp
    rw [Sql.inlineApplies_expansions inOrder (fold_plain_keys ran) whole,Table.lookup_map]
    rfl
  · intro unmarked a member plain
    have sequential : Sequential folded.applies := by
      refine ⟨distinct,fun a member => (unmarked a member).1,?_,closed,?_⟩
      · intro before a after place name outside
        have mark := (unmarked a (by simp [place])).2 name outside
        exact (inOrder.ordered before a after place name outside).imp_right fun none => ⟨mark,none⟩
      · intro a member aggregate inside b listed _ mentioned
        exact (inOrder.apart aggregate (.inl ⟨a,member,inside⟩) b.name mentioned).1 b listed rfl
    obtain ⟨post,found,named⟩ := collect_posts sequential member plain
    have restored := collect_restored sequential found
    rw [named] at restored
    exact ⟨post,found,named,restored⟩

theorem forall_split {related : α → β → Prop} {before after : List α} {a : α} {bs : List β}
    (each : List.Forall₂ related (before ++ a :: after) bs) :
    ∃ early b late, bs = early ++ b :: late ∧ related a b ∧ List.Forall₂ related after late := by
  induction before generalizing bs with
  | nil =>
      cases each with
      | cons first rest => exact ⟨[],_,_,rfl,first,rest⟩
  | cons x before ih =>
      cases each with
      | @cons _ y _ ys first rest =>
          obtain ⟨early,b,late,rfl,holds,later⟩ := ih rest
          exact ⟨y :: early,b,late,rfl,holds,later⟩

theorem Step.nested_apply {step : Step} {n : Nested} (found : step.nested? = some n) :
    step = .apply n.name n.expression ∧ n.expression.hasSplit = true := by
  cases step with
  | apply name x =>
      obtain ⟨inner,equal⟩ := Option.ite_none_right_eq_some.mp found
      cases equal
      exact ⟨rfl,inner⟩
  | _ => cases found

theorem rebased_written {steps : List Step} {nested : List Nested} {n : Nested}
    (each : List.Forall₂ Fold.Rebased (steps.filterMap Step.nested?) nested) (member : n ∈ nested) :
    ∃ x, Step.apply n.name x ∈ steps ∧ x.hasSplit = true := by
  obtain ⟨w,listed,rebased⟩ := related_source each member
  obtain ⟨step,found,same⟩ := List.mem_filterMap.mp listed
  obtain ⟨rfl,inner⟩ := Step.nested_apply same
  exact ⟨w.expression,rebased.name ▸ found,inner⟩

theorem filled_reported {dataset : Dataset} {e : Expr} {folded : FoldedQuery} {level : Level}
    {depth : Nat} {own row : Row} (ran : fold dataset e = .ok folded)
    (same : level.nested = folded.nested)
    (filled : Run.Filled dataset depth level level.nested own row) :
    Reported dataset e level own row := by
  have each := Fold.fold_nested ran
  rw [same] at filled
  refine ⟨fun name values => filled.kept fun n member equal => ?_,?_⟩
  · obtain ⟨x,written,inner⟩ := rebased_written each member
    rw [values x (equal ▸ written)] at inner
    cases inner
  · intro before name x after place inner latest
    have split : e.chainSteps.filterMap Step.nested? = before.filterMap Step.nested?
        ++ { name,expression := x } :: after.filterMap Step.nested? := by
      simp [place,Step.nested?,inner]
    rw [split] at each
    obtain ⟨early,n,late,whole,⟨named,base,expression⟩,later⟩ := forall_split each
    rw [whole] at filled
    obtain ⟨rows,ranFor,seen⟩ := filled.seen fun m member equal => by
      obtain ⟨y,written,-⟩ := rebased_written later member
      have same : m.name = name := equal.trans named
      exact latest y (same ▸ written)
    obtain ⟨n,e⟩ := n
    cases named; cases expression
    exact ⟨base,rows,ranFor,seen⟩

-- Definitions read one after the other, the latest first: a name in one of them stands for the
-- latest definition before it.
def readings (definitions : List Apply) : List (String × Expr) :=
  definitions.foldl (fun latest a =>
    (a.name,a.expression.replaceOutside fun name => latest.lookup name) :: latest) []

theorem lookup_reverse {definitions : List (String × Expr)}
    (distinct : (definitions.map (·.1)).Nodup) (name : String) :
    definitions.reverse.lookup name = definitions.lookup name := by
  induction definitions with
  | nil => rfl
  | cons d rest ih =>
      obtain ⟨key,e⟩ := d
      rw [List.map_cons,List.nodup_cons] at distinct
      rw [List.reverse_cons,List.lookup_append,ih distinct.2]
      cases same : name == key with
      | false => simp [List.lookup_cons,same]
      | true =>
          cases beq_iff_eq.mp same
          rw [lookup_unknown.mpr distinct.1]
          simp

-- Without a redefinition, it makes no difference which definition is meant.
theorem readings_expansions {definitions : List Apply}
    (distinct : (definitions.map (·.name)).Nodup) :
    readings definitions = (expansions definitions).reverse := by
  induction definitions using List.reverseRecOn with
  | nil => rfl
  | append_singleton before a ih =>
      rw [List.map_append,List.nodup_append] at distinct
      have step : readings (before ++ [a]) = (a.name,a.expression.replaceOutside
          fun name => (readings before).lookup name) :: readings before := by
        simp [readings,List.foldl_append]
      have keys : ((expansions before).map (·.1)).Nodup := by
        rw [expansions_names]; exact distinct.1
      rw [step,ih distinct.1,expansions_append,List.reverse_append]
      simp only [lookup_reverse keys]
      rfl

theorem settle_self {definitions : List Apply}
    (distinct : (definitions.map (·.name)).Nodup) : settle definitions = definitions := by
  induction definitions using List.reverseRecOn with
  | nil => rfl
  | append_singleton before a ih =>
      rw [List.map_append,List.nodup_append] at distinct
      have fresh : a.name ∉ before.map (·.name) := fun early => distinct.2.2 _ early _ (by simp) rfl
      rw [settle_append,ih distinct.1,pushApply_fresh fresh]

-- Of several definitions of a name the last one is the query's, in the place of the first. Where
-- the names in a definition are those of earlier places, each stands for the last definition
-- under it, in the columns and in the arithmetic that an engine is asked for. In the rows that
-- are returned, a name that was last given to a nested split stands for the rows of that split,
-- and a name that no nested split has for what the engine computed under it.
theorem last_definition_stands {dataset : Dataset} {e : Expr} {folded : FoldedQuery}
    (ran : fold dataset e = .ok folded) (chain : e.isDatasetOp = true) :
    (∃ definitions, LastDefined e folded definitions ∧
      ((definitions.map (·.name)).Nodup → ∀ name,
        expansion? folded.applies name = (readings definitions).lookup name)) ∧
    (Sql.InOrder folded → ReadAs folded (expansion? folded.applies)) ∧
    ∀ answers cancelled outcome rows, execute dataset e answers cancelled = .ok outcome →
      outcome.result = .ok rows →
      ∃ level own u, planLevel dataset e = .ok level ∧
        Outcomes.run.gives (Run.ownRows level) { answers } own u ∧
        List.Forall₂ (Reported dataset e level) own rows := by
  refine ⟨?_,fold_readAs ran chain,?_⟩
  · obtain ⟨definitions,defined,settled⟩ := fold_lastDefined ran chain
    refine ⟨definitions,defined,fun distinct name => ?_⟩
    have keys : ((expansions definitions).map (·.1)).Nodup := by
      rw [expansions_names]; exact distinct
    rw [settled,settle_self distinct,readings_expansions distinct,lookup_reverse keys]
    rfl
  · intro answers cancelled outcome rows executed complete
    obtain ⟨level,own,depth,u,plans,first,each⟩ := execute_rows executed complete
    obtain ⟨other,folds,same⟩ := planLevel_parts plans
    cases ran.symm.trans folds
    exact ⟨level,own,u,plans,first,each.imp fun _ _ filled => filled_reported ran same filled⟩

namespace Redefined
open Pages (edits)

def number : Expr :=
  .count (.ref "data")

def added : Expr :=
  .sum (.ref "data") (.ref "added")

def twice (e : Expr) : Expr :=
  .multiply e (.number 2)

def totals : Expr :=
  .apply (.apply (.apply .ply "Base" number) "Twice" (twice (.ref "Base"))) "Base" added

def definitions : List Apply :=
  [{ name := "Base",expression := number },
    { name := "Twice",expression := twice (.ref "Base") },
    { name := "Base",expression := added }]

def query : FoldedQuery :=
  { mode := .total,dataName := "data",filter := .bool true
    applies := [{ name := "Base",expression := added },
      { name := "Twice",expression := twice (.ref "Base") }]
    types := [("Base",.number),("Twice",.number)] }

theorem query_inOrder : Sql.InOrder query := by
  refine ⟨?_,?_,fun key member => nomatch member⟩
  · intro before a after place
    match before with
    | [] => cases place; simp [added,namesOutside,BinaryOp.isAggregate]
    | [_] => cases place; simp [twice,namesOutside,BinaryOp.isAggregate]
    | _ :: _ :: _ => simp [query] at place
  · intro a original name mentioned
    have only : a = added := by
      rcases original with ⟨p,member,inside⟩ | ⟨h,filtered,-⟩
      · rcases List.mem_cons.mp member with rfl | later
        · exact List.mem_singleton.mp inside
        · cases List.mem_singleton.mp later; cases inside
      · cases filtered
    subst only
    have column : name = "data" ∨ name = "added" := by simpa [added] using mentioned
    refine ⟨fun p member named => ?_,fun key member => nomatch member⟩
    have known : p.name ∈ ["Base","Twice"] := List.mem_map_of_mem member
    rcases column with rfl | rfl <;> simp [named] at known

def report : Expr :=
  .apply (.apply totals "Tenants" (.split (.ref "data") [("Tenant",.ref "tenant")] "data"))
    "Tenants" (.apply (.split (.ref "data") [("Tenant",.ref "tenant")] "data") "Edits" number)

def answers : List Answer :=
  [{ rows := [[("result",.obj [("Base",.int 5),("Twice",.int 10)])]] },
    { rows := [] },
    { rows := [[("event",.obj [("Edits",.int 2),("Tenant",.str "a")])]] }]

theorem redefined_base_stands :
    (fold edits totals = .ok query ∧ query.named? "Base" = definitions.reverse.head? ∧
      ∃ post ∈ (collect query.applies).postAggregates, post.name = "Twice" ∧
        UpTo Alike (twice added) (post.expression.replaceOutside fun name =>
          ((collect query.applies).aggregate? name).map (·.expression))) ∧
    ∃ outcome rows, execute edits report answers false = .ok outcome ∧
      outcome.result = .ok rows ∧ rows.length = 1 ∧
      ∃ level own, planLevel edits report = .ok level ∧
        List.Forall₂ (Reported edits report level) own rows := by
  have folds : fold edits totals = .ok query := rfl
  obtain ⟨-,reads,-⟩ := last_definition_stands folds rfl
  refine ⟨⟨folds,rfl,?_⟩,?_⟩
  · obtain ⟨post,member,named,expansion,stands,restored⟩ := (reads query_inOrder).arithmetic
      (by decide) { name := "Twice",expression := twice (.ref "Base") } (by simp [query]) rfl
    cases stands
    exact ⟨post,member,named,restored⟩
  · have ran : ((execute edits report answers false).toOption.bind fun o => o.result.toOption).map
        List.length = some 1 := by decide +kernel
    obtain ⟨rows,complete,single⟩ := Option.map_eq_some_iff.mp ran
    obtain ⟨outcome,executed,complete⟩ := Option.bind_eq_some_iff.mp complete
    replace executed := toOption_ok.mp executed
    replace complete := toOption_ok.mp complete
    obtain ⟨level,-,-,-,plans,-,-⟩ := execute_rows executed complete
    obtain ⟨folded,folds,-⟩ := planLevel_parts plans
    obtain ⟨-,-,reported⟩ := last_definition_stands folds rfl
    obtain ⟨level,own,-,plans,-,each⟩ := reported _ _ _ _ executed complete
    exact ⟨outcome,rows,executed,complete,single,level,own,plans,each⟩

-- The double was written over the number of edits, and it comes out over what they added.
theorem redefined_base_changes_twice :
    fold edits totals = .ok query ∧
    List.Forall₂ (Written.Defines (Fold.chainRoots totals "data") (collapseAggregates "data" []))
      (Fold.chainValues totals) definitions ∧
    (readings definitions).lookup "Twice" = some (twice number) ∧
    (Sql.inlineApplies query.applies query.splitKeys).lookup "Twice" = some (twice added) ∧
    (expansion? query.applies "Twice") = some (twice added) ∧ twice added ≠ twice number := by
  refine ⟨rfl,.cons ⟨rfl,_,rfl,rfl⟩ (.cons ⟨rfl,_,rfl,rfl⟩ (.cons ⟨rfl,_,rfl,rfl⟩ .nil)),
    rfl,rfl,rfl,?_⟩
  intro same
  simp [twice,added,number] at same

end Redefined

end OlapQuery
