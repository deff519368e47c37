import Mathlib.Data.List.Induction
import OlapQuery.Plan
import OlapQuery.Proofs.FoldRun
import OlapQuery.Proofs.Structure

-- Writing applies and keys out in the expressions that refer to them. A name outside the
-- aggregates of an expression stands for an apply or a key, a name inside them for a column;
-- writing out replaces both. It keeps to the names outside exactly as long as no aggregate
-- mentions the name that is being written out.

namespace OlapQuery

namespace Expr

-- Puts `value` in place of the references to `name` that stand outside of aggregates.
mutual
def substituteOutside (name : String) (value : Expr) : Expr → Expr
  | .literal v => .literal v
  | .ref other => if other == name then value else .ref other
  | .ply => .ply
  | .unary op e => if op.isAggregate then .unary op e else .unary op (substituteOutside name value e)
  | .binary op e x =>
      if op.isAggregate then .binary op e x
      else .binary op (substituteOutside name value e) (substituteOutside name value x)
  | .junction op es => .junction op (substituteOutsideAll name value es)
  | .split e keys dataName =>
      .split (substituteOutside name value e) (substituteOutsideKeys name value keys) dataName

def substituteOutsideAll (name : String) (value : Expr) : List Expr → List Expr
  | [] => []
  | e :: rest => substituteOutside name value e :: substituteOutsideAll name value rest

def substituteOutsideKeys (name : String) (value : Expr) :
    List (String × Expr) → List (String × Expr)
  | [] => []
  | (key,e) :: rest =>
      (key,substituteOutside name value e) :: substituteOutsideKeys name value rest
end

@[simp] theorem substituteOutsideAll_map (name : String) (value : Expr) (es : List Expr) :
    substituteOutsideAll name value es = es.map (substituteOutside name value) := by
  induction es with
  | nil => simp [substituteOutsideAll]
  | cons e rest ih => simp [substituteOutsideAll,ih]

@[simp] theorem substituteOutsideKeys_map (name : String) (value : Expr)
    (keys : List (String × Expr)) :
    substituteOutsideKeys name value keys
      = keys.map (fun key => (key.1,substituteOutside name value key.2)) := by
  induction keys with
  | nil => simp [substituteOutsideKeys]
  | cons key rest ih => simp [substituteOutsideKeys,ih]

def Mentions (name : String) (e : Expr) : Prop :=
  .ref name ∈ e.nodes

@[simp] theorem mentions_literal (name : String) (v : Value) : ¬ Mentions name (.literal v) := by
  simp [Mentions,nodes]

@[simp] theorem mentions_ref (name other : String) : Mentions name (.ref other) ↔ name = other := by
  simp [Mentions,nodes]

@[simp] theorem mentions_ply (name : String) : ¬ Mentions name .ply := by
  simp [Mentions,nodes]

@[simp] theorem mentions_unary (name : String) (op : UnaryOp) (e : Expr) :
    Mentions name (.unary op e) ↔ Mentions name e := by
  simp [Mentions,nodes]

@[simp] theorem mentions_binary (name : String) (op : BinaryOp) (e x : Expr) :
    Mentions name (.binary op e x) ↔ Mentions name e ∨ Mentions name x := by
  simp [Mentions,nodes]

@[simp] theorem mentions_junction (name : String) (op : Junction) (es : List Expr) :
    Mentions name (.junction op es) ↔ ∃ e ∈ es, Mentions name e := by
  simp [Mentions,nodes]

@[simp] theorem mentions_split (name dataName : String) (e : Expr) (keys : List (String × Expr)) :
    Mentions name (.split e keys dataName) ↔
      Mentions name e ∨ ∃ key ∈ keys, Mentions name key.2 := by
  simp [Mentions,nodes]

theorem map_self {f : α → α} {xs : List α} : xs.map f = xs ↔ ∀ x ∈ xs, f x = x := by
  simpa using @List.map_inj_left α α xs f id

theorem substitute_fixed (name : String) (value e : Expr) :
    substitute name value e = e ↔ (Mentions name e → value = .ref name) := by
  induction e using Expr.structural with
  | literal v => simp [substitute]
  | ply => simp [substitute]
  | ref other =>
      by_cases same : name = other
      · subst same; simp [substitute]
      · simp [substitute,same,Ne.symm same]
  | unary op e ih => simpa [substitute] using ih
  | binary op e x left right => simp [substitute,left,right,or_imp]
  | junction op es ih =>
      have each : (∀ e ∈ es, substitute name value e = e)
          ↔ ∀ e ∈ es, Mentions name e → value = .ref name :=
        forall₂_congr ih
      simp [substitute,map_self,each]
  | split e keys dataName ih others =>
      have each : (∀ key ∈ keys, (key.1,substitute name value key.2) = key)
          ↔ ∀ key ∈ keys, Mentions name key.2 → value = .ref name :=
        forall₂_congr fun key member => by rw [← others key member,Prod.ext_iff]; simp
      simp only [substitute,substituteKeys_map,split.injEq,and_true,map_self,each,ih,
        mentions_split,or_imp,forall_exists_index,and_imp]

-- Replacing everywhere comes to the same as replacing outside of aggregates exactly when no
-- outermost aggregate mentions the name.
theorem substitute_outside (name : String) (value e : Expr) :
    substitute name value e = substituteOutside name value e ↔
      ∀ a ∈ e.aggregates, Mentions name a → value = .ref name := by
  induction e using Expr.structural with
  | literal v => simp [substitute,substituteOutside,aggregates]
  | ply => simp [substitute,substituteOutside,aggregates]
  | ref other => simp [substitute,substituteOutside,aggregates]
  | unary op e ih =>
      by_cases aggregate : op.isAggregate = true
      · have fixed := substitute_fixed name value (.unary op e)
        simpa [substituteOutside,aggregates,aggregate] using fixed
      · simpa [substitute,substituteOutside,aggregates,aggregate] using ih
  | binary op e x left right =>
      by_cases aggregate : op.isAggregate = true
      · have fixed := substitute_fixed name value (.binary op e x)
        simpa [substituteOutside,aggregates,aggregate] using fixed
      · simp [substitute,substituteOutside,aggregates,aggregate,left,right,or_imp,forall_and]
  | junction op es ih =>
      simp only [substitute,substituteOutside,substituteAll_map,substituteOutsideAll_map,
        junction.injEq,true_and,List.map_inj_left,aggregates,aggregatesAll_flatMap,
        List.forall_mem_flatMap]
      exact forall₂_congr ih
  | split e keys dataName ih others =>
      simp only [substitute,substituteOutside,substituteKeys_map,substituteOutsideKeys_map,
        split.injEq,and_true,List.map_inj_left,Prod.mk.injEq,true_and,ih,aggregates,
        aggregatesKeys_flatMap,List.forall_mem_append,List.forall_mem_flatMap]
      exact and_congr_right' (forall₂_congr others)

theorem aggregates_substituteOutside {name : String} {value e a : Expr}
    (found : a ∈ (substituteOutside name value e).aggregates) :
    a ∈ e.aggregates ∨ a ∈ value.aggregates := by
  induction e using Expr.structural with
  | literal v => exact .inl found
  | ply => exact .inl found
  | ref other => 
      unfold substituteOutside at found
      split at found
      · exact .inr found
      · exact .inl found
  | unary op e ih =>
      unfold substituteOutside at found
      split at found
      · exact .inl found
      · rename_i plain
        simp only [aggregates,plain] at found ⊢
        exact ih found
  | binary op e x left right =>
      unfold substituteOutside at found
      split at found
      · exact .inl found
      · rename_i plain
        simp only [aggregates,plain,Bool.false_eq_true,if_false,List.mem_append] at found ⊢
        rcases found with early | late
        · exact (left early).imp_left .inl
        · exact (right late).imp_left .inr
  | junction op es ih =>
      simp only [substituteOutside,substituteOutsideAll_map,aggregates,aggregatesAll_flatMap,
        List.flatMap_map,List.mem_flatMap] at found ⊢
      obtain ⟨e,member,inside⟩ := found
      exact (ih e member inside).imp_left fun own => ⟨e,member,own⟩
  | split e keys dataName ih others =>
      simp only [substituteOutside,substituteOutsideKeys_map,aggregates,aggregatesKeys_flatMap,
        List.flatMap_map,List.mem_append,List.mem_flatMap] at found ⊢
      rcases found with early | ⟨key,member,inside⟩
      · exact (ih early).imp_left .inl
      · exact (others key member inside).imp_left fun own => .inr ⟨key,member,own⟩

theorem aggregates_nodes {e a : Expr} (found : a ∈ e.aggregates) :
    a ∈ e.nodes ∧ a.isAggregate = true := by
  induction e using Expr.structural with
  | literal v => cases found
  | ply => cases found
  | ref other => cases found
  | unary op e ih =>
      unfold aggregates at found
      split at found
      · rename_i aggregate
        cases List.mem_singleton.mp found
        exact ⟨by simp [nodes],aggregate⟩
      · exact (ih found).imp_left (by simp +contextual [nodes])
  | binary op e x left right =>
      unfold aggregates at found
      split at found
      · rename_i aggregate
        cases List.mem_singleton.mp found
        exact ⟨by simp [nodes],aggregate⟩
      · rcases List.mem_append.mp found with early | late
        · exact (left early).imp_left (by simp +contextual [nodes])
        · exact (right late).imp_left (by simp +contextual [nodes])
  | junction op es ih =>
      simp only [aggregates,aggregatesAll_flatMap,List.mem_flatMap] at found
      obtain ⟨e,member,inside⟩ := found
      refine (ih e member inside).imp_left fun node => ?_
      simp only [nodes,nodesAll_flatMap,List.mem_cons,List.mem_flatMap]
      exact .inr ⟨e,member,node⟩
  | split e keys dataName ih others =>
      simp only [aggregates,aggregatesKeys_flatMap,List.mem_append,List.mem_flatMap] at found
      rcases found with early | ⟨key,member,inside⟩
      · exact (ih early).imp_left (by simp +contextual [nodes])
      · refine (others key member inside).imp_left fun node => ?_
        simp only [nodes,nodesKeys_flatMap,List.mem_cons,List.mem_append,List.mem_flatMap]
        exact .inr (.inr ⟨key,member,node⟩)

theorem aggregates_plain {e a : Expr} (plain : e.containsAggregate = false) :
    ¬ a ∈ e.aggregates := by
  intro found
  obtain ⟨node,aggregate⟩ := aggregates_nodes found
  have present : e.containsAggregate = true := List.any_eq_true.mpr ⟨a,node,aggregate⟩
  rw [plain] at present; cases present

end Expr

namespace Sql
open OlapQuery.Expr

-- Each definition in turn is written out, and only outside of aggregates.
def KeepsAggregates : List (String × Expr) → Expr → Prop
  | [],_ => True
  | (name,value) :: rest,e =>
      substitute name value e = substituteOutside name value e ∧
        KeepsAggregates rest (substitute name value e)

-- No aggregate that is there when a definition is written out mentions its name, unless the
-- definition is the column of that name itself.
def Uncaptured : List (String × Expr) → Expr → Prop
  | [],_ => True
  | (name,value) :: rest,e =>
      (∀ a ∈ e.aggregates, Mentions name a → value = .ref name) ∧
        Uncaptured rest (substituteOutside name value e)

theorem keepsAggregates_exact (definitions : List (String × Expr)) (e : Expr) :
    KeepsAggregates definitions e ↔ Uncaptured definitions e := by
  induction definitions generalizing e with
  | nil => exact Iff.rfl
  | cons definition rest ih =>
      obtain ⟨name,value⟩ := definition
      rw [KeepsAggregates,Uncaptured,← substitute_outside]
      refine and_congr_right fun outside => ?_
      rw [outside]; exact ih _

theorem aggregates_inline {definitions : List (String × Expr)} {e a : Expr}
    (uncaptured : Uncaptured definitions e) (found : a ∈ (inline definitions e).aggregates) :
    a ∈ e.aggregates ∨ ∃ d ∈ definitions, a ∈ d.2.aggregates := by
  induction definitions generalizing e with
  | nil => exact .inl found
  | cons definition rest ih =>
      obtain ⟨name,value⟩ := definition
      obtain ⟨unmentioned,later⟩ := uncaptured
      rw [inline,List.foldl_cons,(substitute_outside name value e).mpr unmentioned] at found
      rcases ih later found with own | ⟨d,member,inside⟩
      · rcases aggregates_substituteOutside own with own | brought
        · exact .inl own
        · exact .inr ⟨(name,value),List.mem_cons_self,brought⟩
      · exact .inr ⟨d,List.mem_cons_of_mem _ member,inside⟩

theorem uncaptured_apart {definitions : List (String × Expr)} {e : Expr}
    (apart : ∀ a, (a ∈ e.aggregates ∨ ∃ d ∈ definitions, a ∈ d.2.aggregates) →
      ∀ d ∈ definitions, Mentions d.1 a → d.2 = .ref d.1) : Uncaptured definitions e := by
  induction definitions generalizing e with
  | nil => trivial
  | cons definition rest ih =>
      obtain ⟨name,value⟩ := definition
      refine ⟨fun a own => apart a (.inl own) _ List.mem_cons_self,ih ?_⟩
      intro a present d member
      refine apart a ?_ d (List.mem_cons_of_mem _ member)
      rcases present with inside | ⟨other,later,inside⟩
      · exact (aggregates_substituteOutside inside).imp_right
          fun brought => ⟨_,List.mem_cons_self,brought⟩
      · exact .inr ⟨other,List.mem_cons_of_mem _ later,inside⟩

theorem inlineApplies_append (before : List Apply) (a : Apply) (keys : List (String × Expr)) :
    inlineApplies (before ++ [a]) keys = inlineApplies before keys
      ++ [(a.name,inline (inlineApplies before keys ++ keys) a.expression)] := by
  simp [inlineApplies,List.foldl_append]

-- The expressions that a query has to write out, each with the definitions at its place.
inductive WrittenOut (q : FoldedQuery) : List (String × Expr) → Expr → Prop where
  | apply (place : q.applies = before ++ a :: after) :
      WrittenOut q (inlineApplies before q.splitKeys ++ q.splitKeys) a.expression
  | having (filtered : q.having = some h) :
      WrittenOut q (inlineApplies q.applies q.splitKeys ++ q.splitKeys) h.expression

-- What they become: the applies, and the filter on the rows of the split.
def Inlined (q : FoldedQuery) (e : Expr) : Prop :=
  (∃ name, (name,e) ∈ inlineApplies q.applies q.splitKeys) ∨
    ∃ h, q.having = some h ∧
      e = inline (inlineApplies q.applies q.splitKeys ++ q.splitKeys) h.expression

-- The outermost aggregates of the query.
def Original (q : FoldedQuery) (a : Expr) : Prop :=
  (∃ p ∈ q.applies, a ∈ p.expression.aggregates) ∨
    ∃ h, q.having = some h ∧ a ∈ h.expression.aggregates

-- No aggregate mentions the name of an apply, or of a key other than the column of that name.
def NamesApart (q : FoldedQuery) : Prop :=
  ∀ a, Original q a → ∀ name, Mentions name a →
    (∀ p ∈ q.applies, p.name ≠ name) ∧ ∀ key ∈ q.splitKeys, key.1 = name → key.2 = .ref name

-- The applies up to some place bring in no other aggregates when they are written out.
def BringsOriginals (q : FoldedQuery) (before : List Apply) : Prop :=
  ∀ d ∈ inlineApplies before q.splitKeys, ∀ a ∈ d.2.aggregates, Original q a

theorem inlineApplies_names {applies : List Apply} {keys : List (String × Expr)} {d : String × Expr}
    (member : d ∈ inlineApplies applies keys) : ∃ p ∈ applies, p.name = d.1 := by
  induction applies using List.reverseRecOn with
  | nil => cases member
  | append_singleton before p ih =>
      rw [inlineApplies_append] at member
      rcases List.mem_append.mp member with early | last
      · obtain ⟨p,member,named⟩ := ih early
        exact ⟨p,List.mem_append_left _ member,named⟩
      · cases List.mem_singleton.mp last
        exact ⟨p,by simp,rfl⟩

section
variable {q : FoldedQuery} (plain : ∀ key ∈ q.splitKeys, key.2.containsAggregate = false)
include plain

theorem definition_original {before : List Apply} (earlier : BringsOriginals q before)
    {d : String × Expr} {a : Expr} (defined : d ∈ inlineApplies before q.splitKeys ++ q.splitKeys)
    (inside : a ∈ d.2.aggregates) : Original q a := by
  rcases List.mem_append.mp defined with early | key
  · exact earlier d early a inside
  · exact absurd inside (aggregates_plain (plain d key))

-- By the applies in order; each is written out with those before it.
theorem applies_original
    (uncaptured : ∀ before p after, q.applies = before ++ p :: after → BringsOriginals q before →
      Uncaptured (inlineApplies before q.splitKeys ++ q.splitKeys) p.expression)
    (before after : List Apply) (place : q.applies = before ++ after) :
    BringsOriginals q before := by
  induction before using List.reverseRecOn generalizing after with
  | nil => intro d member; cases member
  | append_singleton before p ih =>
      have position : q.applies = before ++ p :: after := by simpa using place
      have earlier := ih (p :: after) position
      rw [BringsOriginals,inlineApplies_append]
      intro d member a found
      rcases List.mem_append.mp member with early | last
      · exact earlier d early a found
      · cases List.mem_singleton.mp last
        rcases aggregates_inline (uncaptured before p after position earlier) found with
          own | ⟨d,defined,inside⟩
        · exact .inl ⟨p,by simp [position],own⟩
        · exact definition_original plain earlier defined inside

theorem inlined_original (uncaptured : ∀ definitions e, WrittenOut q definitions e →
      Uncaptured definitions e) {e a : Expr} (inlined : Inlined q e) (found : a ∈ e.aggregates) :
    Original q a := by
  have originals := applies_original plain
    (fun before p after place _ => uncaptured _ _ (.apply place)) q.applies [] (by simp)
  rcases inlined with ⟨name,member⟩ | ⟨h,filtered,rfl⟩
  · exact originals _ member a found
  · rcases aggregates_inline (uncaptured _ _ (.having filtered)) found with
      own | ⟨d,defined,inside⟩
    · exact .inr ⟨h,filtered,own⟩
    · exact definition_original plain originals defined inside

theorem apart_uncaptured (apart : NamesApart q) {before after : List Apply}
    (place : q.applies = before ++ after) (earlier : BringsOriginals q before) {e : Expr}
    (own : ∀ a ∈ e.aggregates, Original q a) :
    Uncaptured (inlineApplies before q.splitKeys ++ q.splitKeys) e := by
  apply uncaptured_apart
  intro a present d defined mentioned
  have original : Original q a := by
    rcases present with inside | ⟨d,defined,inside⟩
    · exact own a inside
    · exact definition_original plain earlier defined inside
  obtain ⟨noApply,noKey⟩ := apart a original d.1 mentioned
  rcases List.mem_append.mp defined with early | key
  · obtain ⟨p,member,named⟩ := inlineApplies_names early
    exact absurd named (noApply p (by simp [place,member]))
  · exact noKey d key rfl

theorem namesApart_uncaptured (apart : NamesApart q) :
    ∀ definitions e, WrittenOut q definitions e → Uncaptured definitions e := by
  have applyOwn : ∀ {before p after}, q.applies = before ++ p :: after →
      ∀ a ∈ p.expression.aggregates, Original q a :=
    fun {before p after} place a own => .inl ⟨p,by simp [place],own⟩
  have originals := applies_original plain fun before p after place earlier =>
    apart_uncaptured plain apart place earlier (applyOwn place)
  intro definitions e written
  cases written with
  | @apply before p after place =>
      exact apart_uncaptured plain apart place (originals before (p :: after) place)
        (applyOwn place)
  | @having h filtered =>
      have whole : q.applies = q.applies ++ [] := by simp
      exact apart_uncaptured plain apart whole (originals q.applies [] whole)
        fun a own => .inr ⟨h,filtered,own⟩

end

end Sql

namespace Fold
open Compiled

theorem declared_plain {scope last : Scope} {keys : List (String × Expr)}
    (declared : keys.foldlM declareKey scope = .ok last) :
    ∀ key ∈ keys, key.2.containsAggregate = false := by
  refine run_keeps (fun taken _ => ∀ key ∈ taken, key.2.containsAggregate = false) ?_
    (fun _ member => nomatch member) declared
  intro taken state key next plain ran
  unfold declareKey at ran
  split at ran
  · exact absurd ran unsupported_ok
  · rename_i none
    exact List.forall_mem_append.mpr ⟨plain,by simpa using none⟩

theorem split_plain {root : String} {scope : Scope} {steps : List Step} {q : Rows}
    (ran : steps.foldlM (rowsStep root) { scope } = .ok q) :
    ∀ split, q.split = some split → ∀ key ∈ split.keys, key.2.containsAggregate = false := by
  refine run_keeps (fun _ (q : Rows) => ∀ split, q.split = some split →
    ∀ key ∈ split.keys, key.2.containsAggregate = false) ?_ (by simp) ran
  intro taken q step next plain ran
  cases rowsStep_taken ran with
  | split unsplit unsorted unlimited keyed declared =>
      intro split found
      cases found
      exact declared_plain declared
  | _ => exact plain

end Fold

theorem fold_plain_keys {dataset : Dataset} {e : Expr} {folded : FoldedQuery}
    (ran : fold dataset e = .ok folded) :
    ∀ key ∈ folded.splitKeys, key.2.containsAggregate = false := by
  rcases fold_cases ran with ⟨-,value⟩ | ⟨-,-,totals⟩ | ⟨-,root,-,rows⟩
  · obtain ⟨_,_,_,rfl⟩ := Fold.value_parts value
    intro key member; cases member
  · obtain ⟨_,_,rfl⟩ := Fold.totals_parts totals
    intro key member; cases member
  · obtain ⟨q,run,rfl⟩ := Fold.rows_parts rows
    have plain := Fold.split_plain run
    intro key member
    unfold FoldedQuery.splitKeys at member
    split at member
    · rename_i split found; exact plain split found key member
    · cases member

namespace Sql

-- Applies, keys and the filter on a split are written out outside of aggregates exactly when no
-- aggregate mentions a name that is then written out; the aggregates of the query are all that
-- there are in that case, as they were. It is so when the names are apart.
theorem written_out_outside_exact (q : FoldedQuery) :
    ((∀ definitions e, WrittenOut q definitions e → KeepsAggregates definitions e) ↔
      ∀ definitions e, WrittenOut q definitions e → Uncaptured definitions e) ∧
    (∀ dataset e, fold dataset e = .ok q → ∀ key ∈ q.splitKeys, key.2.containsAggregate = false) ∧
    ((∀ key ∈ q.splitKeys, key.2.containsAggregate = false) →
      ((∀ definitions e, WrittenOut q definitions e → Uncaptured definitions e) →
        ∀ e, Inlined q e → ∀ a ∈ e.aggregates, Original q a) ∧
      (NamesApart q → ∀ definitions e, WrittenOut q definitions e → Uncaptured definitions e)) := by
  refine ⟨?_,fun dataset e ran => fold_plain_keys ran,fun plain => ⟨?_,?_⟩⟩
  · simp only [keepsAggregates_exact]
  · intro uncaptured e inlined a found
    exact inlined_original plain uncaptured inlined found
  · intro apart; exact namesApart_uncaptured plain apart

namespace Edits

def edits : Dataset :=
  { engine := .postgres,source := "edits",
    attributes := [{ name := "tenant",type := .string },{ name := "added",type := .number }] }

def total : Expr :=
  .sum (.ref "data") (.ref "added")

def twice : Expr :=
  .multiply total (.literal (.number 2))

def report (name : String) : Expr :=
  .apply (.apply (.split (.ref "data") [("Tenant",.ref "tenant")] "data") name total) "Twice" twice

def query (name : String) : FoldedQuery :=
  { mode := .split,dataName := "data",filter := .bool true
    split := some { keys := [("Tenant",.ref "tenant")],dataName := "data" }
    applies := [{ name,expression := total },{ name := "Twice",expression := twice }]
    types := Table.ofList [("Tenant",.string),(name,.number),("Twice",.number)] }

theorem query_aggregates {name : String} {a : Expr} (original : Original (query name) a) :
    a = total := by
  rcases original with ⟨p,member,found⟩ | ⟨h,filtered,-⟩
  · rcases List.mem_cons.mp member with rfl | later
    · exact List.mem_singleton.mp found
    · cases List.mem_singleton.mp later
      exact List.mem_singleton.mp found
  · cases filtered

theorem report_totals_kept :
    fold edits (report "Total") = .ok (query "Total") ∧
      ∀ e, Inlined (query "Total") e → ∀ a ∈ e.aggregates, Original (query "Total") a := by
  have ran : fold edits (report "Total") = .ok (query "Total") := rfl
  have exactly := written_out_outside_exact (query "Total")
  have plain := exactly.2.1 edits (report "Total") ran
  refine ⟨ran,(exactly.2.2 plain).1 ((exactly.2.2 plain).2 ?_)⟩
  intro a original name mentioned
  rw [query_aggregates original] at mentioned
  have column : name = "data" ∨ name = "added" := by simpa [total] using mentioned
  refine ⟨?_,?_⟩
  · intro p member named
    have known : p.name ∈ ["Total","Twice"] := List.mem_map_of_mem member
    rcases column with rfl | rfl <;> simp [named] at known
  · intro key member named
    cases List.mem_singleton.mp member
    rcases column with rfl | rfl <;> simp at named

-- An apply that is called like the column it sums takes the column's place in the next sum.
theorem sum_of_sum :
    fold edits (report "added") = .ok (query "added") ∧
      ∃ e a, Inlined (query "added") e ∧ a ∈ e.aggregates ∧ ¬ Original (query "added") a := by
  refine ⟨rfl,.multiply (.sum (.ref "data") total) (.literal (.number 2)),
    .sum (.ref "data") total,.inl ⟨"Twice",?_⟩,?_,?_⟩
  · exact List.mem_cons_of_mem _ (List.mem_singleton.mpr rfl)
  · exact List.mem_singleton.mpr rfl
  · intro original
    have same := query_aggregates original
    cases same

end Edits

end Sql

end OlapQuery
