import Mathlib.Logic.Function.Basic
import OlapQuery.Proofs.ScopedTypes

-- Writing an expression for a name. The parts of what this gives are what it gives for the parts,
-- so the names that are referred to afterwards follow, at any depth, from what becomes of a
-- reference. Types go by the constructors instead, since inference looks at some parts only: with
-- an expression written for a name, it finds the type or the error that it finds with the name in
-- scope, as a name of the type of the expression.

namespace OlapQuery

open Sql (inlineApplies inlineApplies_append WrittenOut)

namespace Expr

section Names

variable {name other : String} {value e : Expr}

theorem mentions_children : Mentions name e ↔
    e = .ref name ∨ ∃ child ∈ e.children, Mentions name child := by
  rw [Mentions,nodes_children,List.mem_cons,List.mem_flatMap,eq_comm]
  rfl

theorem children_substitute (plain : ∀ known, e ≠ .ref known) :
    (substitute name value e).children = e.children.map (substitute name value) := by
  cases e with
  | ref known => exact absurd rfl (plain known)
  | split e keys dataName => simp [substitute,children]
  | _ => simp [substitute,children]

theorem substitute_reference (plain : ∀ known, e ≠ .ref known) :
    substitute name value e ≠ .ref other := by
  cases e with
  | ref known => exact absurd rfl (plain known)
  | _ => simp [substitute]

theorem mentions_substitute : Mentions other (substitute name value e) ↔
    Mentions other e ∧ other ≠ name ∨ Mentions name e ∧ Mentions other value := by
  induction e using children_induction with
  | step e each =>
      by_cases reference : ∃ known, e = .ref known
      · obtain ⟨known,rfl⟩ := reference
        by_cases own : known = name
        · subst own; simp [substitute]
        · have kept : other = known → other ≠ name := fun same => same ▸ own
          simpa [substitute,own,Ne.symm own] using kept
      · have plain : ∀ known, e ≠ .ref known := fun known same => reference ⟨known,same⟩
        rw [mentions_children,mentions_children (e := e),mentions_children (e := e),
          children_substitute plain]
        simp only [substitute_reference plain,plain,false_or,List.mem_map,exists_exists_and_eq_and]
        constructor
        · rintro ⟨child,part,inside⟩
          rcases (each child part).mp inside with ⟨old,apart⟩ | ⟨named,brought⟩
          · exact .inl ⟨⟨child,part,old⟩,apart⟩
          · exact .inr ⟨⟨child,part,named⟩,brought⟩
        · rintro (⟨⟨child,part,old⟩,apart⟩ | ⟨⟨child,part,named⟩,brought⟩)
          · exact ⟨child,part,(each child part).mpr (.inl ⟨old,apart⟩)⟩
          · exact ⟨child,part,(each child part).mpr (.inr ⟨named,brought⟩)⟩

theorem references_sorted (e : Expr) : sortedNames e.references = e.references :=
  sortedNames_congr fun name => mem_sortedNames _ name

end Names

-- What stands for a part when an expression is rebuilt with `value` for the name.
def replacement (name : String) (value : Expr) : Expr → Option Expr
  | .ref other => if other == name then some value else none
  | _ => none

theorem transformM_substitute [Monad m] [LawfulMonad m] (name : String) (value e : Expr) :
    transformM (fun part => pure (replacement name value part)) e
      = (pure (substitute name value e) : m Expr) := by
  induction e using structural with
  | literal v => simp [transformM,replacement,substitute]
  | ref other => by_cases own : other = name <;> simp [transformM,replacement,substitute,own]
  | ply => simp [transformM,replacement,substitute]
  | unary op e ih =>
      have kept : replacement name value (.unary op e) = none := rfl
      simp [transformM,kept,substitute,ih]
  | binary op e x left right =>
      have kept : replacement name value (.binary op e x) = none := rfl
      simp [transformM,kept,substitute,left,right]
  | junction op es each =>
      have kept : replacement name value (.junction op es) = none := rfl
      simp [transformM,kept,substitute,transformAllM_mapM,mapM_each each]
  | split e keys dataName ih others =>
      have kept : replacement name value (.split e keys dataName) = none := rfl
      have renamed : ∀ key ∈ keys, (do
          return (key.1,← transformM (fun part => pure (replacement name value part)) key.2))
            = (pure (key.1,substitute name value key.2) : m (String × Expr)) := by
        intro key listed
        rw [others key listed,pure_bind]
      simp only [transformM,kept,pure_bind,substitute,transformKeysM_mapM,ih,mapM_each renamed,
        List.mapM_pure,substituteKeys_map]

end Expr

-- The types that names stand for when the definitions are written out in order: each name has the
-- type that its definition has once the later ones are written out in it.
inductive Records (resolve : String → Option DataType) :
    List (String × Expr) → (String → Option DataType) → Prop where
  | done : Records resolve [] resolve
  | written (later : Records resolve rest scope) (typed : value.inferType scope = .ok type) :
      Records resolve ((name,value) :: rest) (Function.update scope name (some type))

-- A definition of the type that its name stands for already.
def Recorded (resolve : String → Option DataType) (definition : String × Expr) : Prop :=
  ∃ type, resolve definition.1 = some type ∧ definition.2.inferType resolve = .ok type

section Types

variable {resolve scope : String → Option DataType}

theorem Expr.inferType_substitute {name : String} {value : Expr} {type : DataType}
    (typed : value.inferType resolve = .ok type) (e : Expr) :
    (substitute name value e).inferType resolve
      = e.inferType (Function.update resolve name (some type)) := by
  induction e using structural with
  | literal v => rfl
  | ref other =>
      by_cases own : other = name
      · subst own; simp [substitute,inferType,typed]
      · simp [substitute,inferType,own]
  | ply => rfl
  | unary op e ih => simp only [substitute,inferType,ih]
  | binary op e x left right => simp only [substitute,inferType,left,right]
  | junction op es each =>
      simp only [substitute,substituteAll_map,inferType,expectBooleans_map each]
  | split e keys dataName ih others => simp only [substitute,inferType,ih]

theorem Records.infer {definitions : List (String × Expr)}
    (records : Records resolve definitions scope) (e : Expr) :
    (Sql.inline definitions e).inferType resolve = e.inferType scope := by
  induction records generalizing e with
  | done => rfl
  | written later typed ih => rw [Sql.inline,List.foldl_cons,← Sql.inline,ih,Expr.inferType_substitute typed]

theorem records_recorded {definitions : List (String × Expr)}
    (recorded : ∀ d ∈ definitions, Recorded resolve d) : Records resolve definitions resolve := by
  induction definitions with
  | nil => exact .done
  | cons d rest ih =>
      obtain ⟨⟨type,known,typed⟩,later⟩ := List.forall_mem_cons.mp recorded
      have written : Records resolve (d :: rest) (Function.update resolve d.1 (some type)) :=
        .written (ih later) typed
      rwa [← known,Function.update_eq_self] at written

theorem inlineApplies_recorded {applies : List Apply} {keys : List (String × Expr)}
    (values : ∀ a ∈ applies, Recorded resolve (a.name,a.expression))
    (types : ∀ key ∈ keys, Recorded resolve key) :
    ∀ d ∈ inlineApplies applies keys ++ keys, Recorded resolve d := by
  refine List.forall_mem_append.mpr ⟨?_,types⟩
  induction applies using List.reverseRecOn with
  | nil => exact nofun
  | append_singleton before a ih =>
      obtain ⟨early,last⟩ := List.forall_mem_append.mp values
      obtain ⟨type,known,typed⟩ := List.forall_mem_singleton.mp last
      have earlier := records_recorded (List.forall_mem_append.mpr ⟨ih early,types⟩)
      rw [inlineApplies_append,List.forall_mem_append,List.forall_mem_singleton]
      exact ⟨ih early,type,known,(earlier.infer _).trans typed⟩

-- Wherever a query writes out applies and keys, they are recorded if those of the query are.
theorem writtenOut_recorded {q : FoldedQuery} {definitions : List (String × Expr)} {e : Expr}
    (values : ∀ a ∈ q.applies, Recorded resolve (a.name,a.expression))
    (types : ∀ key ∈ q.splitKeys, Recorded resolve key) (written : WrittenOut q definitions e) :
    ∀ d ∈ definitions, Recorded resolve d := by
  cases written with
  | @apply before a after place =>
      refine inlineApplies_recorded (fun b listed => values b ?_) types
      rw [place]
      exact List.mem_append_left _ listed
  | having filtered => exact inlineApplies_recorded values types

theorem Scope.declare_resolve (s : Scope) (name : String) (type : DataType) :
    (s.declare name type).resolve = Function.update s.resolve name (some type) := by
  funext other
  by_cases own : other = name
  · subst own; simp [resolve,declare,Table.get_insert]
  · rw [Function.update_of_ne own,resolve_declare own]

theorem Scope.infer_ok {s : Scope} {e : Expr} {type : DataType} :
    s.infer e = .ok type ↔ e.inferType s.resolve = .ok type := by
  unfold infer
  cases e.inferType s.resolve <;> simp [Compiled.ofTyping,Except.mapError]

end Types

open OlapQuery.Expr

-- With an expression written for a name, inference comes to the type or the error that it comes to
-- with the name in scope as one of the type of the expression; so it does in the scope in which a
-- query declares a key or an apply with its type. Hence nothing changes where definitions are
-- written out in order, in scope as they are found, and where a query writes out its applies and
-- keys, in scope with the types of their expressions.
theorem substitution_keeps_types :
    (∀ (resolve : String → Option DataType) (name : String) (value : Expr) (type : DataType),
      value.inferType resolve = .ok type → ∀ e, (substitute name value e).inferType resolve
        = e.inferType (Function.update resolve name (some type))) ∧
    (∀ (s : Scope) (name : String) (value : Expr) (type : DataType), s.infer value = .ok type →
      ∀ e, s.infer (substitute name value e) = (s.declare name type).infer e) ∧
    (∀ (resolve : String → Option DataType) (definitions : List (String × Expr))
      (scope : String → Option DataType), Records resolve definitions scope →
      ∀ e, (Sql.inline definitions e).inferType resolve = e.inferType scope) ∧
    ∀ (resolve : String → Option DataType) (q : FoldedQuery),
      (∀ a ∈ q.applies, Recorded resolve (a.name,a.expression)) →
      (∀ key ∈ q.splitKeys, Recorded resolve key) → ∀ definitions e, WrittenOut q definitions e →
      (Sql.inline definitions e).inferType resolve = e.inferType resolve := by
  refine ⟨fun resolve name value type typed => inferType_substitute typed,?_,?_,?_⟩
  · intro s name value type typed e
    rw [Scope.infer,Scope.infer,inferType_substitute (Scope.infer_ok.mp typed),Scope.declare_resolve]
  · exact fun resolve definitions scope records => records.infer
  · intro resolve q values types definitions e written
    exact (records_recorded (writtenOut_recorded values types written)).infer e

namespace Tills

def sales : Dataset :=
  { engine := .postgres,source := "sales"
    attributes := [{ name := "shop",type := .string },{ name := "price",type := .number }] }

def revenue : Expr := .sum (.ref "data") (.ref "price")

def mean : Expr := .divide (.ref "revenue") (.count (.ref "data"))

-- A number cannot be appended to a name.
def label : Expr := .concat (.ref "shop") (.ref "mean")

def report : FoldedQuery :=
  { mode := .split,dataName := "data",filter := .bool true
    split := some { keys := [("shop",.ref "shop")],dataName := "data" }
    applies := [{ name := "revenue",expression := revenue },{ name := "mean",expression := mean }] }

def before : Scope :=
  { dataset := sales,datasets := ["data"],names := [("revenue",.number),("shop",.string)] }

def after : Scope :=
  before.declare "mean" .number

theorem mean_written_out :
    (before.infer mean = .ok .number ∧
      before.infer (substitute "mean" mean label) = after.infer label ∧
      after.infer label = .error (.refused (.type (.mismatch "concat" "STRING" .number)))) ∧
    (substitute "mean" mean label).inferType before.resolve
      = label.inferType (Function.update before.resolve "mean" (some .number)) ∧
    (∃ scope, Records before.resolve [("mean",mean),("revenue",revenue)] scope ∧
      (Sql.inline [("mean",mean),("revenue",revenue)] label).inferType before.resolve
        = label.inferType scope) ∧
    ∀ definitions e, WrittenOut report definitions e →
      (Sql.inline definitions e).inferType after.resolve = e.inferType after.resolve := by
  obtain ⟨direct,declared,inOrder,query⟩ := substitution_keeps_types
  have typed : mean.inferType before.resolve = .ok .number := rfl
  have records : Records before.resolve [("mean",mean),("revenue",revenue)]
      (Function.update (Function.update before.resolve "revenue" (some .number)) "mean"
        (some .number)) :=
    .written (.written .done rfl) rfl
  refine ⟨⟨rfl,declared before "mean" mean .number rfl label,rfl⟩,
    direct _ "mean" mean .number typed label,⟨_,records,inOrder _ _ _ records label⟩,
    query after.resolve report ?_ ?_⟩
  · simp only [report,List.forall_mem_cons]
    exact ⟨⟨.number,rfl,rfl⟩,⟨.number,rfl,rfl⟩,nofun⟩
  · exact List.forall_mem_singleton.mpr ⟨.string,rfl,rfl⟩

end Tills

-- The names in what is left when an expression is written for a name are the names of before
-- without it, and, if it was there, the names in the expression. A name is written for itself to
-- no effect.
theorem references_after_substitution (name : String) (value e : Expr) :
    (substitute name value e).references
      = sortedNames (e.references.filter (fun other => other != name)
          ++ if name ∈ e.references then value.references else []) ∧
    substitute name (.ref name) e = e := by
  refine ⟨?_,(substitute_fixed name (.ref name) e).mpr fun _ => rfl⟩
  rw [← references_sorted]
  refine sortedNames_congr fun other => ?_
  rw [mem_references,mentions_substitute,List.mem_append,List.mem_filter,mem_references,bne_iff_ne]
  by_cases named : Mentions name e
  · rw [if_pos ((mem_references e name).mpr named),mem_references]
    simp [named]
  · rw [if_neg fun known => named ((mem_references e name).mp known)]
    simp [named]

end OlapQuery
