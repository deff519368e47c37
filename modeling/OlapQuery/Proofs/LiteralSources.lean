import OlapQuery.Proofs.CollectedAggregates
import OlapQuery.Proofs.NormalAggregates

-- Folding makes up no literals but truth values: those of a folded query, in its filter as in its
-- applies and in the aggregates that are collected from these, are literals of the expression or of
-- the base filter of the dataset.

namespace OlapQuery

namespace Expr

variable {P : Value → Prop}

-- Something is true of every literal.
def Literals (P : Value → Prop) (e : Expr) : Prop :=
  ∀ v, .literal v ∈ e.nodes → P v

theorem Literals.node {e n : Expr} (each : e.Literals P) (inside : n ∈ e.nodes) : n.Literals P :=
  fun v part => each v (node_nodes inside _ part)

theorem literals_children {e : Expr} (plain : ∀ v, e ≠ .literal v) :
    e.Literals P ↔ ∀ child ∈ e.children, child.Literals P := by
  simp only [Literals,nodes_children e,List.mem_cons,List.mem_flatMap]
  constructor
  · exact fun each child part v inside => each v (.inr ⟨child,part,inside⟩)
  · rintro each v (same | ⟨child,part,inside⟩)
    · exact absurd same.symm (plain v)
    · exact each child part v inside

section Constructors

@[simp] theorem literals_literal (v : Value) : (Expr.literal v).Literals P ↔ P v := by
  simp [Literals,nodes]

@[simp] theorem literals_ref (name : String) : (Expr.ref name).Literals P := by
  simp [Literals,nodes]

@[simp] theorem literals_unary (op : UnaryOp) (e : Expr) :
    (Expr.unary op e).Literals P ↔ e.Literals P := by
  simp [literals_children,children]

@[simp] theorem literals_binary (op : BinaryOp) (e x : Expr) :
    (Expr.binary op e x).Literals P ↔ e.Literals P ∧ x.Literals P := by
  simp [literals_children,children]

@[simp] theorem literals_junction (op : Junction) (es : List Expr) :
    (Expr.junction op es).Literals P ↔ ∀ e ∈ es, e.Literals P := by
  simp [literals_children,children]

@[simp] theorem literals_split (e : Expr) (keys : List (String × Expr)) (dataName : String) :
    (Expr.split e keys dataName).Literals P ↔
      e.Literals P ∧ ∀ key ∈ keys.map (·.2), key.Literals P := by
  simp [literals_children,children]

end Constructors

theorem literals_clausewise (truth : ∀ b, P (.boolean b)) : Clausewise (Literals P) :=
  ⟨fun es => literals_junction .and es,fun b => (literals_literal _).mpr (truth b)⟩

theorem andAll_literals (truth : ∀ b, P (.boolean b)) {es : List Expr}
    (each : ∀ e ∈ es, e.Literals P) : (andAll es).Literals P := by
  have clausewise := literals_clausewise truth
  refine (clausewise.andAll_exact es).mpr fun c part => ?_
  obtain ⟨e,listed,inside⟩ := andAll_clause part
  exact clausewise.clause (each e listed) inside

theorem UpTo.literals {related : Expr → Expr → Prop} {e e' : Expr} (upTo : UpTo related e e')
    (images : ∀ a b, related a b → a.Literals P → b.Literals P) :
    e.Literals P → e'.Literals P := by
  have all {es fs : List Expr}
      (operands : List.Forall₂ (fun e f => e.Literals P → f.Literals P) es fs)
      (each : ∀ e ∈ es, e.Literals P) : ∀ f ∈ fs, f.Literals P := by
    intro f listed
    obtain ⟨e,member,kept⟩ := related_source operands listed
    exact kept (each e member)
  apply upTo.structural (motive := fun e f => e.Literals P → f.Literals P)
  case aggregate => exact fun _ holds => images _ _ holds
  case literal | ref | ply => intros; assumption
  case unary => simp
  case binary => simp +contextual
  case junction =>
    intro op es fs operands each
    rw [literals_junction] at each ⊢
    exact all operands each
  case split =>
    intro e f ks ls dataName operand names keys each
    rw [literals_split] at each ⊢
    exact ⟨operand each.1,all keys each.2⟩

theorem substitute_literals {name : String} {value e : Expr} (brought : value.Literals P)
    (each : e.Literals P) : (substitute name value e).Literals P := by
  induction e using Expr.structural with
  | literal v => exact each
  | ply => exact each
  | ref other =>
      unfold substitute
      split
      · exact brought
      · exact each
  | unary op e ih => simpa [substitute] using ih ((literals_unary op e).mp each)
  | binary op e x left right =>
      obtain ⟨first,second⟩ := (literals_binary op e x).mp each
      simpa [substitute] using ⟨left first,right second⟩
  | junction op es ih =>
      rw [literals_junction] at each
      simpa [substitute] using fun e listed => ih e listed (each e listed)
  | split e keys dataName ih others =>
      obtain ⟨first,later⟩ := (literals_split e keys dataName).mp each
      refine (literals_split _ _ _).mpr ⟨ih first,?_⟩
      rw [substituteKeys_map,List.map_map]
      intro image listed
      obtain ⟨key,member,rfl⟩ := List.mem_map.mp listed
      exact others key member (later key.2 (List.mem_map_of_mem member))

section Aggregates

theorem withAggregateOperand_literals {a dataset : Expr} (each : a.Literals P)
    (rows : dataset.Literals P) : (a.withAggregateOperand dataset).Literals P := by
  unfold withAggregateOperand
  split
  · split <;> simp_all
  · split <;> simp_all
  · exact each

theorem expandAggregate_literals {a expansion : Expr} (each : a.Literals P)
    (expands : a.expandAggregate? = some expansion) : expansion.Literals P := by
  unfold expandAggregate? at expands
  split at expands
  · cases expands; simp_all
  · obtain ⟨-,equal⟩ := Option.ite_none_right_eq_some.mp expands
    cases equal; simp_all
  · obtain ⟨-,equal⟩ := Option.ite_none_right_eq_some.mp expands
    cases equal; simp_all
  · cases expands

theorem underFilters_literals {root : String} {filters : List Expr}
    (each : ∀ f ∈ filters, f.Literals P) : (underFilters root filters).Literals P := by
  unfold underFilters
  have start : (Expr.ref root).Literals P := literals_ref root
  generalize Expr.ref root = dataset at start ⊢
  induction filters generalizing dataset with
  | nil => exact start
  | cons f rest ih =>
      obtain ⟨first,later⟩ := List.forall_mem_cons.mp each
      exact ih later _ (by simp [start,first])

theorem resolveAggregate_literals {resolve : String → Compiled (String × List Expr)}
    (given : ∀ name root filters, resolve name = .ok (root,filters) → ∀ f ∈ filters, f.Literals P)
    {a image : Expr} (ran : resolveAggregate resolve a = .ok image) (each : a.Literals P) :
    image.Literals P := by
  obtain ⟨name,own,root,filters,-,chain,resolves,rfl⟩ := resolveAggregate_normal ran
  have rows : (underFilters root (filters ++ own)).Literals P := by
    refine underFilters_literals (List.forall_mem_append.mpr ⟨given name root filters resolves,?_⟩)
    exact fun f listed => each.node (aggregateChain_nodes chain f listed)
  have normal := withAggregateOperand_literals each rows
  cases expands : (a.withAggregateOperand (underFilters root (filters ++ own))).expandAggregate? with
  | none => exact normal
  | some expansion => exact expandAggregate_literals normal expands

theorem aggregateFilters_literals {a : Expr} {filters : List Expr} (each : a.Literals P)
    (own : a.aggregateFilters? = some filters) : ∀ f ∈ filters, f.Literals P := by
  obtain ⟨⟨name,conditions⟩,chain,rfl⟩ := Option.map_eq_some_iff.mp own
  exact fun f listed => each.node (aggregateChain_nodes chain f listed)

theorem collapseAggregate_literals (truth : ∀ b, P (.boolean b)) {dataName : String}
    {common : List Expr} {a : Expr} (each : a.Literals P) :
    (a.collapseAggregate dataName common).Literals P := by
  refine withAggregateOperand_literals each ?_
  unfold filteredDataset
  dsimp only
  split
  · exact literals_ref dataName
  · refine (literals_binary .filter _ _).mpr ⟨literals_ref dataName,andAll_literals truth ?_⟩
    intro f kept
    have own := (List.mem_filter.mp kept).1
    cases found : a.aggregateFilters? with
    | none => rw [found] at own; cases own
    | some filters =>
        rw [found] at own
        exact aggregateFilters_literals each found f own

end Aggregates

end Expr

open OlapQuery.Expr

section Collected
open AggregateSet
variable {P : Value → Prop}

theorem inlinePosts_literals {posts : List PostAggregate} {e : Expr}
    (definitions : ∀ post ∈ posts, post.expression.Literals P) (each : e.Literals P) :
    (inlinePosts posts e).Literals P := by
  unfold inlinePosts
  induction posts generalizing e with
  | nil => exact each
  | cons post rest ih =>
      obtain ⟨first,later⟩ := List.forall_mem_cons.mp definitions
      exact ih later (substitute_literals first each)

-- What is derived from an apply has names in place of its aggregates, and these have the literals.
structure LiteralsKept (P : Value → Prop) (posts : List PostAggregate) (made : List NamedAggregate) :
    Prop where
  posts : ∀ post ∈ posts, post.expression.Literals P
  made : ∀ k ∈ made, k.expression.Literals P

theorem derive_literals {named made more : List NamedAggregate} {posts later : List PostAggregate}
    {a : Apply} (before : LiteralsKept P posts made) (each : a.expression.Literals P)
    (ran : derive named posts a made = (later,more)) : LiteralsKept P later more := by
  have written := inlinePosts_literals before.posts each
  obtain ⟨e,rfl,-,taken⟩ := derive_parts ran
  refine ⟨List.forall_mem_append.mpr ⟨before.posts,List.forall_mem_singleton.mpr ?_⟩,fun k listed => ?_⟩
  · refine taken.literals (fun a b stands _ => ?_) written
    obtain ⟨k,-,rfl,-⟩ := stands
    exact literals_ref _
  · rcases derive_sources ran k listed with known | inside
    · exact before.made k known
    · exact written.node (aggregates_nodes inside).1

theorem collect_literals {applies : List Apply} (each : ∀ a ∈ applies, a.expression.Literals P) :
    ∀ k ∈ (collect applies).aggregates, k.expression.Literals P := by
  have run : ∀ (rest : List Apply) {posts later : List PostAggregate}
      {made more : List NamedAggregate}, (∀ a ∈ rest, a.expression.Literals P) →
      LiteralsKept P posts made →
      rest.foldlM (derive (bare applies)) posts made = (later,more) → LiteralsKept P later more := by
    intro rest
    induction rest with
    | nil => intro posts later made more _ before ran; cases ran; exact before
    | cons a rest ih =>
        intro posts later made more each before ran
        obtain ⟨next,further,first,ran⟩ := (Outcomes.state (List NamedAggregate)).of_bind ran
        obtain ⟨own,others⟩ := List.forall_mem_cons.mp each
        exact ih others (derive_literals before own first) ran
  obtain ⟨posts,made,ran,whole⟩ := collect_run applies
  have derived : ∀ a ∈ derivedOrder applies, a.expression.Literals P := fun a listed =>
    each a (derivedOrder_source listed).1
  have start : LiteralsKept P [] [] := ⟨by simp,by simp⟩
  rw [whole]
  refine List.forall_mem_append.mpr ⟨fun k listed => ?_,(run _ derived start ran).made⟩
  obtain ⟨a,member,-,rfl⟩ := bare_source listed
  exact each a member

end Collected

namespace Fold
variable {P : Value → Prop}

theorem applies_literals (truth : ∀ b, P (.boolean b)) {dataset : Dataset} {e : Expr}
    {folded : FoldedQuery} (ran : fold dataset e = .ok folded) (each : e.Literals P) :
    ∀ a ∈ folded.applies, a.expression.Literals P := by
  intro a member
  obtain ⟨common,defined⟩ := values_defined ran
  obtain ⟨w,last,-,resolved,resolves,equal⟩ := defined.last member
  obtain ⟨written,before⟩ := values_nodes (List.mem_reverse.mp (List.mem_of_find?_eq_some last))
  obtain ⟨image,images,made⟩ := Compiled.bind_ok.mp resolves
  obtain ⟨rfl,-⟩ := Prod.mk.inj (Compiled.pure_ok.mp made)
  have given : ∀ name root filters, valueRoots e folded.dataName w.earlier name = .ok (root,filters) →
      ∀ f ∈ filters, f.Literals P := fun name root filters stands f listed =>
    each.node (valueRoots_nodes before name root filters stands f listed)
  have whole : image.Literals P := (mapAggregatesM_compiled images).literals
    (fun a b ran => resolveAggregate_literals given ran) (each.node written)
  rw [equal]
  refine (mapAggregates_upTo _ _).literals ?_ whole
  rintro a b rfl
  exact collapseAggregate_literals truth

theorem filter_literals (truth : ∀ b, P (.boolean b)) {dataset : Dataset} {e : Expr}
    {folded : FoldedQuery} (ran : fold dataset e = .ok folded) (base : dataset.filter.Literals P)
    (each : e.Literals P) : folded.filter.Literals P := by
  have clausewise := literals_clausewise truth
  obtain ⟨filters,own,equal⟩ := folded_filter ran
  rw [equal]
  refine (clausewise.queryFilter_exact dataset filters).mpr fun c part => ?_
  rcases queryFilter_clause part with inside | ⟨f,listed,inside⟩
  · exact clausewise.clause base inside
  · exact clausewise.clause (each.node (ownFilters_nodes ran own f listed)) inside

end Fold

end OlapQuery
