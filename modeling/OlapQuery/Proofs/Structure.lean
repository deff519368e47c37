import OlapQuery.Fold.Measure

-- Expressions hold lists of expressions, so the plain induction does not reach their parts.
-- The principle below does, and the traversals of the lists become `map` and `flatMap` of the
-- traversal of one expression.

namespace OlapQuery

theorem mapM_each {m : Type u → Type v} [Monad m] [LawfulMonad m] {f g : α → m β} {as : List α}
    (same : ∀ a ∈ as, f a = g a) : as.mapM f = as.mapM g := by
  induction as with
  | nil => simp
  | cons a rest ih =>
      rw [List.forall_mem_cons] at same
      rw [List.mapM_cons,List.mapM_cons,same.1,ih same.2]

namespace Expr

@[elab_as_elim]
theorem structural {motive : Expr → Prop}
    (literal : ∀ v, motive (.literal v)) (ref : ∀ name, motive (.ref name)) (ply : motive .ply)
    (unary : ∀ op e, motive e → motive (.unary op e))
    (binary : ∀ op e x, motive e → motive x → motive (.binary op e x))
    (junction : ∀ op es, (∀ e ∈ es, motive e) → motive (.junction op es))
    (split : ∀ e keys dataName, motive e → (∀ key ∈ keys, motive key.2) →
      motive (.split e keys dataName)) : ∀ e, motive e := by
  intro e
  apply @Expr.rec motive (fun es => ∀ e ∈ es, motive e) (fun keys => ∀ key ∈ keys, motive key.2)
    (fun key => motive key.2) literal ref ply unary binary junction split
  · intro e member; cases member
  · intro head tail first others e member
    rcases List.mem_cons.mp member with rfl | later
    · exact first
    · exact others e later
  · intro key member; cases member
  · intro head tail first others key member
    rcases List.mem_cons.mp member with rfl | later
    · exact first
    · exact others key later
  · intro name e holds; exact holds

@[simp] theorem substituteAll_map (name : String) (value : Expr) (es : List Expr) :
    substituteAll name value es = es.map (substitute name value) := by
  induction es with
  | nil => simp [substituteAll]
  | cons e rest ih => simp [substituteAll,ih]

@[simp] theorem substituteKeys_map (name : String) (value : Expr) (keys : List (String × Expr)) :
    substituteKeys name value keys = keys.map (fun key => (key.1,substitute name value key.2)) := by
  induction keys with
  | nil => simp [substituteKeys]
  | cons key rest ih => simp [substituteKeys,ih]

@[simp] theorem nodesAll_flatMap (es : List Expr) : nodesAll es = es.flatMap nodes := by
  induction es with
  | nil => simp [nodesAll]
  | cons e rest ih => simp [nodesAll,ih]

@[simp] theorem nodesKeys_flatMap (keys : List (String × Expr)) :
    nodesKeys keys = keys.flatMap (fun key => nodes key.2) := by
  induction keys with
  | nil => simp [nodesKeys]
  | cons key rest ih => simp [nodesKeys,ih]

@[simp] theorem aggregatesAll_flatMap (es : List Expr) : aggregatesAll es = es.flatMap aggregates := by
  induction es with
  | nil => simp [aggregatesAll]
  | cons e rest ih => simp [aggregatesAll,ih]

@[simp] theorem aggregatesKeys_flatMap (keys : List (String × Expr)) :
    aggregatesKeys keys = keys.flatMap (fun key => aggregates key.2) := by
  induction keys with
  | nil => simp [aggregatesKeys]
  | cons key rest ih => simp [aggregatesKeys,ih]

theorem expectBooleans_map {resolve other : String → Option DataType} {f : Expr → Expr}
    {es : List Expr} (each : ∀ e ∈ es, (f e).inferType other = e.inferType resolve) (op : String) :
    expectBooleans other op (es.map f) = expectBooleans resolve op es := by
  induction es with
  | nil => rfl
  | cons e rest ih =>
      simp only [List.map_cons,expectBooleans,each e List.mem_cons_self,
        ih fun e listed => each e (List.mem_cons_of_mem _ listed)]

theorem nodes_children (e : Expr) : e.nodes = e :: e.children.flatMap nodes := by
  cases e <;> simp [nodes,children,List.flatMap_map]

theorem self_node (e : Expr) : e ∈ e.nodes := by
  rw [nodes_children]
  exact List.mem_cons_self

theorem child_node {e child : Expr} (part : child ∈ e.children) : ∀ n ∈ child.nodes, n ∈ e.nodes := by
  intro n inside
  rw [nodes_children]
  exact List.mem_cons_of_mem _ (List.mem_flatMap_of_mem part inside)

-- What holds of an expression if it holds of its direct parts holds of every expression.
@[elab_as_elim]
theorem children_induction {motive : Expr → Prop}
    (step : ∀ e, (∀ child ∈ e.children, motive child) → motive e) (e : Expr) : motive e := by
  induction e using Expr.structural with
  | literal v => exact step _ nofun
  | ref name => exact step _ nofun
  | ply => exact step _ nofun
  | unary op e ih => exact step _ (by simpa [children] using ih)
  | binary op e x left right => exact step _ (by simpa [children] using ⟨left,right⟩)
  | junction op es each => exact step _ each
  | split e keys dataName ih others =>
      exact step _ (List.forall_mem_cons.mpr ⟨ih,List.forall_mem_map.mpr others⟩)

theorem node_nodes {e n : Expr} (inside : n ∈ e.nodes) : ∀ m ∈ n.nodes, m ∈ e.nodes := by
  induction e using children_induction with
  | step e each =>
      rw [nodes_children] at inside
      rcases List.mem_cons.mp inside with rfl | deeper
      · exact fun m own => own
      · obtain ⟨child,part,inside⟩ := List.mem_flatMap.mp deeper
        exact fun m own => child_node part m (each child part inside m own)

theorem child_inside {e child : Expr} (part : child ∈ e.children) : child ∈ e.nodes :=
  child_node part child (self_node child)

end Expr

end OlapQuery
