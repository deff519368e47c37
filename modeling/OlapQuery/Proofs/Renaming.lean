import OlapQuery.Fold
import OlapQuery.Proofs.ArithmeticNames
import OlapQuery.Proofs.Outermost
import OlapQuery.Proofs.Together

-- Other names in place of those outside of aggregates. The type of an expression stays what it
-- is where the new names have the types of the old ones; its aggregates, its patterns and its
-- shape as a chain are those of the expression.

namespace OlapQuery.Expr

def renamed (σ : String → String) (e : Expr) : Expr :=
  e.replaceOutside fun name => some (.ref (σ name))

def namesInside (e : Expr) : List String :=
  e.aggregates.flatMap references

theorem mentions_iff (name : String) (e : Expr) :
    Mentions name e ↔ name ∈ e.namesOutside ∨ name ∈ e.namesInside := by
  have every {β : Type} {items : List β} {x : β → Expr} (each : ∀ b ∈ items,
      (Mentions name (x b) ↔ name ∈ (x b).namesOutside ∨ name ∈ (x b).namesInside)) :
      (∃ b ∈ items, Mentions name (x b)) ↔ name ∈ items.flatMap (fun b => (x b).namesOutside) ∨
        name ∈ items.flatMap (fun b => (x b).namesInside) := by
    simp only [List.mem_flatMap,← exists_or,← and_or_left]
    exact exists_congr fun b => and_congr_right (each b)
  induction e using structural with
  | literal v => simp [namesOutside,namesInside,aggregates]
  | ref other => simp [namesOutside,namesInside,aggregates]
  | ply => simp [namesOutside,namesInside,aggregates]
  | unary op e ih =>
      cases outermost : op.isAggregate with
      | true => simp [namesOutside,namesInside,aggregates,outermost,mem_references]
      | false => simpa [namesOutside,namesInside,aggregates,outermost] using ih
  | binary op e x left right =>
      cases outermost : op.isAggregate with
      | true => simp [namesOutside,namesInside,aggregates,outermost,mem_references]
      | false =>
          simp only [mentions_binary,left,right,namesOutside,namesInside,aggregates,outermost,
            Bool.false_eq_true,if_false,List.flatMap_append,List.mem_append]
          exact or_or_or_comm
  | junction op es each =>
      rw [mentions_junction,every each,namesOutside,namesOutsideAll_flatMap,namesInside,aggregates,
        aggregatesAll_flatMap,List.flatMap_assoc]
      rfl
  | split e keys dataName ih each =>
      refine (mentions_split ..).trans ((or_congr ih (every each)).trans ?_)
      simp only [namesOutside,namesOutsideKeys_flatMap,namesInside,aggregates,
        aggregatesKeys_flatMap,List.flatMap_append,List.flatMap_assoc,List.mem_append]
      exact or_or_or_comm

section Shape

variable (σ : String → String)

theorem renamed_aggregate {a : Expr} (outermost : a.isAggregate = true) : a.renamed σ = a :=
  replaceOutside_aggregate _ outermost

theorem renamed_unary {op : UnaryOp} (plain : op.isAggregate = false) (e : Expr) :
    (Expr.unary op e).renamed σ = .unary op (e.renamed σ) := by
  simp [renamed,replaceOutside,plain]

theorem renamed_binary {op : BinaryOp} (plain : op.isAggregate = false) (e x : Expr) :
    (Expr.binary op e x).renamed σ = .binary op (e.renamed σ) (x.renamed σ) := by
  simp [renamed,replaceOutside,plain]

theorem renamed_junction (op : Junction) (es : List Expr) :
    (Expr.junction op es).renamed σ = .junction op (es.map (renamed σ)) := by
  rw [renamed,replaceOutside,replaceOutsideAll_map]
  rfl

theorem renamed_split (e : Expr) (keys : List (String × Expr)) (dataName : String) :
    (Expr.split e keys dataName).renamed σ
      = .split (e.renamed σ) (keys.map fun key => (key.1,key.2.renamed σ)) dataName := by
  rw [renamed,replaceOutside,replaceOutsideKeys_map]
  rfl

-- The case of an aggregate, which stays, apart from the others.
@[elab_as_elim]
theorem renamed_induction {motive : Expr → Expr → Prop}
    (aggregate : ∀ a, a.isAggregate = true → motive a a)
    (literal : ∀ v, motive (.literal v) (.literal v))
    (ref : ∀ name, motive (.ref name) (.ref (σ name))) (ply : motive .ply .ply)
    (unary : ∀ op e, op.isAggregate = false → motive e (e.renamed σ) →
      motive (.unary op e) (.unary op (e.renamed σ)))
    (binary : ∀ op e x, op.isAggregate = false → motive e (e.renamed σ) →
      motive x (x.renamed σ) → motive (.binary op e x) (.binary op (e.renamed σ) (x.renamed σ)))
    (junction : ∀ op es, (∀ e ∈ es, motive e (e.renamed σ)) →
      motive (.junction op es) (.junction op (es.map (renamed σ))))
    (split : ∀ e keys dataName, motive e (e.renamed σ) →
      (∀ key ∈ keys, motive key.2 (key.2.renamed σ)) → motive (.split e keys dataName)
        (.split (e.renamed σ) (keys.map fun key => (key.1,key.2.renamed σ)) dataName)) (e : Expr) :
    motive e (e.renamed σ) := by
  induction e using structural with
  | literal v => exact literal v
  | ref name => exact ref name
  | ply => exact ply
  | unary op e ih =>
      cases outermost : op.isAggregate with
      | true =>
          rw [renamed_aggregate σ (a := .unary op e) outermost]
          exact aggregate _ outermost
      | false =>
          rw [renamed_unary σ outermost]
          exact unary op e outermost ih
  | binary op e x left right =>
      cases outermost : op.isAggregate with
      | true =>
          rw [renamed_aggregate σ (a := .binary op e x) outermost]
          exact aggregate _ outermost
      | false =>
          rw [renamed_binary σ outermost]
          exact binary op e x outermost left right
  | junction op es each =>
      rw [renamed_junction]
      exact junction op es each
  | split e keys dataName ih each =>
      rw [renamed_split]
      exact split e keys dataName ih each

theorem refName_renamed (e : Expr) : (e.renamed σ).refName? = e.refName?.map σ := by
  induction e using renamed_induction σ with
  | aggregate a outermost =>
      cases a with
      | ref name => cases outermost
      | _ => rfl
  | _ => rfl

theorem hasSplit_renamed (e : Expr) : (e.renamed σ).hasSplit = e.hasSplit := by
  induction e using renamed_induction σ with
  | aggregate a outermost => rfl
  | unary op e plain ih =>
      cases op with
      | limit count => simpa [hasSplit,chainSteps,Step.isSplit] using ih
      | _ => rfl
  | binary op e x plain left right =>
      cases op with
      | filter | apply name | sort direction =>
          simpa [hasSplit,chainSteps,Step.isSplit] using left
      | _ => rfl
  | split e keys dataName ih each => simp [hasSplit,chainSteps,Step.isSplit]
  | _ => rfl

theorem renamed_self {e : Expr} (self : ∀ name ∈ e.namesOutside, σ name = name) :
    e.renamed σ = e :=
  replaceOutside_self fun name outside => congrArg Expr.ref (self name outside)

end Shape

section Types

variable {resolve other : String → Option DataType}

theorem inferType_congr {e : Expr} (same : ∀ name, Mentions name e → other name = resolve name) :
    e.inferType other = e.inferType resolve := by
  induction e using structural with
  | literal v => rfl
  | ref name => simp only [inferType,same name (by simp)]
  | ply => rfl
  | unary op e ih => simp only [inferType,ih fun name inside => same name (by simpa using inside)]
  | binary op e x left right =>
      simp only [inferType,left fun name inside => same name (by simp [inside]),
        right fun name inside => same name (by simp [inside])]
  | junction op es each =>
      have checked := expectBooleans_map (f := id) (fun e listed => each e listed fun name inside =>
        same name ((mentions_junction _ _ _).mpr ⟨e,listed,inside⟩)) op.name
      rw [List.map_id] at checked
      simp only [inferType,checked]
  | split e keys dataName ih each =>
      simp only [inferType,ih fun name inside => same name (by simp [inside])]

theorem inferType_renamed {σ : String → String} {e : Expr}
    (outside : ∀ name ∈ e.namesOutside, other (σ name) = resolve name ∧
      (resolve name = none → σ name = name))
    (inside : ∀ name ∈ e.namesInside, other name = resolve name) :
    (e.renamed σ).inferType other = e.inferType resolve := by
  unfold namesInside at inside
  induction e using renamed_induction σ with
  | aggregate a outermost =>
      rw [aggregates_self outermost,List.flatMap_singleton] at inside
      exact inferType_congr fun name mentioned => inside name ((mem_references a name).mpr mentioned)
  | literal v => rfl
  | ref name =>
      obtain ⟨same,unknown⟩ := outside name (by simp [namesOutside])
      rw [inferType,inferType,same]
      cases known : resolve name with
      | some type => rfl
      | none => rw [unknown known]
  | ply => rfl
  | unary op e plain ih =>
      simp only [namesOutside,aggregates,plain,Bool.false_eq_true,if_false] at outside inside
      simp only [inferType,ih outside inside]
  | binary op e x plain left right =>
      simp only [namesOutside,aggregates,plain,Bool.false_eq_true,if_false,List.flatMap_append,
        List.forall_mem_append] at outside inside
      simp only [inferType,left outside.1 inside.1,right outside.2 inside.2]
  | junction op es each =>
      simp only [namesOutside,namesOutsideAll_flatMap,aggregates,aggregatesAll_flatMap,
        List.forall_mem_flatMap] at outside inside
      have checked := expectBooleans_map (fun e listed => each e listed (outside e listed)
        (List.forall_mem_flatMap.mpr (inside e listed))) op.name
      simp only [inferType,checked]
  | split e keys dataName ih each =>
      simp only [namesOutside,aggregates,List.flatMap_append,List.forall_mem_append] at outside inside
      simp only [inferType,ih outside.1 inside.1]

end Types

section Aggregates

variable (σ : String → String)

theorem mapAggregatesM_renamed (f : Expr → Compiled Expr) (e : Expr) :
    Together (fun _ _ => True) (e.mapAggregatesM f) ((e.renamed σ).mapAggregatesM f) := by
  induction e using renamed_induction σ with
  | aggregate a outermost => exact .refl (fun _ => trivial) _
  | literal v => exact .ok trivial
  | ref name => exact .ok trivial
  | ply => exact .ok trivial
  | unary op e plain ih =>
      rw [mapAggregatesM_unary plain,mapAggregatesM_unary plain]
      exact ih.bind fun _ _ _ => .ok trivial
  | binary op e x plain left right =>
      rw [mapAggregatesM_binary plain,mapAggregatesM_binary plain]
      exact left.bind fun _ _ _ => right.bind fun _ _ _ => .ok trivial
  | junction op es each =>
      rw [mapAggregatesM_junction,mapAggregatesM_junction]
      have all : List.Forall₂ (fun e e' => Together (fun _ _ => True) (e.mapAggregatesM f)
          (e'.mapAggregatesM f)) es (es.map (renamed σ)) :=
        List.forall₂_map_right_iff.mpr (List.forall₂_same.mpr each)
      exact (Together.mapM all fun _ _ both => both).bind fun _ _ _ => .ok trivial
  | split e keys dataName ih each =>
      rw [mapAggregatesM_split,mapAggregatesM_split]
      have all : List.Forall₂ (fun k l : String × Expr => Together (fun _ _ => True)
          (do return (k.1,← k.2.mapAggregatesM f)) (do return (l.1,← l.2.mapAggregatesM f))) keys
          (keys.map fun key => (key.1,key.2.renamed σ)) :=
        List.forall₂_map_right_iff.mpr (List.forall₂_same.mpr fun key listed =>
          (each key listed).bind fun _ _ _ => .ok trivial)
      exact ih.bind fun _ _ _ => (Together.mapM all fun _ _ both => both).bind fun _ _ _ => .ok trivial

theorem resolveAggregates_renamed (resolve : String → Compiled (String × List Expr)) (e : Expr) :
    Together (fun _ _ => True) (e.resolveAggregates resolve)
      ((e.renamed σ).resolveAggregates resolve) :=
  (mapAggregatesM_renamed σ (resolveAggregate resolve) e).bind fun _ _ _ => .ok trivial

end Aggregates

section Nodes

variable (σ : String → String)

-- What one node becomes.
structure NodeRenamed (node other : Expr) : Prop where
  pattern : other.pattern? = node.pattern?
  datasets : List.Forall₂ (fun name new => new = name ∨ new = σ name) node.datasetNames
    other.datasetNames

variable {σ}

theorem NodeRenamed.self (node : Expr) : NodeRenamed σ node node :=
  ⟨rfl,List.forall₂_same.mpr fun _ _ => .inl rfl⟩

theorem NodeRenamed.plain {node other : Expr} (pattern : other.pattern? = node.pattern?)
    (none : node.datasetNames = []) (still : other.datasetNames = []) : NodeRenamed σ node other :=
  ⟨pattern,by rw [none,still]; exact .nil⟩

theorem forall_refName (σ : String → String) (e : Expr) :
    List.Forall₂ (fun name new => new = name ∨ new = σ name) e.refName?.toList
      (e.renamed σ).refName?.toList := by
  rw [refName_renamed]
  cases e.refName? with
  | none => exact .nil
  | some name => exact .cons (.inr rfl) .nil

theorem nodes_renamed (σ : String → String) (e : Expr) :
    List.Forall₂ (NodeRenamed σ) e.nodes (e.renamed σ).nodes := by
  induction e using renamed_induction σ with
  | aggregate a outermost => exact List.forall₂_same.mpr fun node _ => .self node
  | literal v => exact .cons (.self _) .nil
  | ref name => exact .cons (.plain rfl rfl rfl) .nil
  | ply => exact .cons (.self _) .nil
  | unary op e plain ih =>
      refine .cons ?_ ih
      cases op with
      | limit count => exact ⟨rfl,by simpa [datasetNames,lastStep?] using forall_refName σ e⟩
      | count | customAggregate name => cases plain
      | _ => exact .plain rfl rfl rfl
  | binary op e x plain left right =>
      refine .cons ?_ (List.rel_append left right)
      cases op with
      | filter | apply name | sort direction =>
          exact ⟨rfl,by simpa [datasetNames,lastStep?] using forall_refName σ e⟩
      | sum | min | max | average | countDistinct => cases plain
      | _ => exact .plain rfl rfl rfl
  | junction op es each =>
      rw [nodes,nodes,nodesAll_flatMap,nodesAll_flatMap]
      refine .cons (.plain rfl rfl rfl) ?_
      have all : List.Forall₂ (fun e e' => List.Forall₂ (NodeRenamed σ) e.nodes e'.nodes) es
          (es.map (renamed σ)) := List.forall₂_map_right_iff.mpr (List.forall₂_same.mpr each)
      exact List.rel_flatMap all fun _ _ both => both
  | split e keys dataName ih each =>
      rw [nodes,nodes,nodesKeys_flatMap,nodesKeys_flatMap]
      have all : List.Forall₂ (fun k l => List.Forall₂ (NodeRenamed σ) k.2.nodes l.2.nodes) keys
          (keys.map fun key => (key.1,key.2.renamed σ)) :=
        List.forall₂_map_right_iff.mpr (List.forall₂_same.mpr each)
      refine .cons ⟨rfl,?_⟩ (List.rel_append ih (List.rel_flatMap all fun _ _ both => both))
      exact List.rel_append (forall_refName σ e) (.cons (.inl rfl) .nil)

theorem datasetNames_renamed (σ : String → String) (e : Expr) :
    List.Forall₂ (fun name new => new = name ∨ new = σ name) (e.nodes.flatMap datasetNames)
      ((e.renamed σ).nodes.flatMap datasetNames) :=
  List.rel_flatMap (nodes_renamed σ e) fun _ _ node => node.datasets

theorem patterns_renamed (σ : String → String) (e : Expr) :
    (e.renamed σ).nodes.filterMap pattern? = e.nodes.filterMap pattern? := by
  have all : ∀ {nodes others}, List.Forall₂ (NodeRenamed σ) nodes others →
      others.filterMap pattern? = nodes.filterMap pattern? := by
    intro nodes others each
    induction each with
    | nil => rfl
    | cons first rest ih => rw [List.filterMap_cons,List.filterMap_cons,first.pattern,ih]
  exact all (nodes_renamed σ e)

end Nodes

end OlapQuery.Expr
