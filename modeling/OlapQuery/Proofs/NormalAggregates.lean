import OlapQuery.Proofs.CheckedFilter
import OlapQuery.Proofs.ClosedQueries
import OlapQuery.Proofs.DatasetRoots

-- The form of the aggregates in a folded query. All of them are over the dataset of the query,
-- bare or under one flat condition, and none is an average. A sum of two columns added or
-- subtracted is left only in place of an average of them: what an average turns into is not
-- looked at again.

namespace OlapQuery

open OlapQuery.Expr

namespace Expr

def IsPair (x : Expr) : Prop :=
  ∃ a b, x = .add (.ref a) (.ref b) ∨ x = .subtract (.ref a) (.ref b)

-- An aggregate of a kind, with something true of what it measures.
def Measures (a : Expr) (op : BinaryOp) (P : Expr → Prop) : Prop :=
  ∃ e x, a = .binary op e x ∧ P x

def SumsPair (a : Expr) : Prop :=
  a.Measures .sum IsPair

def AveragesPair (a : Expr) : Prop :=
  a.Measures .average IsPair

def IsAverage (a : Expr) : Prop :=
  a.Measures .average fun _ => True

-- A condition over the rows of an aggregate of the query `e`: no literal truth, and no
-- conjunction of conjunctions or literal truths. A conjunction further inside is one as well,
-- unless it was written otherwise.
structure FlatCondition (e f : Expr) : Prop where
  proper : f ≠ .bool true
  flat : ∀ es, f = .and es → ∀ c ∈ es, c.IsClause
  inside : ∀ es, .and es ∈ f.nodes → (∀ c ∈ es, c.IsClause) ∨ .and es ∈ e.nodes

-- An aggregate over the rows of a dataset, bare or under one condition.
def OverRows (a e : Expr) (dataName : String) : Prop :=
  a.aggregateOperand? = some (.ref dataName) ∨
    ∃ f, a.aggregateOperand? = some (.filter (.ref dataName) f) ∧ FlatCondition e f

-- An aggregate of the query `e` in normal form.
structure NormalAggregate (a e : Expr) (dataName : String) : Prop where
  rows : a.OverRows e dataName
  whole : ¬ a.IsAverage
  single : ¬ a.SumsPair

section Conditions

theorem clause_node {e c : Expr} (part : c ∈ e.clauses) : c ∈ e.nodes := by
  have plain {e : Expr} (plain : ∀ es, e ≠ .and es) (part : c ∈ e.clauses) : c ∈ e.nodes := by
    rw [clauses,conjuncts_other plain] at part
    split at part
    · cases part
    · split at part
      · cases part
      · rw [List.mem_singleton.mp part]; exact self_node e
  induction e using Expr.structural with
  | junction op es ih =>
      cases op with
      | and =>
          rw [clauses,conjuncts?] at part
          cases found : conjunctsAll? es with
          | none => rw [found] at part; cases part
          | some cs =>
              rw [found] at part
              obtain ⟨e,listed,inside⟩ := conjunctsAll_clause found part
              exact child_node (e := .and es) listed c (ih e listed inside)
      | or => exact plain (by simp) part
  | _ => exact plain (by simp) part

theorem andAll_flat {e : Expr} {filters : List Expr} (written : ∀ f ∈ filters, f ∈ e.nodes)
    (proper : andAll filters ≠ .bool true) : FlatCondition e (andAll filters) := by
  have flat : ∀ es, andAll filters = .and es → ∀ c ∈ es, c.IsClause :=
    fun es built => clauses_of_all (andAll_clauses built)
  have clause : ∀ c ∈ (andAll filters).clauses, c ∈ e.nodes := by
    intro c part
    obtain ⟨f,listed,inside⟩ := andAll_clause part
    exact node_nodes (written f listed) c (clause_node inside)
  refine ⟨proper,flat,fun es inside => ?_⟩
  rcases conjunct_cases (andAll filters) with ⟨cs,built⟩ | ⟨b,built⟩ | alone
  · have opened : (andAll filters).clauses = cs := by
      simp [built,clauses,conjuncts?,conjunctsAll_opened (flat cs built)]
    rw [built,nodes_children] at inside
    rcases List.mem_cons.mp inside with same | deeper
    · cases same; exact .inl (flat es built)
    · obtain ⟨c,listed,inside⟩ := List.mem_flatMap.mp deeper
      exact .inr (node_nodes (clause c (opened ▸ listed)) _ inside)
  · rw [built] at inside
    cases List.mem_singleton.mp inside
  · have opened : (andAll filters).clauses = [andAll filters] := by
      simp [clauses,conjuncts_clause alone]
    exact .inr (node_nodes (clause _ (opened ▸ List.mem_cons_self)) _ inside)

end Conditions

section Aggregates
variable {a : Expr}

theorem measures_withAggregateOperand (op : BinaryOp) (P : Expr → Prop) (dataset : Expr) :
    (a.withAggregateOperand dataset).Measures op P ↔ a.Measures op P := by
  unfold withAggregateOperand
  split
  · split <;> simp [Measures]
  · split <;> simp [Measures]
  · rfl

theorem isRef_exact {x : Expr} : x.isRef = true ↔ ∃ name, x = .ref name := by
  cases x <;> simp [isRef,refName?]

theorem unexpanded_measures (stays : a.expandAggregate? = none) : ¬ a.IsAverage ∧ ¬ a.SumsPair := by
  constructor
  · rintro ⟨e,x,rfl,-⟩
    cases stays
  · rintro ⟨e,_,rfl,x,y,rfl | rfl⟩ <;> simp [expandAggregate?,isRef,refName?] at stays

-- Arithmetic in place of an aggregate has no average in it, and a sum of two columns just if the
-- aggregate was an average of them.
theorem expanded_measures {expansion : Expr} (expands : a.expandAggregate? = some expansion) :
    (∀ b ∈ expansion.aggregates, ¬ b.IsAverage) ∧
      ((∃ b ∈ expansion.aggregates, b.SumsPair) ↔ a.AveragesPair) := by
  have columns {op : BinaryOp} {e x y z : Expr} (plain : op.isAggregate = false)
      (names : (x.isRef && y.isRef) = true) :
      (∀ b ∈ (Expr.binary op (.sum e x) (.sum e y)).aggregates, ¬ b.IsAverage) ∧
        ((∃ b ∈ (Expr.binary op (.sum e x) (.sum e y)).aggregates, b.SumsPair) ↔
          (Expr.sum e z).AveragesPair) := by
    obtain ⟨left,right⟩ := Bool.and_eq_true_iff.mp names
    obtain ⟨_,rfl⟩ := isRef_exact.mp left
    obtain ⟨_,rfl⟩ := isRef_exact.mp right
    have sum : BinaryOp.sum.isAggregate = true := rfl
    simp [aggregates,plain,sum,IsAverage,SumsPair,AveragesPair,Measures,IsPair]
  unfold expandAggregate? at expands
  split at expands
  · rename_i e x
    cases expands
    have parts : (Expr.divide (.sum e x) (.count e)).aggregates = [.sum e x,.count e] := by
      simp [aggregates,BinaryOp.isAggregate,UnaryOp.isAggregate]
    simp [parts,IsAverage,SumsPair,AveragesPair,Measures]
  · obtain ⟨names,equal⟩ := Option.ite_none_right_eq_some.mp expands
    cases equal; exact columns rfl names
  · obtain ⟨names,equal⟩ := Option.ite_none_right_eq_some.mp expands
    cases equal; exact columns rfl names
  · cases expands

theorem resolved_measures {resolve : String → Compiled (String × List Expr)} {image : Expr}
    (ran : resolveAggregate resolve a = .ok image) :
    (∀ b ∈ image.aggregates, ¬ b.IsAverage) ∧
      (a.AveragesPair ↔ ∃ b ∈ image.aggregates, b.SumsPair) := by
  obtain ⟨name,own,root,filters,outermost,-,-,rfl⟩ := resolveAggregate_normal ran
  rw [AveragesPair,← measures_withAggregateOperand .average IsPair (underFilters root (filters ++ own))]
  have aggregate := isAggregate_withAggregateOperand a (underFilters root (filters ++ own))
  generalize a.withAggregateOperand (underFilters root (filters ++ own)) = normal at aggregate ⊢
  cases expands : normal.expandAggregate? with
  | some expansion => exact (expanded_measures expands).imp_right Iff.symm
  | none =>
      obtain ⟨whole,single⟩ := unexpanded_measures expands
      have unpaired : ¬ normal.Measures .average IsPair := fun ⟨e,x,same,_⟩ => whole ⟨e,x,same,trivial⟩
      simp [aggregates_self (aggregate.trans outermost),whole,single,unpaired]

theorem resolvedAll_measures {resolve : String → Compiled (String × List Expr)}
    {e resolved : Expr} {expanded : Bool}
    (ran : e.resolveAggregates resolve = .ok (resolved,expanded)) :
    (∀ b ∈ resolved.aggregates, ¬ b.IsAverage) ∧
      ((∃ a ∈ e.aggregates, a.AveragesPair) ↔ ∃ b ∈ resolved.aggregates, b.SumsPair) := by
  obtain ⟨images,each,own⟩ := resolveAggregates_images ran
  have measures := each.imp fun _ _ => resolved_measures
  rw [own]
  constructor
  · intro b member
    obtain ⟨image,listed,inside⟩ := List.mem_flatMap.mp member
    obtain ⟨a,-,plain,-⟩ := related_source measures listed
    exact plain b inside
  · rw [Druid.exists_exact measures fun _ _ => And.right]
    simp only [List.mem_flatMap]
    exact ⟨fun ⟨image,listed,b,inside,sums⟩ => ⟨b,⟨image,listed,inside⟩,sums⟩,
      fun ⟨b,⟨image,listed,inside⟩,sums⟩ => ⟨image,listed,b,inside,sums⟩⟩

section Collapsed
variable {e resolved : Expr} {dataName : String} {common : List Expr}

theorem collapsed_rows (written : ∀ a ∈ resolved.aggregates, ∀ filters,
    a.aggregateFilters? = some filters → ∀ f ∈ filters, f ∈ e.nodes) :
    ∀ b ∈ (resolved.collapseAggregates dataName common).aggregates, b.OverRows e dataName := by
  intro b member
  rw [aggregates_collapse] at member
  obtain ⟨a,listed,rfl⟩ := List.mem_map.mp member
  have operand := operand_withAggregateOperand (aggregates_nodes listed).2
  unfold OverRows collapseAggregate filteredDataset
  dsimp only
  split
  · exact .inl (operand _)
  · rename_i proper
    refine .inr ⟨_,operand _,andAll_flat ?_ fun truth => proper (isTrue_exact.mpr truth)⟩
    intro f kept
    have own := (List.mem_filter.mp kept).1
    cases found : a.aggregateFilters? with
    | none => rw [found] at own; cases own
    | some filters => exact written a listed filters found f (by simpa [found] using own)

theorem collapsed_measures (op : BinaryOp) (P : Expr → Prop) :
    (∃ b ∈ (resolved.collapseAggregates dataName common).aggregates, b.Measures op P) ↔
      ∃ a ∈ resolved.aggregates, a.Measures op P := by
  simp [aggregates_collapse,collapseAggregate,measures_withAggregateOperand]

end Collapsed

end Aggregates

end Expr

namespace Fold
open Step

def values (e : Expr) : List Written :=
  if e.isDatasetOp then chainValues e else [{ earlier := [],name := valueName,expression := e }]

def lastValue? (e : Expr) (name : String) : Option Written :=
  (values e).reverse.find? fun w => w.name == name

def valueRoots (e : Expr) (dataName : String) : List Step → String → Compiled (String × List Expr) :=
  if e.isDatasetOp then chainRoots e dataName else totalsRoot

theorem values_defined {dataset : Dataset} {e : Expr} {folded : FoldedQuery}
    (ran : fold dataset e = .ok folded) : ∃ common, Defined (valueRoots e folded.dataName)
      (Expr.collapseAggregates folded.dataName common) (values e) folded.applies := by
  unfold values valueRoots
  split
  · rename_i chain
    exact fold_defined ran chain
  · rename_i single
    rcases fold_cases ran with ⟨-,value⟩ | ⟨chain,-⟩ | ⟨chain,-⟩
    · obtain ⟨resolved,expanded,resolves,rfl⟩ := value_parts value
      exact ⟨_,defined_start.push (w := ⟨[],valueName,e⟩) ⟨rfl,resolved,resolves,rfl⟩⟩
    · exact absurd chain single
    · exact absurd chain single

theorem values_nodes {e : Expr} {w : Written} (member : w ∈ values e) :
    w.expression ∈ e.nodes ∧ ∀ s ∈ w.earlier, s ∈ e.chainSteps := by
  have chained {value? : Step → Option (String × Expr)}
      (source : ∀ {step value}, value? step = some value → step = .apply value.1 value.2)
      (member : w ∈ written value? [] e.chainSteps) :
      w.expression ∈ e.nodes ∧ ∀ s ∈ w.earlier, s ∈ e.chainSteps := by
    obtain ⟨listed,before⟩ := written_source source member
    refine ⟨part_nodes listed (List.mem_singleton_self _),fun s early => ?_⟩
    exact (before s early).resolve_left nofun
  unfold values at member
  split at member
  · unfold chainValues at member
    split at member
    · exact chained total_source member
    · exact chained value_source member
  · cases List.mem_singleton.mp member
    exact ⟨self_node e,nofun⟩

theorem valueRoots_nodes {e : Expr} {dataName : String} {earlier : List Step}
    (steps : ∀ s ∈ earlier, s ∈ e.chainSteps) (name root : String) (filters : List Expr)
    (stands : valueRoots e dataName earlier name = .ok (root,filters)) :
    ∀ f ∈ filters, f ∈ e.nodes := by
  unfold valueRoots at stands
  split at stands
  · have either : chainRoots e dataName = totalsRoot ∨
        chainRoots e dataName = fun _ => splitRoot dataName := by
      unfold chainRoots
      split
      · exact .inl rfl
      · exact .inr rfl
    rcases either with totals | rows
    · exact totalsRoot_nodes steps name root filters (totals ▸ stands)
    · rw [rows] at stands
      dsimp only [splitRoot] at stands
      split at stands
      · cases stands; nofun
      · exact absurd stands Compiled.unsupported_ok
  · exact totalsRoot_nodes steps name root filters stands

theorem find_related {related : α → β → Prop} {p : α → Bool} {q : β → Bool} {as : List α}
    {bs : List β} (each : List.Forall₂ related as bs) (same : ∀ a b, related a b → p a = q b) {b : β}
    (found : bs.find? q = some b) : ∃ a, as.find? p = some a ∧ related a b := by
  induction each with
  | nil => cases found
  | @cons a b' as bs first rest ih =>
      have alike := same a b' first
      cases test : q b' with
      | true =>
          rw [List.find?_cons_of_pos test] at found
          cases found
          exact ⟨a,List.find?_cons_of_pos (alike.trans test),first⟩
      | false =>
          rw [List.find?_cons_of_neg (by simp [test])] at found
          rw [List.find?_cons_of_neg (by simp [alike,test])]
          exact ih found

theorem Defined.last {resolve : List Step → String → Compiled (String × List Expr)}
    {collapse : Expr → Expr} {written : List Written} {applies : List Apply}
    (defined : Defined resolve collapse written applies) {a : Apply} (member : a ∈ applies) :
    ∃ w, written.reverse.find? (fun w => w.name == a.name) = some w ∧
      w.Defines resolve collapse a := by
  obtain ⟨definitions,rfl,each⟩ := defined
  have left : (settle definitions).find? (Apply.isNamed a.name) = some a :=
    find_named (settle_distinct definitions) member
  rw [settle_find] at left
  exact find_related (List.forall₂_reverse_iff.mpr each)
    (fun w b defines => by rw [Apply.isNamed,defines.name]) left

end Fold

open Fold

-- Every aggregate that folding leaves is over the rows of the query and is no average. It is in
-- normal form, then, unless the last value of that name averages two columns added or subtracted.
theorem aggregates_normal_iff {dataset : Dataset} {e : Expr} {folded : FoldedQuery}
    (ran : fold dataset e = .ok folded) : ∀ apply ∈ folded.applies,
      (∀ a ∈ apply.expression.aggregates, a.OverRows e folded.dataName ∧ ¬ a.IsAverage) ∧
      ∃ w, lastValue? e apply.name = some w ∧
        ((∀ a ∈ apply.expression.aggregates, a.NormalAggregate e folded.dataName) ↔
          ∀ a ∈ w.expression.aggregates, ¬ a.AveragesPair) := by
  intro apply member
  obtain ⟨common,defined⟩ := values_defined ran
  obtain ⟨w,last,-,resolved,resolves,equal⟩ := defined.last member
  obtain ⟨written,before⟩ := values_nodes (List.mem_reverse.mp (List.mem_of_find?_eq_some last))
  obtain ⟨whole,pairs⟩ := resolvedAll_measures resolves
  have rows : ∀ a ∈ apply.expression.aggregates, a.OverRows e folded.dataName ∧ ¬ a.IsAverage := by
    rw [equal]
    intro a inside
    refine ⟨collapsed_rows (fun b found filters own => ?_) a inside,fun average => ?_⟩
    · exact attached_nodes written (valueRoots_nodes before) resolves found own
    · obtain ⟨b,found,kept⟩ := (collapsed_measures _ _).mp ⟨a,inside,average⟩
      exact whole b found kept
  have sums : (∃ a ∈ apply.expression.aggregates, a.SumsPair) ↔
      ∃ a ∈ w.expression.aggregates, a.AveragesPair := by
    rw [pairs,equal]
    exact collapsed_measures _ _
  refine ⟨rows,w,last,fun normal a inside averages => ?_,fun plain a inside => ?_⟩
  · obtain ⟨b,found,pair⟩ := sums.mpr ⟨a,inside,averages⟩
    exact (normal b found).single pair
  · refine ⟨(rows a inside).1,(rows a inside).2,fun pair => ?_⟩
    obtain ⟨b,found,averages⟩ := sums.mp ⟨a,inside,pair⟩
    exact plain b found averages

namespace Bills

def bills : Dataset :=
  { engine := .druid,source := "bills",
    attributes := [{ name := "city",type := .string },{ name := "price",type := .number },
      { name := "tax",type := .number }] }

def inCity (name : String) : Expr :=
  .is (.ref "city") (.literal (.string name))

def takings : Expr :=
  .apply (.apply .ply "Mean" (.average (.filter (.ref "data") (inCity "Basel")) (.ref "price")))
    "Net" (.sum (.ref "data") (.subtract (.ref "price") (.ref "tax")))

theorem takings_normal : ∃ folded, fold bills takings = .ok folded ∧
    folded.applies.map (·.name) = ["Mean","Net"] ∧ ∀ apply ∈ folded.applies,
      ∀ a ∈ apply.expression.aggregates, a.NormalAggregate takings folded.dataName := by
  have ran : fold bills takings = .ok _ := rfl
  refine ⟨_,ran,rfl,fun apply member => ?_⟩
  obtain ⟨-,w,last,exactly⟩ := aggregates_normal_iff ran apply member
  refine exactly.mpr fun a inside averages => ?_
  have listed : w ∈ values takings := List.mem_reverse.mp (List.mem_of_find?_eq_some last)
  have known : a = .average (.filter (.ref "data") (inCity "Basel")) (.ref "price") ∨
      a = .sum (.ref "data") (.subtract (.ref "price") (.ref "tax")) := by
    have written : (values takings).flatMap (·.expression.aggregates)
        = [.average (.filter (.ref "data") (inCity "Basel")) (.ref "price"),
          .sum (.ref "data") (.subtract (.ref "price") (.ref "tax"))] := rfl
    have among : a ∈ (values takings).flatMap (·.expression.aggregates) :=
      List.mem_flatMap.mpr ⟨w,listed,inside⟩
    rw [written] at among
    simpa using among
  rcases known with rfl | rfl <;> simp [AveragesPair,Measures,IsPair] at averages

def meanBill : Expr :=
  .average (.ref "data") (.add (.ref "price") (.ref "tax"))

theorem mean_bill_sums_pair : ∃ folded, fold bills meanBill = .ok folded ∧
    folded.applies.map (·.expression) = [.divide
      (.sum (.ref "data") (.add (.ref "price") (.ref "tax"))) (.count (.ref "data"))] ∧
    ∃ apply ∈ folded.applies, ∃ a ∈ apply.expression.aggregates,
      ¬ a.NormalAggregate meanBill folded.dataName := by
  refine ⟨_,rfl,rfl,_,List.mem_singleton_self _,
    .sum (.ref "data") (.add (.ref "price") (.ref "tax")),List.mem_cons_self,fun normal => ?_⟩
  exact normal.single ⟨.ref "data",_,rfl,"price","tax",.inl rfl⟩

end Bills

end OlapQuery
