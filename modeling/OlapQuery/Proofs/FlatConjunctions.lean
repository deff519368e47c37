import OlapQuery.Proofs.Reading

-- The flat conjunction in terms of the leaves of what it is built from. A literal falsehood among
-- them, however deep, is all that is left; without one the leaves stay in their order, but for the
-- literal truths. So the result asks of a row what the expressions asked together, has the one
-- form that conjunctions have here, and building it once more changes nothing.

namespace OlapQuery

namespace Expr

-- What nested conjunctions hold, from left to right.
mutual
def leaves : Expr → List Expr
  | .junction .and es => leavesAll es
  | e => [e]

def leavesAll : List Expr → List Expr
  | [] => []
  | e :: rest => leaves e ++ leavesAll rest
end

theorem leavesAll_flatMap (es : List Expr) : leavesAll es = es.flatMap leaves := by
  induction es with
  | nil => simp [leavesAll]
  | cons e rest ih => simp [leavesAll,ih]

theorem leaves_plain {e : Expr} (plain : ∀ es, e ≠ .and es) : e.leaves = [e] := by
  unfold leaves
  split
  · rename_i es; exact absurd rfl (plain es)
  · rfl

-- What is left of leaves: none of them is a literal then.
def remaining (leaves : List Expr) : Option (List Expr) :=
  if leaves.any isFalse then none else some (leaves.filter fun leaf => !leaf.isTrue)

theorem remaining_append (early late : List Expr) :
    remaining (early ++ late) = (remaining early).bind fun first =>
      (remaining late).map (first ++ ·) := by
  unfold remaining
  rw [List.any_append,List.filter_append]
  cases early.any isFalse <;> cases late.any isFalse <;> rfl

theorem conjunctsAll_flatMap {es : List Expr} (each : ∀ e ∈ es, e.conjuncts? = remaining e.leaves) :
    conjunctsAll? es = remaining (es.flatMap leaves) := by
  induction es with
  | nil => rfl
  | cons e rest ih =>
      rw [List.flatMap_cons,remaining_append,← each e List.mem_cons_self,
        ← ih fun e listed => each e (List.mem_cons_of_mem _ listed)]
      cases first : e.conjuncts? <;> cases others : conjunctsAll? rest <;>
        simp [conjunctsAll?,first,others]

theorem conjuncts_plain {e : Expr} (plain : ∀ es, e ≠ .and es) :
    e.conjuncts? = remaining e.leaves := by
  rw [conjuncts_other plain,leaves_plain plain]
  cases truth : e.isTrue with
  | true => simp [isTrue_exact.mp truth,remaining,isTrue,isFalse]
  | false => cases falsehood : e.isFalse <;> simp [remaining,truth,falsehood]

theorem conjuncts_leaves (e : Expr) : e.conjuncts? = remaining e.leaves := by
  induction e using Expr.structural with
  | junction op es ih =>
      cases op with
      | and => rw [conjuncts?,leaves,leavesAll_flatMap,conjunctsAll_flatMap ih]
      | or => exact conjuncts_plain (by simp)
  | literal v => exact conjuncts_plain (by simp)
  | ref name => exact conjuncts_plain (by simp)
  | ply => exact conjuncts_plain (by simp)
  | unary op e ih => exact conjuncts_plain (by simp)
  | binary op e x left right => exact conjuncts_plain (by simp)
  | split e keys dataName ih others => exact conjuncts_plain (by simp)

theorem conjunctsAll_leaves (es : List Expr) : conjunctsAll? es = remaining (leavesAll es) := by
  rw [leavesAll_flatMap,conjunctsAll_flatMap fun e _ => conjuncts_leaves e]

-- Leaves and what they are conjoined to.
inductive Conjoined (leaves : List Expr) : Expr → Prop where
  | falsehood (met : .bool false ∈ leaves) : Conjoined leaves (.bool false)
  | truth (only : ∀ leaf ∈ leaves, leaf = .bool true) : Conjoined leaves (.bool true)
  | single (unmet : .bool false ∉ leaves) (left : leaves.filter (fun leaf => !leaf.isTrue) = [c])
      (clause : c.IsClause) : Conjoined leaves c
  | several (unmet : .bool false ∉ leaves)
      (left : leaves.filter (fun leaf => !leaf.isTrue) = clauses) (many : 2 ≤ clauses.length)
      (each : ∀ c ∈ clauses, c.IsClause) : Conjoined leaves (.and clauses)

theorem remaining_none {leaves : List Expr} : remaining leaves = none ↔ .bool false ∈ leaves := by
  unfold remaining
  split
  · rename_i met
    obtain ⟨leaf,listed,falsehood⟩ := List.any_eq_true.mp met
    simpa using isFalse_exact.mp falsehood ▸ listed
  · rename_i unmet
    simp only [reduceCtorEq,false_iff]
    exact fun listed => unmet (List.any_eq_true.mpr ⟨_,listed,rfl⟩)

theorem remaining_some {leaves clauses : List Expr} : remaining leaves = some clauses ↔
    .bool false ∉ leaves ∧ leaves.filter (fun leaf => !leaf.isTrue) = clauses := by
  rw [← remaining_none]
  unfold remaining
  split <;> simp

theorem andAll_conjoined (es : List Expr) : Conjoined (leavesAll es) (andAll es) := by
  unfold andAll
  split
  · rename_i found
    exact .falsehood (remaining_none.mp (conjunctsAll_leaves es ▸ found))
  · rename_i found
    obtain ⟨-,left⟩ := remaining_some.mp (conjunctsAll_leaves es ▸ found)
    refine .truth fun leaf listed => isTrue_exact.mp ?_
    simpa using List.filter_eq_nil_iff.mp left leaf listed
  · rename_i c found
    obtain ⟨unmet,left⟩ := remaining_some.mp (conjunctsAll_leaves es ▸ found)
    exact .single unmet left (clauses_of_all found c (List.mem_singleton.mpr rfl))
  · rename_i clauses nonempty plural found
    obtain ⟨unmet,left⟩ := remaining_some.mp (conjunctsAll_leaves es ▸ found)
    refine .several unmet left ?_ (clauses_of_all found)
    match clauses,nonempty,plural with
    | [],nonempty,_ => exact absurd rfl nonempty
    | [c],_,plural => exact absurd rfl (plural c)
    | _ :: _ :: _,_,_ => exact Nat.le_add_left 2 _

theorem andAll_again (es : List Expr) : andAll [andAll es] = andAll es := by
  rw [andAll,conjunctsAll_andAll,← andAll]

end Expr

open OlapQuery.Expr

-- Every evaluation that respects conjunctions and the literal truths finds the flat conjunction
-- true just where it finds all expressions true; the result is a literal truth, a falsehood, a
-- clause, or the conjunction of two clauses or more, the leaves in their order; and it is its own
-- flat conjunction.
theorem flat_conjunction_sound_normal (es : List Expr) :
    (∀ {ρ : Type u} (S : Reading ρ) (row : ρ),
      S.holds row (andAll es) ↔ ∀ e ∈ es, S.holds row e) ∧
    Conjoined (leavesAll es) (andAll es) ∧
    andAll [andAll es] = andAll es :=
  ⟨fun S row => S.holds_andAll row es,andAll_conjoined es,andAll_again es⟩

end OlapQuery
