import OlapQuery.Expr.Conjunction
import OlapQuery.Proofs.Structure

-- What conditions mean. A reading says which conditions hold of which rows; it has to respect
-- conjunctions and the literal truths, and is free in everything else. The flat conjunction of
-- expressions holds of a row exactly when all of them do, in every reading.

namespace OlapQuery

structure Reading (ρ : Type u) where
  holds : ρ → Expr → Prop
  holds_bool : ∀ row b, holds row (.bool b) ↔ b = true
  holds_and : ∀ row es, holds row (.and es) ↔ ∀ e ∈ es, holds row e

-- A reading with values: an equality with a literal compares the value of its operand with
-- what the literal stands for, and a membership asks whether the value lies inside its right
-- side. Expressions that the program takes to be the same are read alike.
structure ValueReading (ρ : Type u) (α : Type v) extends Reading ρ where
  value : ρ → Expr → α
  constant : Value → α
  inside : ρ → α → Expr → Prop
  holds_is : ∀ row e v, holds row (.is e (.literal v)) ↔ value row e = constant v
  holds_member : ∀ row e s, holds row (.member e s) ↔ inside row (value row e) s
  value_same : ∀ row a b, Expr.same a b = true → value row a = value row b
  holds_same : ∀ row a b, Expr.same a b = true → (holds row a ↔ holds row b)

open Time (Instant)

-- An instant lies in a range from its start on and before its end; a missing bound is open.
def TimeRange.contains (r : TimeRange) (t : Instant) : Bool :=
  r.start.all (fun s => s.le t) && r.finish.all (fun e => !e.le t)

-- A row that has an instant in a column: the comparisons of the column with a literal come out
-- as the instant lies to the literal. A set asks for one of its instants or ranges.
structure Reading.ReadsTime {ρ : Type u} (S : Reading ρ) (row : ρ) (column : String) (t : Instant) :
    Prop where
  is : ∀ u, S.holds row (.is (.ref column) (.literal (.time u))) ↔ t = u
  inRange : ∀ r, S.holds row (.member (.ref column) (.literal (.timeRange r))) ↔ r.contains t = true
  inSet : ∀ type elements, S.holds row (.member (.ref column) (.literal (.set type elements))) ↔
    ∃ v ∈ elements, v = .time t ∨ ∃ r, v = .timeRange r ∧ r.contains t = true
  greaterThan : ∀ u, S.holds row (.greaterThan (.ref column) (.literal (.time u))) ↔ t.le u = false
  greaterThanOrEqual : ∀ u,
    S.holds row (.greaterThanOrEqual (.ref column) (.literal (.time u))) ↔ u.le t = true
  lessThan : ∀ u, S.holds row (.lessThan (.ref column) (.literal (.time u))) ↔ u.le t = false
  lessThanOrEqual : ∀ u,
    S.holds row (.lessThanOrEqual (.ref column) (.literal (.time u))) ↔ t.le u = true

namespace Expr

theorem isTrue_exact {e : Expr} : e.isTrue = true ↔ e = .bool true := by
  constructor
  · intro truth
    unfold isTrue at truth
    split at truth
    · rw [truth]
    · cases truth
  · intro equal; rw [equal]; rfl

theorem isFalse_exact {e : Expr} : e.isFalse = true ↔ e = .bool false := by
  constructor
  · intro falsehood
    unfold isFalse at falsehood
    split at falsehood
    · rename_i b
      cases b
      · rfl
      · cases falsehood
    · cases falsehood
  · intro equal; rw [equal]; rfl

-- What is left when a conjunction has been opened.
def IsClause (e : Expr) : Prop :=
  (∀ es, e ≠ .and es) ∧ ∀ b, e ≠ .bool b

theorem conjuncts_other {e : Expr} (plain : ∀ es, e ≠ .and es) :
    e.conjuncts? = if e.isTrue then some [] else if e.isFalse then none else some [e] := by
  unfold conjuncts?
  split
  · rename_i es; exact absurd rfl (plain es)
  · rfl

theorem conjuncts_clause {e : Expr} (clause : e.IsClause) : e.conjuncts? = some [e] := by
  rw [conjuncts_other clause.1,if_neg,if_neg]
  · intro falsehood; exact clause.2 false (isFalse_exact.mp falsehood)
  · intro truth; exact clause.2 true (isTrue_exact.mp truth)

theorem conjunct_cases (e : Expr) :
    (∃ es, e = .and es) ∨ (∃ b, e = .bool b) ∨ e.IsClause := by
  by_cases conjunction : ∃ es, e = .and es
  · exact .inl conjunction
  by_cases truth : ∃ b, e = .bool b
  · exact .inr (.inl truth)
  refine .inr (.inr ⟨?_,?_⟩)
  · intro es equal; exact conjunction ⟨es,equal⟩
  · intro b equal; exact truth ⟨b,equal⟩

theorem conjuncts_bool (b : Bool) :
    (Expr.bool b).conjuncts? = if b then some [] else none := by
  cases b <;> rfl

theorem conjunctsAll_cons {e : Expr} {rest clauses : List Expr} :
    conjunctsAll? (e :: rest) = some clauses ↔
      ∃ first others, e.conjuncts? = some first ∧ conjunctsAll? rest = some others ∧
        clauses = first ++ others := by
  simp only [conjunctsAll?,Option.bind_eq_bind,Option.bind_eq_some_iff,Option.some.injEq]
  constructor
  · rintro ⟨first,found,others,rest,rfl⟩; exact ⟨first,others,found,rest,rfl⟩
  · rintro ⟨first,others,found,rest,rfl⟩; exact ⟨first,found,others,rest,rfl⟩

theorem conjunctsAll_clauses {es : List Expr}
    (each : ∀ e ∈ es, ∀ clauses, e.conjuncts? = some clauses → ∀ c ∈ clauses, c.IsClause) :
    ∀ clauses, conjunctsAll? es = some clauses → ∀ c ∈ clauses, c.IsClause := by
  induction es with
  | nil =>
      intro clauses found
      simp only [conjunctsAll?,Option.some.injEq] at found
      subst clauses; simp
  | cons e rest ih =>
      intro clauses found c member
      obtain ⟨first,others,foundFirst,foundOthers,rfl⟩ := conjunctsAll_cons.mp found
      rcases List.mem_append.mp member with early | late
      · exact each e List.mem_cons_self first foundFirst c early
      · exact ih (fun e member => each e (List.mem_cons_of_mem _ member)) others foundOthers c late

theorem plain_clauses {e : Expr} (plain : ∀ es, e ≠ .and es) :
    ∀ clauses, e.conjuncts? = some clauses → ∀ c ∈ clauses, c.IsClause := by
  intro clauses found c member
  rcases conjunct_cases e with ⟨es,equal⟩ | ⟨b,rfl⟩ | clause
  · exact absurd equal (plain es)
  · rw [conjuncts_bool] at found
    cases b with
    | true => simp only [if_true,Option.some.injEq] at found; subst clauses; cases member
    | false => simp at found
  · rw [conjuncts_clause clause] at found
    cases found
    rw [List.mem_singleton.mp member]; exact clause

theorem conjuncts_clauses (e : Expr) :
    ∀ clauses, e.conjuncts? = some clauses → ∀ c ∈ clauses, c.IsClause := by
  induction e using Expr.structural with
  | junction op es ih =>
      cases op with
      | and => exact conjunctsAll_clauses ih
      | or => exact plain_clauses (by simp)
  | literal v => exact plain_clauses (by simp)
  | ref name => exact plain_clauses (by simp)
  | ply => exact plain_clauses (by simp)
  | unary op e ih => exact plain_clauses (by simp)
  | binary op e x left right => exact plain_clauses (by simp)
  | split e keys dataName ih others => exact plain_clauses (by simp)

theorem clauses_of_all {es clauses : List Expr} (found : conjunctsAll? es = some clauses) :
    ∀ c ∈ clauses, c.IsClause :=
  conjunctsAll_clauses (fun e _ => conjuncts_clauses e) clauses found

theorem andAll_clauses {es clauses : List Expr} (built : andAll es = .and clauses) :
    conjunctsAll? es = some clauses := by
  unfold andAll at built
  split at built
  · cases built
  · cases built
  · rename_i only found
    exact absurd built ((clauses_of_all found only (List.mem_singleton.mpr rfl)).1 clauses)
  · rename_i several _ _ found
    cases built; exact found

theorem andAll_single {es clauses : List Expr} (found : conjunctsAll? es = some clauses)
    (other : ∀ operands, andAll es ≠ .and operands) : clauses.length ≤ 1 := by
  unfold andAll at other
  rw [found] at other
  match clauses,other with
  | [],_ => simp
  | [_],_ => simp
  | a :: b :: rest,other => exact absurd rfl (other (a :: b :: rest))

theorem conjunctsAll_opened {clauses : List Expr} (plain : ∀ c ∈ clauses, c.IsClause) :
    conjunctsAll? clauses = some clauses := by
  induction clauses with
  | nil => rfl
  | cons c rest ih =>
      have tail := ih (fun c member => plain c (List.mem_cons_of_mem _ member))
      have first := conjuncts_clause (plain c List.mem_cons_self)
      exact conjunctsAll_cons.mpr ⟨[c],rest,first,tail,rfl⟩

theorem conjunctsAll_singleton (e : Expr) : conjunctsAll? [e] = e.conjuncts? := by
  cases found : e.conjuncts? <;> simp [conjunctsAll?,found]

theorem conjunctsAll_andAll (es : List Expr) : conjunctsAll? [andAll es] = conjunctsAll? es := by
  rw [conjunctsAll_singleton]
  unfold andAll
  split
  · rename_i found; rw [found]; rfl
  · rename_i found; rw [found]; rfl
  · rename_i e found
    rw [found]; exact conjuncts_clause (clauses_of_all found e (List.mem_singleton.mpr rfl))
  · rename_i clauses _ _ found
    rw [found]; exact conjunctsAll_opened (clauses_of_all found)

end Expr

namespace Reading
open OlapQuery.Expr

variable {ρ : Type u} (S : Reading ρ) (row : ρ)

theorem opened_all {es : List Expr}
    (each : ∀ e ∈ es, (S.holds row e ↔ ∃ clauses, e.conjuncts? = some clauses ∧
      ∀ c ∈ clauses, S.holds row c)) :
    (∀ e ∈ es, S.holds row e) ↔ ∃ clauses, conjunctsAll? es = some clauses ∧
      ∀ c ∈ clauses, S.holds row c := by
  induction es with
  | nil => simp [conjunctsAll?]
  | cons e rest ih =>
      have tail := ih (fun e member => each e (List.mem_cons_of_mem _ member))
      rw [List.forall_mem_cons,each e List.mem_cons_self,tail]
      constructor
      · rintro ⟨⟨first,foundFirst,holdsFirst⟩,others,foundOthers,holdsOthers⟩
        refine ⟨first ++ others,conjunctsAll_cons.mpr ⟨first,others,foundFirst,foundOthers,rfl⟩,?_⟩
        exact List.forall_mem_append.mpr ⟨holdsFirst,holdsOthers⟩
      · rintro ⟨clauses,found,held⟩
        obtain ⟨first,others,foundFirst,foundOthers,rfl⟩ := conjunctsAll_cons.mp found
        obtain ⟨holdsFirst,holdsOthers⟩ := List.forall_mem_append.mp held
        exact ⟨⟨first,foundFirst,holdsFirst⟩,others,foundOthers,holdsOthers⟩

theorem opened_plain {e : Expr} (plain : ∀ es, e ≠ .and es) :
    S.holds row e ↔ ∃ clauses, e.conjuncts? = some clauses ∧ ∀ c ∈ clauses, S.holds row c := by
  rcases conjunct_cases e with ⟨es,equal⟩ | ⟨b,rfl⟩ | clause
  · exact absurd equal (plain es)
  · rw [S.holds_bool,conjuncts_bool]
    cases b <;> simp
  · rw [conjuncts_clause clause]; simp

-- An expression holds when it can be opened, no literal falsehood met, and all its clauses hold.
theorem opened (e : Expr) :
    S.holds row e ↔ ∃ clauses, e.conjuncts? = some clauses ∧ ∀ c ∈ clauses, S.holds row c := by
  induction e using Expr.structural with
  | junction op es ih =>
      cases op with
      | and => rw [S.holds_and]; exact S.opened_all row ih
      | or => exact S.opened_plain row (by simp)
  | literal v => exact S.opened_plain row (by simp)
  | ref name => exact S.opened_plain row (by simp)
  | ply => exact S.opened_plain row (by simp)
  | unary op e ih => exact S.opened_plain row (by simp)
  | binary op e x left right => exact S.opened_plain row (by simp)
  | split e keys dataName ih others => exact S.opened_plain row (by simp)

theorem holds_clauses (es : List Expr) :
    (∀ e ∈ es, S.holds row e) ↔ ∃ clauses, conjunctsAll? es = some clauses ∧
      ∀ c ∈ clauses, S.holds row c :=
  S.opened_all row (fun e _ => S.opened row e)

theorem holds_andAll (es : List Expr) : S.holds row (andAll es) ↔ ∀ e ∈ es, S.holds row e := by
  rw [S.holds_clauses]
  unfold andAll
  split
  · rename_i found; simp [S.holds_bool,found]
  · rename_i found; simp [S.holds_bool,found]
  · rename_i e found; simp [found]
  · rename_i clauses _ _ found; rw [S.holds_and]; simp [found]

end Reading

end OlapQuery
