import OlapQuery.Fold
import OlapQuery.Proofs.Simplification

-- The clauses of filters, and what is true of a filter just if it is of each of its clauses: that
-- it may stand as a filter, by its type, is. Simplified, a filter is the flat conjunction of some
-- of the clauses that it had.

namespace OlapQuery

namespace Expr

-- What is true of a conjunction just if it is of its operands, and of each literal truth.
structure Clausewise (P : Expr → Prop) : Prop where
  conjunction : ∀ es, P (.and es) ↔ ∀ e ∈ es, P e
  truth : ∀ b, P (.bool b)

-- The clauses that an expression opens into; there are none of a falsehood.
def clauses (e : Expr) : List Expr :=
  e.conjuncts?.getD []

namespace Clausewise

variable {P : Expr → Prop}

theorem opened_all {es : List Expr}
    (each : ∀ e ∈ es, ∀ cs, e.conjuncts? = some cs → (P e ↔ ∀ c ∈ cs, P c)) {cs : List Expr}
    (found : conjunctsAll? es = some cs) : (∀ e ∈ es, P e) ↔ ∀ c ∈ cs, P c := by
  induction es generalizing cs with
  | nil => cases found; simp
  | cons e rest ih =>
      obtain ⟨first,others,opened,later,rfl⟩ := conjunctsAll_cons.mp found
      rw [List.forall_mem_cons,List.forall_mem_append,each e List.mem_cons_self first opened,
        ih (fun e listed => each e (List.mem_cons_of_mem _ listed)) later]

theorem opened_plain (cw : Clausewise P) {e : Expr} (plain : ∀ es, e ≠ .and es) :
    ∀ cs, e.conjuncts? = some cs → (P e ↔ ∀ c ∈ cs, P c) := by
  intro cs found
  rcases conjunct_cases e with ⟨es,equal⟩ | ⟨b,rfl⟩ | clause
  · exact absurd equal (plain es)
  · cases b <;> cases found
    simp [cw.truth]
  · rw [conjuncts_clause clause] at found
    cases found
    simp

theorem opened (cw : Clausewise P) (e : Expr) :
    ∀ cs, e.conjuncts? = some cs → (P e ↔ ∀ c ∈ cs, P c) := by
  induction e using Expr.structural with
  | junction op es ih =>
      cases op with
      | and => exact fun cs found => (cw.conjunction es).trans (opened_all ih found)
      | or => exact cw.opened_plain (by simp)
  | literal v => exact cw.opened_plain (by simp)
  | ref name => exact cw.opened_plain (by simp)
  | ply => exact cw.opened_plain (by simp)
  | unary op e ih => exact cw.opened_plain (by simp)
  | binary op e x left right => exact cw.opened_plain (by simp)
  | split e keys dataName ih others => exact cw.opened_plain (by simp)

theorem clause (cw : Clausewise P) {e c : Expr} (whole : P e) (part : c ∈ e.clauses) : P c := by
  unfold clauses at part
  cases found : e.conjuncts? with
  | none => rw [found] at part; cases part
  | some cs =>
      rw [found] at part
      exact (cw.opened e cs found).mp whole c part

theorem andAll_exact (cw : Clausewise P) (es : List Expr) :
    P (andAll es) ↔ ∀ c ∈ (andAll es).clauses, P c := by
  cases found : (andAll es).conjuncts? with
  | some cs => rw [cw.opened _ cs found,clauses,found]; rfl
  | none =>
      rw [← conjunctsAll_singleton,conjunctsAll_andAll] at found
      have falsehood : andAll es = .bool false := by simp [andAll,found]
      simp [falsehood,cw.truth,clauses,conjuncts_bool]

end Clausewise

theorem conjunctsAll_clause {es cs : List Expr} {c : Expr} (found : conjunctsAll? es = some cs)
    (part : c ∈ cs) : ∃ e ∈ es, c ∈ e.clauses := by
  induction es generalizing cs with
  | nil => cases found; cases part
  | cons e rest ih =>
      obtain ⟨first,others,opened,later,rfl⟩ := conjunctsAll_cons.mp found
      rcases List.mem_append.mp part with own | late
      · exact ⟨e,List.mem_cons_self,by rw [clauses,opened]; exact own⟩
      · obtain ⟨f,listed,inside⟩ := ih later late
        exact ⟨f,List.mem_cons_of_mem _ listed,inside⟩

theorem andAll_clause {es : List Expr} {c : Expr} (part : c ∈ (andAll es).clauses) :
    ∃ e ∈ es, c ∈ e.clauses := by
  rw [clauses,← conjunctsAll_singleton,conjunctsAll_andAll] at part
  cases found : conjunctsAll? es with
  | none => rw [found] at part; cases part
  | some cs => exact conjunctsAll_clause found (by simpa [found] using part)

theorem foldl_addClause_subset (clauses rest : List Expr) :
    ∀ c ∈ rest.foldl addClause clauses, c ∈ clauses ++ rest := by
  induction rest generalizing clauses with
  | nil => simp
  | cons clause rest ih =>
      intro c listed
      rw [List.append_cons]
      rcases List.mem_append.mp (ih _ c listed) with early | late
      · exact List.mem_append_left _ (added_subset (addClause_added clauses clause) c early)
      · exact List.mem_append_right _ late

-- A simplified expression is the flat conjunction of some of the clauses that it had.
theorem simplifyAnd_flat (e : Expr) :
    (∃ es, e.simplifyAnd = andAll es) ∧ ∀ c ∈ e.simplifyAnd.clauses, c ∈ e.clauses := by
  unfold simplifyAnd
  split
  · rename_i cs built
    have found := andAll_clauses built
    rw [conjunctsAll_singleton] at found
    refine ⟨⟨_,rfl⟩,fun c part => ?_⟩
    obtain ⟨f,kept,inside⟩ := andAll_clause part
    have early : f ∈ cs := by simpa using foldl_addClause_subset [] cs f kept
    rw [clauses,conjuncts_clause (conjuncts_clauses e cs found f early)] at inside
    cases List.mem_singleton.mp inside
    rw [clauses,found]
    exact early
  · refine ⟨⟨[e],rfl⟩,fun c part => ?_⟩
    obtain ⟨f,only,inside⟩ := andAll_clause part
    cases List.mem_singleton.mp only
    exact inside

section Conditions

variable {resolve : String → Option DataType}

-- What may stand as a filter: a truth value, or null.
def IsCondition (resolve : String → Option DataType) (e : Expr) : Prop :=
  ∃ type, e.inferType resolve = .ok type ∧ (type = .boolean ∨ type = .null)

theorem result_bind {ε α β : Type} {x : Except ε α} {f : α → Except ε β} {b : β} :
    (x >>= f) = .ok b ↔ ∃ a, x = .ok a ∧ f a = .ok b := by
  cases x <;> simp [bind,Except.bind]

theorem expectBoolean_ok (op : String) {actual : DataType} :
    (∃ type, expectType op [.boolean] actual = .ok type) ↔ actual = .boolean ∨ actual = .null := by
  cases actual <;> simp [expectType]

theorem expectBooleans_ok (op : String) {es : List Expr} :
    expectBooleans resolve op es = .ok () ↔ ∀ e ∈ es, IsCondition resolve e := by
  induction es with
  | nil => simp [expectBooleans]
  | cons e rest ih =>
      simp only [expectBooleans,result_bind,ih,List.forall_mem_cons,IsCondition]
      simp only [← expectBoolean_ok op]
      constructor
      · rintro ⟨type,typed,found,checked,later⟩
        exact ⟨⟨type,typed,found,checked⟩,later⟩
      · rintro ⟨⟨type,typed,found,checked⟩,later⟩
        exact ⟨type,typed,found,checked,later⟩

theorem condition_junction (op : Junction) (es : List Expr) :
    IsCondition resolve (.junction op es) ↔ ∀ e ∈ es, IsCondition resolve e := by
  rw [← expectBooleans_ok op.name]
  simp only [IsCondition,inferType,result_bind]
  constructor
  · rintro ⟨type,⟨⟨⟩,checked,-⟩,-⟩
    exact checked
  · intro checked
    exact ⟨.boolean,⟨(),checked,rfl⟩,.inl rfl⟩

theorem condition_clausewise (resolve : String → Option DataType) :
    Clausewise (IsCondition resolve) :=
  ⟨condition_junction .and,fun _ => ⟨.boolean,rfl,.inl rfl⟩⟩

theorem checkBoolean_exact {s : Scope} {e : Expr} :
    s.checkBoolean e = .ok () ↔ IsCondition s.resolve e := by
  unfold Scope.checkBoolean Scope.infer IsCondition
  cases e.inferType s.resolve with
  | error fault =>
      constructor
      · intro checked
        cases checked
      · rintro ⟨_,typed,_⟩
        cases typed
  | ok type =>
      constructor
      · intro checked
        refine ⟨type,rfl,?_⟩
        cases type <;> first | exact .inl rfl | exact .inr rfl | cases checked
      · rintro ⟨_,⟨⟩,rfl | rfl⟩ <;> rfl

end Conditions

end Expr

open OlapQuery.Expr

theorem queryFilter_clause {dataset : Dataset} {filters : List Expr} {c : Expr}
    (part : c ∈ (queryFilter dataset filters).clauses) :
    c ∈ dataset.filter.clauses ∨ ∃ f ∈ filters, c ∈ f.clauses := by
  have kept := (simplifyAnd_flat (andAll (dataset.filter :: filters))).2
  obtain ⟨f,listed,inside⟩ := andAll_clause (kept c part)
  rcases List.mem_cons.mp listed with rfl | own
  · exact .inl inside
  · exact .inr ⟨f,own,inside⟩

theorem Expr.Clausewise.queryFilter_exact {P : Expr → Prop} (cw : Clausewise P) (dataset : Dataset)
    (filters : List Expr) :
    P (queryFilter dataset filters) ↔ ∀ c ∈ (queryFilter dataset filters).clauses, P c := by
  obtain ⟨es,flat⟩ := (simplifyAnd_flat (andAll (dataset.filter :: filters))).1
  rw [queryFilter,flat]
  exact cw.andAll_exact es

end OlapQuery
