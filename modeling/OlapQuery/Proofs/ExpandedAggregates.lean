import Mathlib.Algebra.BigOperators.Group.List.Basic
import Mathlib.Tactic.Linarith
import Mathlib.Tactic.NormNum
import OlapQuery.Proofs.Hoisting
import OlapQuery.Proofs.TokenStructure

-- Aggregates that are folded into arithmetic: what both forms are written as in SQL, and what an
-- engine makes of them. An average becomes a sum over the number of rows, so that rows without the
-- measure count; the sum of two columns becomes two sums, so that a row without one of them still
-- counts with the other. A row that the filters leave out adds nothing to a sum, but it keeps the sum
-- from being null.

namespace OlapQuery.Sql

-- The filters of an aggregate as clauses, none when they cannot hold.
abbrev RowCondition := Option (List Expr)

inductive AggregateCall where
  | sum (condition : RowCondition) (measure : Expr)
  | average (condition : RowCondition) (measure : Expr)
  | rows (condition : RowCondition)

inductive AggregateFormula where
  | call (call : AggregateCall)
  | add (left right : AggregateFormula)
  | subtract (left right : AggregateFormula)
  | divide (left right : AggregateFormula)

-- The condition under which a row counts; none when every row does.
def RowCondition.text (r : Renderer) : RowCondition → Compiled (Option String)
  | none => .ok (some (r.dialect.formatBool false))
  | some [] => .ok none
  | some [one] => (r.render one).map some
  | some clauses => do return some (joined " AND " (← clauses.mapM r.render))

namespace AggregateCall

def measured (r : Renderer) (condition : RowCondition) (measure : Expr) (otherwise : String) :
    Compiled String := do
  let value ← r.render measure
  match ← condition.text r with
  | none => return value
  | some holds => return "CASE WHEN " ++ holds ++ " THEN " ++ value ++ " ELSE " ++ otherwise ++ " END"

def text (r : Renderer) : AggregateCall → Compiled String
  | .sum condition measure => do return "SUM(" ++ (← measured r condition measure "0") ++ ")"
  | .average condition measure => do
      return "AVG(" ++ (← measured r condition measure Dialect.null) ++ ")"
  | .rows condition => do
      match ← condition.text r with
      | none => return "COUNT(*)"
      | some holds => return "SUM(CASE WHEN " ++ holds ++ " THEN 1 ELSE 0 END)"

end AggregateCall

namespace AggregateFormula

def text (r : Renderer) : AggregateFormula → Compiled String
  | .call c => c.text r
  | .add left right => do return "(" ++ (← left.text r) ++ "+" ++ (← right.text r) ++ ")"
  | .subtract left right => do return "(" ++ (← left.text r) ++ "-" ++ (← right.text r) ++ ")"
  | .divide left right => do return "(" ++ (← left.text r) ++ "/" ++ (← right.text r) ++ ")"

def conditionOf? (dataset : Expr) : Option RowCondition :=
  dataset.datasetChain?.map fun chain => Expr.conjunctsAll? chain.2

-- Counts, sums and averages over a dataset under filters, and arithmetic on them.
def ofExpr? : Expr → Option AggregateFormula
  | .count e => (conditionOf? e).map fun condition => .call (.rows condition)
  | .sum e x => (conditionOf? e).map fun condition => .call (.sum condition x)
  | .average e x => (conditionOf? e).map fun condition => .call (.average condition x)
  | .add a b => do return .add (← ofExpr? a) (← ofExpr? b)
  | .subtract a b => do return .subtract (← ofExpr? a) (← ofExpr? b)
  | .divide a b => do return .divide (← ofExpr? a) (← ofExpr? b)
  | _ => none

end AggregateFormula

namespace Renderer

theorem bothClauses_map (f : Expr → Compiled String) (a b : Option (List Expr)) :
    bothClauses (a.map (·.map f)) (b.map (·.map f))
      = (a.bind fun xs => b.map (xs ++ ·)).map (·.map f) := by
  cases a <;> cases b <;> simp [bothClauses]

theorem conjunctsAll_append (es fs : List Expr) :
    Expr.conjunctsAll? (es ++ fs)
      = (Expr.conjunctsAll? es).bind fun xs => (Expr.conjunctsAll? fs).map (xs ++ ·) := by
  induction es with
  | nil => simp [Expr.conjunctsAll?]
  | cons e rest ih =>
      simp only [List.cons_append,Expr.conjunctsAll?,ih]
      cases e.conjuncts? <;> cases Expr.conjunctsAll? rest <;>
        cases Expr.conjunctsAll? fs <;> simp

theorem rendered_conjunction (r : Renderer) {es : List Expr}
    (each : ∀ e ∈ es, (r.rendered e).clauses = e.conjuncts?.map (·.map r.render))
    (before : Option (List Expr)) :
    (es.map r.rendered).foldl (fun clauses part => bothClauses clauses part.clauses)
        (before.map (·.map r.render))
      = (before.bind fun xs => (Expr.conjunctsAll? es).map (xs ++ ·)).map (·.map r.render) := by
  induction es generalizing before with
  | nil => simp [Expr.conjunctsAll?]
  | cons e rest ih =>
      obtain ⟨first,later⟩ := List.forall_mem_cons.mp each
      have opened := conjunctsAll_append [e] rest
      rw [Expr.conjunctsAll_singleton,List.singleton_append] at opened
      rw [List.map_cons,List.foldl_cons,first,bothClauses_map,ih later,opened]
      cases before <;> cases e.conjuncts? <;> cases Expr.conjunctsAll? rest <;> simp

theorem rendered_clauses (r : Renderer) (e : Expr) :
    (r.rendered e).clauses = e.conjuncts?.map (·.map r.render) := by
  induction e using Expr.structural with
  | literal v =>
      cases v with
      | boolean b => cases b <;> rfl
      | _ => rfl
  | ref name => rfl
  | ply => rfl
  | unary op e ih => rfl
  | binary op e x left right => rfl
  | split e keys dataName operand each => rfl
  | junction op es each =>
      cases op with
      | or => rfl
      | and =>
          have opened := rendered_conjunction r each (some [])
          rw [← renderedAll_map] at opened
          simpa [rendered,Expr.conjuncts?] using opened

theorem rendered_filters (r : Renderer) {e : Expr} {root : String} {filters : List Expr}
    (chain : e.datasetChain? = some (root,filters)) :
    (r.rendered e).filters = some ((Expr.conjunctsAll? filters).map (·.map r.render)) := by
  induction e using Expr.structural generalizing filters with
  | ref name =>
      cases chain
      rfl
  | binary op e x left right =>
      cases op with
      | filter =>
          obtain ⟨⟨root',before⟩,inner,is⟩ := Option.map_eq_some_iff.mp chain
          cases is
          have both := bothClauses_map r.render (Expr.conjunctsAll? before) x.conjuncts?
          rw [rendered]
          simp only [left inner,rendered_clauses]
          rw [conjunctsAll_append,Expr.conjunctsAll_singleton]
          exact congrArg some both
      | _ => cases chain
  | _ => cases chain

theorem aggregateFilter_text (r : Renderer) {e : Expr} {condition : RowCondition} (name : String)
    (chosen : AggregateFormula.conditionOf? e = some condition) :
    r.aggregateFilter name (r.rendered e) = condition.text r := by
  obtain ⟨⟨root,filters⟩,chain,rfl⟩ := Option.map_eq_some_iff.mp chosen
  rw [aggregateFilter,rendered_filters r chain]
  cases Expr.conjunctsAll? filters with
  | none => rfl
  | some clauses =>
      cases clauses with
      | nil => rfl
      | cons first rest =>
          cases rest with
          | nil => rfl
          | cons second rest =>
              change (List.mapM id ((first :: second :: rest).map r.render) >>= _) = _
              rw [List.mapM_map]
              rfl

theorem measure_text (r : Renderer) {e x : Expr} {condition : RowCondition}
    (chosen : AggregateFormula.conditionOf? e = some condition) (otherwise : String) :
    r.filtered e.opName (r.rendered e) (r.rendered x) otherwise
      = AggregateCall.measured r condition x otherwise := by
  rw [filtered,aggregateFilter_text r _ chosen]
  rfl

theorem render_formula (r : Renderer) {e : Expr} {f : AggregateFormula}
    (is : AggregateFormula.ofExpr? e = some f) : r.render e = f.text r := by
  induction e using Expr.structural generalizing f with
  | unary op e ih =>
      cases op with
      | count =>
          obtain ⟨condition,chosen,rfl⟩ := Option.map_eq_some_iff.mp is
          change r.unary .count e (r.rendered e) = _
          rw [unary]
          simp only [aggregateFilter_text r _ chosen]
          rfl
      | _ => cases is
  | binary op e x left right =>
      have aggregate (function otherwise : String) {condition : RowCondition}
          (chosen : AggregateFormula.conditionOf? e = some condition) :
          (do return function ++ (← r.filtered e.opName (r.rendered e) (r.rendered x) otherwise) ++ ")" :
              Compiled String)
            = (do return function ++ (← AggregateCall.measured r condition x otherwise) ++ ")") := by
        rw [measure_text r chosen]
      have infixed {mark : String} {g h : AggregateFormula}
          (first : AggregateFormula.ofExpr? e = some g)
          (second : AggregateFormula.ofExpr? x = some h) :
          (do return "(" ++ (← r.render e) ++ mark ++ (← r.render x) ++ ")" : Compiled String)
            = (do return "(" ++ (← g.text r) ++ mark ++ (← h.text r) ++ ")") := by
        rw [left first,right second]
      cases op with
      | sum =>
          obtain ⟨condition,chosen,rfl⟩ := Option.map_eq_some_iff.mp is
          exact aggregate "SUM(" "0" chosen
      | average =>
          obtain ⟨condition,chosen,rfl⟩ := Option.map_eq_some_iff.mp is
          exact aggregate "AVG(" Dialect.null chosen
      | add =>
          obtain ⟨g,first,is⟩ := Option.bind_eq_some_iff.mp is
          obtain ⟨h,second,is⟩ := Option.bind_eq_some_iff.mp is
          cases is
          exact infixed first second
      | subtract =>
          obtain ⟨g,first,is⟩ := Option.bind_eq_some_iff.mp is
          obtain ⟨h,second,is⟩ := Option.bind_eq_some_iff.mp is
          cases is
          exact infixed first second
      | divide =>
          obtain ⟨g,first,is⟩ := Option.bind_eq_some_iff.mp is
          obtain ⟨h,second,is⟩ := Option.bind_eq_some_iff.mp is
          cases is
          exact infixed first second
      | _ => cases is
  | _ => cases is

end Renderer

-- What is computed over a group of rows.
inductive Computed where
  | null
  | number (q : ℚ)
  | failed

namespace Computed

def sum (known : List ℚ) : Computed :=
  if known = [] then .null else .number known.sum

def average (known : List ℚ) : Computed :=
  if known = [] then .null else .number (known.sum / known.length)

-- Arithmetic with null is null.
def arithmetic (op : ℚ → ℚ → Computed) : Computed → Computed → Computed
  | .number q,.number r => op q r
  | .failed,_ => .failed
  | _,.failed => .failed
  | _,_ => .null

end Computed

-- An engine: the conditions that are true of a row, the measures it has, where a sum or difference
-- is null if a part of it is, and what it makes of a division by zero. Numbers are exact.
structure RowEngine (ρ : Type u) where
  holds : ρ → Expr → Bool
  amount : ρ → Expr → Option ℚ
  amount_add : ∀ row x y,
    amount row (.add x y) = (do return (← amount row x) + (← amount row y))
  amount_subtract : ∀ row x y,
    amount row (.subtract x y) = (do return (← amount row x) - (← amount row y))
  overZero : ℚ → Computed

namespace RowEngine

variable {ρ : Type u} (S : RowEngine ρ) (condition : RowCondition) (rows : List ρ)

def passes (row : ρ) : Bool :=
  match condition with
  | none => false
  | some clauses => clauses.all (S.holds row)

-- The values that an aggregate skips no more, with a value for rows that do not count.
def measured (otherwise : Option ℚ) (x : Expr) : List ℚ :=
  rows.filterMap fun row => if S.passes condition row then S.amount row x else otherwise

def count : Computed :=
  match condition with
  | some [] => .number rows.length
  | condition => .sum (rows.map fun row => if S.passes condition row then 1 else 0)

def call : AggregateCall → Computed
  | .sum condition x => .sum (S.measured condition rows (some 0) x)
  | .average condition x => .average (S.measured condition rows none x)
  | .rows condition => S.count condition rows

def value : AggregateFormula → Computed
  | .call c => S.call rows c
  | .add f g => .arithmetic (fun q r => .number (q + r)) (value f) (value g)
  | .subtract f g => .arithmetic (fun q r => .number (q - r)) (value f) (value g)
  | .divide f g =>
      .arithmetic (fun q r => if r = 0 then S.overZero q else .number (q / r)) (value f) (value g)

-- The rows that count, and the measures they have.
def counted : List ρ :=
  rows.filter (S.passes condition)

def known (x : Expr) : List ℚ :=
  (S.counted condition rows).filterMap (S.amount · x)

-- The measures of rows that do not have the other.
def lone (x y : Expr) : ℚ :=
  ((S.counted condition rows).filterMap fun row =>
    match S.amount row y with
    | none => S.amount row x
    | some _ => none).sum

def Whole : Prop :=
  ∀ row ∈ rows, S.passes condition row = true

-- An average is kept if every row that counts has the measure. If some have it and some do not,
-- it has to be zero; if none has, all rows have to count, or none at all where zero over zero is
-- null.
structure AverageKept (x : Expr) : Prop where
  some : S.known condition rows x ≠ [] →
    (S.known condition rows x).length = (S.counted condition rows).length ∨
      (S.known condition rows x).sum = 0
  none : S.known condition rows x = [] →
    S.Whole condition rows ∨ S.counted condition rows = [] ∧ S.overZero 0 = .null

-- The sum of two columns is kept if what rows have of one column only comes to nothing. If no
-- row has both and all count, no row may have the one or no row the other.
structure SumKept (total x y : Expr) (sign : ℚ) : Prop where
  some : ¬(S.Whole condition rows ∧ S.known condition rows total = []) →
    S.lone condition rows x y + sign * S.lone condition rows y x = 0
  none : S.Whole condition rows → S.known condition rows total = [] →
    S.known condition rows x = [] ∨ S.known condition rows y = []

def Kept : Expr → Prop
  | .average _ x => S.AverageKept condition rows x
  | .sum _ (.add x y) => S.SumKept condition rows (.add x y) x y 1
  | .sum _ (.subtract x y) => S.SumKept condition rows (.subtract x y) x y (-1)
  | _ => True

variable {condition rows}

theorem measured_known (x : Expr) :
    S.measured condition rows none x = S.known condition rows x :=
  List.filterMap_filter.symm

theorem measured_sum (x : Expr) :
    (S.measured condition rows (some 0) x).sum = (S.known condition rows x).sum := by
  unfold measured known counted
  induction rows with
  | nil => rfl
  | cons row rest ih =>
      cases passed : S.passes condition row with
      | false => simp [passed,ih]
      | true => cases held : S.amount row x <;> simp [passed,held,ih]

theorem measured_nil (x : Expr) : S.measured condition rows (some 0) x = [] ↔
    S.Whole condition rows ∧ S.known condition rows x = [] := by
  unfold measured known counted Whole
  induction rows with
  | nil => simp
  | cons row rest ih =>
      cases passed : S.passes condition row with
      | false => simp [passed]
      | true => cases held : S.amount row x <;> simp [passed,held,ih]

variable {S}

theorem sum_null {x : Expr} (whole : S.Whole condition rows) (none : S.known condition rows x = []) :
    S.call rows (.sum condition x) = .null :=
  if_pos ((S.measured_nil x).mpr ⟨whole,none⟩)

theorem sum_number {x : Expr} (some : ¬(S.Whole condition rows ∧ S.known condition rows x = [])) :
    S.call rows (.sum condition x) = .number (S.known condition rows x).sum := by
  change Computed.sum _ = _
  rw [Computed.sum,if_neg (mt (S.measured_nil x).mp some),measured_sum]

theorem counted_sum : (rows.map fun row => if S.passes condition row then (1 : ℚ) else 0).sum
    = (S.counted condition rows).length := by
  unfold counted
  induction rows with
  | nil => rfl
  | cons row rest ih =>
      cases passed : S.passes condition row <;> simp [passed,ih,add_comm]

theorem count_cases (S : RowEngine ρ) (condition : RowCondition) (rows : List ρ) :
    S.count condition rows = .number (S.counted condition rows).length ∨
      S.count condition rows
        = .sum (rows.map fun row => if S.passes condition row then 1 else 0) := by
  unfold count
  split
  · have all : S.counted (some []) rows = rows := List.filter_eq_self.mpr fun _ _ => rfl
    exact .inl (by rw [all])
  · exact .inr rfl

theorem count_number (some : rows ≠ []) :
    S.count condition rows = .number (S.counted condition rows).length := by
  rcases S.count_cases condition rows with is | is
  · exact is
  · rw [is,Computed.sum,if_neg (by simpa using some),counted_sum]

theorem count_computed : S.count condition rows ≠ .failed := by
  rcases S.count_cases condition rows with is | is
  · rw [is]
    nofun
  · rw [is,Computed.sum]
    split <;> nofun

theorem sum_computed (x : Expr) : S.call rows (.sum condition x) ≠ .failed := by
  change Computed.sum _ ≠ _
  unfold Computed.sum
  split <;> nofun

theorem null_arithmetic {c : Computed} (op : ℚ → ℚ → Computed) (computed : c ≠ .failed) :
    Computed.arithmetic op .null c = .null := by
  cases c <;> first | rfl | exact absurd rfl computed

theorem average_kept (x : Expr) :
    S.call rows (.average condition x)
        = S.value rows (.divide (.call (.sum condition x)) (.call (.rows condition))) ↔
      S.AverageKept condition rows x := by
  have average : S.call rows (.average condition x) = .average (S.known condition rows x) := by
    rw [← measured_known]
    rfl
  have count : S.call rows (.rows condition) = S.count condition rows := rfl
  rw [average,value,value,value,count,Computed.average]
  by_cases nothing : S.Whole condition rows ∧ S.known condition rows x = []
  · rw [sum_null nothing.1 nothing.2,null_arithmetic _ count_computed,if_pos nothing.2]
    exact iff_of_true rfl ⟨fun some => absurd nothing.2 some,fun _ => .inl nothing.1⟩
  have some : rows ≠ [] := by
    rintro rfl
    exact nothing ⟨nofun,rfl⟩
  rw [sum_number nothing,count_number some,Computed.arithmetic]
  by_cases uncounted : S.counted condition rows = []
  · have none : S.known condition rows x = [] := by rw [known,uncounted]; rfl
    rw [uncounted,none,if_pos rfl,List.length_nil,Nat.cast_zero,if_pos rfl,List.sum_nil]
    constructor
    · exact fun same => ⟨fun some => absurd none some,fun _ => .inr ⟨uncounted,same.symm⟩⟩
    · intro kept
      rcases kept.none none with whole | ⟨-,null⟩
      · exact absurd ⟨whole,none⟩ nothing
      · exact null.symm
  · have length : ((S.counted condition rows).length : ℚ) ≠ 0 := by simpa using uncounted
    rw [if_neg length]
    by_cases none : S.known condition rows x = []
    · rw [if_pos none]
      refine iff_of_false nofun fun kept => ?_
      rcases kept.none none with whole | ⟨empty,-⟩
      · exact nothing ⟨whole,none⟩
      · exact uncounted empty
    · have known : ((S.known condition rows x).length : ℚ) ≠ 0 := by simpa using none
      rw [if_neg none,Computed.number.injEq,div_eq_div_iff known length,mul_eq_mul_left_iff,
        Nat.cast_inj]
      exact ⟨fun same => ⟨fun _ => same.imp_left Eq.symm,fun empty => absurd empty none⟩,
        fun kept => (kept.some none).imp_left Eq.symm⟩

section
variable {total x y : Expr} {sign : ℚ}
  (combined : ∀ row, S.amount row total
    = (do return (← S.amount row x) + sign * (← S.amount row y)))
include combined

theorem parts_sum : (S.known condition rows x).sum + sign * (S.known condition rows y).sum
    = (S.known condition rows total).sum
      + (S.lone condition rows x y + sign * S.lone condition rows y x) := by
  unfold known lone
  induction S.counted condition rows with
  | nil => simp
  | cons row rest ih =>
      have whole := combined row
      cases left : S.amount row x <;> cases right : S.amount row y <;>
        simp only [left,right,Option.bind_eq_bind,Option.bind_none,Option.bind_some] at whole <;>
        simp [left,right,whole] <;> linarith

theorem parts_known (some : S.known condition rows total ≠ []) :
    S.known condition rows x ≠ [] ∧ S.known condition rows y ≠ [] := by
  obtain ⟨q,listed⟩ := List.exists_mem_of_ne_nil _ some
  obtain ⟨row,counts,held⟩ := List.mem_filterMap.mp listed
  rw [combined] at held
  obtain ⟨a,left,held⟩ := Option.bind_eq_some_iff.mp held
  obtain ⟨b,right,-⟩ := Option.bind_eq_some_iff.mp held
  exact ⟨List.ne_nil_of_mem (List.mem_filterMap.mpr ⟨row,counts,left⟩),
    List.ne_nil_of_mem (List.mem_filterMap.mpr ⟨row,counts,right⟩)⟩

theorem sum_kept : S.call rows (.sum condition total)
      = .arithmetic (fun q r => .number (q + sign * r)) (S.call rows (.sum condition x))
        (S.call rows (.sum condition y)) ↔
    S.SumKept condition rows total x y sign := by
  by_cases nothing : S.Whole condition rows ∧ S.known condition rows total = []
  · obtain ⟨whole,none⟩ := nothing
    have kept : S.SumKept condition rows total x y sign ↔
        S.known condition rows x = [] ∨ S.known condition rows y = [] :=
      ⟨fun kept => kept.none whole none,
        fun missing => ⟨fun some => absurd ⟨whole,none⟩ some,fun _ _ => missing⟩⟩
    rw [sum_null whole none,kept]
    by_cases left : S.known condition rows x = []
    · rw [sum_null whole left,null_arithmetic _ (sum_computed y)]
      exact iff_of_true rfl (.inl left)
    · rw [sum_number fun missing => left missing.2]
      by_cases right : S.known condition rows y = []
      · rw [sum_null whole right]
        exact iff_of_true rfl (.inr right)
      · rw [sum_number fun missing => right missing.2]
        exact iff_of_false nofun (not_or.mpr ⟨left,right⟩)
  · have left : ¬(S.Whole condition rows ∧ S.known condition rows x = []) :=
      fun ⟨whole,missing⟩ => (parts_known combined fun empty => nothing ⟨whole,empty⟩).1 missing
    have right : ¬(S.Whole condition rows ∧ S.known condition rows y = []) :=
      fun ⟨whole,missing⟩ => (parts_known combined fun empty => nothing ⟨whole,empty⟩).2 missing
    rw [sum_number nothing,sum_number left,sum_number right,Computed.arithmetic,
      Computed.number.injEq,parts_sum combined]
    constructor
    · exact fun same => ⟨fun _ => by linarith,fun whole none => absurd ⟨whole,none⟩ nothing⟩
    · intro kept
      rw [kept.some nothing,add_zero]

end

theorem amount_added (row : ρ) (x y : Expr) : S.amount row (.add x y)
    = (do return (← S.amount row x) + 1 * (← S.amount row y)) := by
  simpa only [one_mul] using S.amount_add row x y

theorem amount_subtracted (row : ρ) (x y : Expr) : S.amount row (.subtract x y)
    = (do return (← S.amount row x) + -1 * (← S.amount row y)) := by
  simpa only [neg_one_mul,← sub_eq_add_neg] using S.amount_subtract row x y

theorem added_kept (x y : Expr) : S.value rows (.call (.sum condition (.add x y)))
      = S.value rows (.add (.call (.sum condition x)) (.call (.sum condition y))) ↔
    S.SumKept condition rows (.add x y) x y 1 := by
  have kept := @sum_kept _ S condition rows _ _ _ _ (fun row => amount_added row x y)
  simp only [one_mul] at kept
  exact kept

theorem subtracted_kept (x y : Expr) : S.value rows (.call (.sum condition (.subtract x y)))
      = S.value rows (.subtract (.call (.sum condition x)) (.call (.sum condition y))) ↔
    S.SumKept condition rows (.subtract x y) x y (-1) := by
  have kept := @sum_kept _ S condition rows _ _ _ _ (fun row => amount_subtracted row x y)
  simp only [neg_one_mul,← sub_eq_add_neg] at kept
  exact kept

-- Every row that counts has the measures, and for an average there is such a row if any is left
-- out.
def Complete (S : RowEngine ρ) (condition : RowCondition) (rows : List ρ) : Expr → Prop
  | .average _ x => (∀ row ∈ S.counted condition rows, (S.amount row x).isSome) ∧
      (S.counted condition rows = [] → S.Whole condition rows)
  | .sum _ (.add x y) => ∀ row ∈ S.counted condition rows,
      (S.amount row x).isSome ∧ (S.amount row y).isSome
  | .sum _ (.subtract x y) => ∀ row ∈ S.counted condition rows,
      (S.amount row x).isSome ∧ (S.amount row y).isSome
  | _ => True

theorem known_length {x : Expr}
    (each : ∀ row ∈ S.counted condition rows, (S.amount row x).isSome) :
    (S.known condition rows x).length = (S.counted condition rows).length := by
  revert each
  unfold known
  induction S.counted condition rows with
  | nil => exact fun _ => rfl
  | cons row rest ih =>
      intro each
      obtain ⟨here,later⟩ := List.forall_mem_cons.mp each
      obtain ⟨q,held⟩ := Option.isSome_iff_exists.mp here
      simp [held,ih later]

theorem average_complete {x : Expr}
    (each : ∀ row ∈ S.counted condition rows, (S.amount row x).isSome)
    (some : S.counted condition rows = [] → S.Whole condition rows) :
    S.AverageKept condition rows x := by
  refine ⟨fun _ => .inl (known_length each),fun none => .inl (some ?_)⟩
  rw [← List.length_eq_zero_iff,← known_length each,none]
  rfl

theorem lone_complete {x y : Expr}
    (each : ∀ row ∈ S.counted condition rows, (S.amount row y).isSome) :
    S.lone condition rows x y = 0 := by
  revert each
  unfold lone
  induction S.counted condition rows with
  | nil => exact fun _ => rfl
  | cons row rest ih =>
      intro each
      obtain ⟨here,later⟩ := List.forall_mem_cons.mp each
      obtain ⟨q,held⟩ := Option.isSome_iff_exists.mp here
      simpa [held] using ih later

theorem sum_complete {total x y : Expr} {sign : ℚ}
    (combined : ∀ row, S.amount row total
      = (do return (← S.amount row x) + sign * (← S.amount row y)))
    (each : ∀ row ∈ S.counted condition rows,
      (S.amount row x).isSome ∧ (S.amount row y).isSome) :
    S.SumKept condition rows total x y sign := by
  have left : ∀ row ∈ S.counted condition rows, (S.amount row x).isSome :=
    fun row counts => (each row counts).1
  refine ⟨fun _ => ?_,fun _ none => .inl ?_⟩
  · rw [lone_complete left,lone_complete fun row counts => (each row counts).2,mul_zero,add_zero]
  · have totals : ∀ row ∈ S.counted condition rows, (S.amount row total).isSome := by
      intro row counts
      obtain ⟨p,first⟩ := Option.isSome_iff_exists.mp (each row counts).1
      obtain ⟨q,second⟩ := Option.isSome_iff_exists.mp (each row counts).2
      rw [combined,first,second]
      rfl
    rw [← List.length_eq_zero_iff,known_length left,← known_length totals,none]
    rfl

theorem complete_kept {a b : Expr} (expands : a.expandAggregate? = some b)
    (complete : S.Complete condition rows a) : S.Kept condition rows a := by
  unfold Expr.expandAggregate? at expands
  split at expands
  · exact average_complete complete.1 complete.2
  · exact sum_complete (amount_added · _ _) complete
  · exact sum_complete (amount_subtracted · _ _) complete
  · cases expands

end RowEngine

-- An aggregate and the arithmetic it is folded into, as both are written, have the same value just
-- when the rows let them.
theorem expanded_value_iff {ρ : Type u} (S : RowEngine ρ) (rows : List ρ) (r : Renderer)
    {a b : Expr} {root : String} {filters : List Expr} (expands : a.expandAggregate? = some b)
    (chosen : a.aggregateChain? = some (root,filters)) :
    ∃ f g, AggregateFormula.ofExpr? a = some f ∧ AggregateFormula.ofExpr? b = some g ∧
      r.render a = f.text r ∧ r.render b = g.text r ∧
      (S.value rows f = S.value rows g ↔ S.Kept (Expr.conjunctsAll? filters) rows a) := by
  suffices same : ∃ f g, AggregateFormula.ofExpr? a = some f ∧
      AggregateFormula.ofExpr? b = some g ∧
      (S.value rows f = S.value rows g ↔ S.Kept (Expr.conjunctsAll? filters) rows a) by
    obtain ⟨f,g,is,becomes,value⟩ := same
    exact ⟨f,g,is,becomes,r.render_formula is,r.render_formula becomes,value⟩
  have condition {e : Expr} (chain : e.datasetChain? = some (root,filters)) :
      AggregateFormula.conditionOf? e = some (Expr.conjunctsAll? filters) := by
    rw [AggregateFormula.conditionOf?,chain]
    rfl
  generalize Expr.conjunctsAll? filters = c at condition ⊢
  unfold Expr.expandAggregate? at expands
  split at expands
  · rename_i e x
    cases expands
    have filtered := @condition e chosen
    refine ⟨.call (.average c x),.divide (.call (.sum c x)) (.call (.rows c)),?_,?_,
      RowEngine.average_kept x⟩ <;> simp [AggregateFormula.ofExpr?,filtered]
  · rename_i e x y
    split at expands
    · cases expands
      have filtered := @condition e chosen
      refine ⟨.call (.sum c (.add x y)),.add (.call (.sum c x)) (.call (.sum c y)),?_,?_,
        RowEngine.added_kept x y⟩ <;> simp [AggregateFormula.ofExpr?,filtered]
    · cases expands
  · rename_i e x y
    split at expands
    · cases expands
      have filtered := @condition e chosen
      refine ⟨.call (.sum c (.subtract x y)),.subtract (.call (.sum c x)) (.call (.sum c y)),?_,?_,
        RowEngine.subtracted_kept x y⟩ <;> simp [AggregateFormula.ofExpr?,filtered]
    · cases expands
  · cases expands

namespace Shelf

def amount (row : String → Option ℚ) : Expr → Option ℚ
  | .ref name => row name
  | .add x y => do return (← amount row x) + (← amount row y)
  | .subtract x y => do return (← amount row x) - (← amount row y)
  | _ => none

def holds (row : String → Option ℚ) : Expr → Bool
  | .is x (.literal .null) => (amount row x).isNone
  | .not e => !holds row e
  | _ => false

def engine : RowEngine (String → Option ℚ) where
  holds := holds
  amount := amount
  amount_add _ _ _ := rfl
  amount_subtract _ _ _ := rfl
  overZero _ := .failed

def book (price discount : Option ℚ) : String → Option ℚ
  | "price" => price
  | "discount" => discount
  | _ => none

def books : List (String → Option ℚ) :=
  [book (some 4) (some 1),book (some 8) none,book none none]

def priced : Expr :=
  .filter (.ref "books") (.not (.is (.ref "price") (.literal .null)))

def Gives (a : Expr) (alone folded : Computed) : Prop :=
  ∃ b f g, a.expandAggregate? = some b ∧ AggregateFormula.ofExpr? a = some f ∧
    AggregateFormula.ofExpr? b = some g ∧ engine.value books f = alone ∧
    engine.value books g = folded

def catalogue : Dataset :=
  { engine := .postgres,source := "books"
    attributes := [{ name := "price",type := .number },{ name := "discount",type := .number }] }

-- Only books with a price count.
theorem priced_average_kept :
    Gives (.average priced (.ref "price")) (.number 6) (.number 6) := by
  obtain ⟨f,g,is,becomes,-,-,exactly⟩ := @expanded_value_iff _ engine books
    { dialect := Family.postgres.dialect,dataset := catalogue }
    (.average priced (.ref "price")) _ _ _ rfl rfl
  have average : engine.value books f = .number 6 := by
    cases is
    change Computed.number ((4 + (8 + 0)) / ((2 : ℕ) : ℚ)) = _
    norm_num
  have counted : engine.counted (some [.not (.is (.ref "price") (.literal .null))]) books
      = [book (some 4) (some 1),book (some 8) none] := rfl
  have all : ∀ row ∈ engine.counted (some [.not (.is (.ref "price") (.literal .null))]) books,
      (engine.amount row (.ref "price")).isSome := by
    rw [counted]
    simp only [List.forall_mem_cons,List.not_mem_nil,false_implies,implies_true,and_true]
    exact ⟨rfl,rfl⟩
  have kept := exactly.mpr (RowEngine.complete_kept rfl ⟨all,?_⟩)
  · exact ⟨_,f,g,rfl,is,becomes,average,kept ▸ average⟩
  · exact nofun

-- The book without a price counts.
theorem average_price_halved :
    Gives (.average (.ref "books") (.ref "price")) (.number 6) (.number 4) := by
  refine ⟨_,_,_,rfl,rfl,rfl,?_,?_⟩
  · change Computed.number ((4 + (8 + 0)) / ((2 : ℕ) : ℚ)) = _
    norm_num
  · change (if ((3 : ℕ) : ℚ) = 0 then Computed.failed
      else .number ((4 + (8 + 0)) / ((3 : ℕ) : ℚ))) = _
    norm_num

end Shelf

end OlapQuery.Sql
