import OlapQuery.Proofs.FoldRun
import OlapQuery.Proofs.SqlReader
import OlapQuery.Sql.Render

-- Formulas over columns and numbers, what they are worth in an arithmetic, and how they are
-- written in SQL.

namespace OlapQuery.Sql

inductive Formula where
  | column (name : String)
  | number (x : Float)
  | compute (op : Operation) (a b : Formula)
  | bucket (a : Formula) (size offset : Float)
  | indexOf (a b : Formula)

def Operation.binary : Operation → BinaryOp
  | .add => .add
  | .subtract => .subtract
  | .multiply => .multiply
  | .divide => .divide

def Formula.expr : Formula → Expr
  | .column name => .ref name
  | .number x => .literal (.number x)
  | .compute op a b => .binary op.binary a.expr b.expr
  | .bucket a size offset => .unary (.numberBucket size offset) a.expr
  | .indexOf a b => .binary .indexOf a.expr b.expr

-- The number that a text with a minus sign or without one stands for.
def denoted {α : Type} (numeral : List Char → α) (negate : α → α) : List Char → α
  | '-' :: text => negate (numeral text)
  | text => numeral text

-- The operations of an engine, of which nothing is known but that it reads numbers as they are
-- written. In particular they need not be exact.
structure Arithmetic (α : Type) where
  number : Float → α
  numeral : List Char → α
  negate : α → α
  compute : Operation → α → α → α
  floor : α → α
  position : α → α → α
  reads : ∀ x, x.isNaN = false → x.isInf = false →
    denoted numeral negate (Decimal.numberText x).toList = number x

def Term.value {α : Type} (A : Arithmetic α) (row : String → α) : Term → α
  | .column name => row (String.ofList name)
  | .numeral text => A.numeral text
  | .negate t => A.negate (t.value A row)
  | .compute op a b => A.compute op (a.value A row) (b.value A row)
  | .floor t => A.floor (t.value A row)
  | .position a b => A.position (a.value A row) (b.value A row)

-- Buckets start at the offset, which is left out where it is zero; an index counts from zero.
def Formula.value {α : Type} (A : Arithmetic α) (row : String → α) : Formula → α
  | .column name => row name
  | .number x => A.number x
  | .compute op a b => A.compute op (a.value A row) (b.value A row)
  | .bucket a size offset =>
      let start (x : α) : α :=
        A.compute .multiply (A.floor (A.compute .divide x (A.number size))) (A.number size)
      if offset == 0.0 then start (a.value A row)
      else A.compute .add (start (A.compute .subtract (a.value A row) (A.number offset)))
        (A.number offset)
  | .indexOf a b =>
      A.compute .subtract (A.position (a.value A row) (b.value A row)) (A.number 1.0)

namespace Formula

def columns : Formula → List String
  | .column name => [name]
  | .number _ => []
  | .compute _ a b => columns a ++ columns b
  | .bucket a _ _ => columns a
  | .indexOf a b => columns a ++ columns b

def Finite (x : Float) : Prop :=
  x.isNaN = false ∧ x.isInf = false

instance (x : Float) : Decidable (Finite x) :=
  inferInstanceAs (Decidable (_ ∧ _))

def hasSign (x : Float) : Bool :=
  (Decimal.numberText x).toList.head? == some '-'

-- What a formula looks like from outside, once it is written.
inductive Kind where
  | atom
  -- A number with a minus sign.
  | signed
  | product
  | sum
  deriving DecidableEq, Repr

def kind : Formula → Kind
  | .column _ => .atom
  | .number x => if hasSign x then .signed else .atom
  | .compute _ _ _ => .atom
  | .bucket _ _ offset => if offset == 0.0 then .product else .sum
  | .indexOf _ _ => .sum

-- Which operands an operator keeps together although they are written without parentheses.
def Keeps : Operation → Kind → Kind → Prop
  | .add,_,right => right ≠ .sum
  | .subtract,_,right => right ≠ .sum ∧ right ≠ .signed
  | .multiply,left,right => left ≠ .sum ∧ right ≠ .product ∧ right ≠ .sum
  | .divide,left,right => left ≠ .sum ∧ right ≠ .product ∧ right ≠ .sum

def Safe : Formula → Prop
  | .column _ => True
  | .number x => Finite x
  | .compute op a b => a.Safe ∧ b.Safe ∧ Keeps op a.kind b.kind
  | .bucket a size offset =>
      a.Safe ∧ Finite size ∧ Finite offset ∧ (offset == 0.0 → a.kind ≠ .sum)
  | .indexOf a b => a.Safe ∧ b.Safe

instance : (op : Operation) → (left right : Kind) → Decidable (Keeps op left right)
  | .add,_,right => inferInstanceAs (Decidable (right ≠ .sum))
  | .subtract,_,right => inferInstanceAs (Decidable (right ≠ .sum ∧ right ≠ .signed))
  | .multiply,left,right =>
      inferInstanceAs (Decidable (left ≠ .sum ∧ right ≠ .product ∧ right ≠ .sum))
  | .divide,left,right =>
      inferInstanceAs (Decidable (left ≠ .sum ∧ right ≠ .product ∧ right ≠ .sum))

instance decidableSafe : (φ : Formula) → Decidable φ.Safe
  | .column _ => .isTrue trivial
  | .number x => inferInstanceAs (Decidable (Finite x))
  | .compute op a b =>
      have := decidableSafe a
      have := decidableSafe b
      inferInstanceAs (Decidable (a.Safe ∧ b.Safe ∧ Keeps op a.kind b.kind))
  | .bucket a size offset =>
      have := decidableSafe a
      inferInstanceAs (Decidable
        (a.Safe ∧ Finite size ∧ Finite offset ∧ (offset == 0.0 → a.kind ≠ .sum)))
  | .indexOf a b =>
      have := decidableSafe a
      have := decidableSafe b
      inferInstanceAs (Decidable (a.Safe ∧ b.Safe))

end Formula

def Operation.sign : Operation → String
  | .add => "+"
  | .subtract => "-"
  | .multiply => "*"
  | .divide => "/"

namespace Formula

def text (d : Dialect) : Formula → String
  | .column name => d.quoteIdentifier name
  | .number x => Dialect.formatNumber x
  | .compute op a b => "(" ++ a.text d ++ op.sign ++ b.text d ++ ")"
  | .bucket a size offset => Renderer.numberBucket (a.text d) size offset
  | .indexOf a b => d.indexOf (a.text d) (b.text d)

theorem render_text {r : Renderer} {φ : Formula} {text : String}
    (rendered : r.render φ.expr = .ok text) : text = φ.text r.dialect := by
  unfold Renderer.render at rendered
  induction φ generalizing text with
  | column name =>
      simp only [expr,Renderer.rendered,Renderer.reference] at rendered
      split at rendered
      · cases rendered
        rfl
      · cases rendered
  | number x =>
      cases rendered
      rfl
  | compute op a b left right =>
      have parts : (do return "(" ++ (← (r.rendered a.expr).sql) ++ op.sign
          ++ (← (r.rendered b.expr).sql) ++ ")") = (.ok text : Compiled String) := by
        cases op <;> exact rendered
      obtain ⟨x,first,parts⟩ := Compiled.bind_ok.mp parts
      obtain ⟨y,second,parts⟩ := Compiled.bind_ok.mp parts
      cases Compiled.pure_ok.mp parts
      rw [left first,right second,Formula.text]
  | bucket a size offset ih =>
      obtain ⟨x,first,parts⟩ := Compiled.bind_ok.mp rendered
      cases Compiled.pure_ok.mp parts
      rw [ih first,Formula.text]
  | indexOf a b left right =>
      obtain ⟨x,first,parts⟩ := Compiled.bind_ok.mp rendered
      obtain ⟨y,second,parts⟩ := Compiled.bind_ok.mp parts
      cases Compiled.pure_ok.mp parts
      rw [left first,right second,Formula.text]

end Formula

end OlapQuery.Sql
