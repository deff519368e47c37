import Mathlib.Data.List.FinRange
import OlapQuery.Expr.Basic
import OlapQuery.Proofs.ScriptGrouping

-- Formulas that are written in JavaScript, what they are worth to an engine, and the expressions
-- as which they are meant to be read.

namespace OlapQuery.Druid.Script

-- A number by the way it is written: as a numeral, with a minus sign in front, or as a word.
def spell {β : Type} (numeral : List Char → β) (negate : β → β) (nan : β) (x : Float) : β :=
  match (Decimal.numberText x).toList with
  | '-' :: text => negate (numeral text)
  | text => if x.isNaN then nan else numeral text

-- The operations of an engine. Nothing is known of them but that numbers are read as they are
-- written, what `||` chooses, and that nothing true is null: arithmetic may round, and texts may be
-- compared and converted in any way.
structure Engine (α : Type) where
  number : Float → α
  numeral : List Char → α
  text : List Char → α
  constant : Constant → α
  list : α
  negate : α → α
  compute : Operator → α → α → α
  member : α → List Char → α
  index : α → α → α
  argument : α → α → α
  call : α → α
  truthy : α → Bool
  reads : ∀ x, x.isInf = false → spell numeral negate (constant .nan) x = number x
  or_chooses : ∀ a b, compute .or a b = if truthy a then a else b
  truthy_differs : ∀ a, truthy a = true → truthy (compute .differs a (constant .null)) = true

namespace Engine

variable {α : Type} (J : Engine α)

def opposite (a : α) : α :=
  J.constant (.boolean (!J.truthy a))

def choose (condition a b : α) : α :=
  if J.truthy condition then a else b

-- A value as a text.
def quoted (a : α) : α :=
  J.compute .add (J.text []) a

def lower (a : α) : α :=
  J.call (J.member (J.quoted a) "toLowerCase".toList)

def find (a b : α) : α :=
  J.call (J.argument (J.member a "indexOf".toList) b)

def floor (a : α) : α :=
  J.call (J.argument (J.member (J.constant .math) "floor".toList) a)

-- What a pattern captures in a text, or nothing.
def capture (a : α) (pattern : List Char) : α :=
  J.index (J.compute .or (J.call (J.argument (J.member (J.quoted a) "match".toList)
    (J.call (J.argument (J.constant .regExp) (J.text pattern))))) J.list) (J.number 1.0)

def joined (op : Operator) (empty : α) : List α → α
  | [] => empty
  | a :: rest => rest.foldl (J.compute op) a

end Engine

def Tree.value {α : Type} (J : Engine α) (env : String → α) : Tree → α
  | .atom (.name text) => env (String.ofList text)
  | .atom (.numeral text) => J.numeral text
  | .atom (.text content) => J.text content
  | .atom (.constant c) => J.constant c
  | .atom .list => J.list
  | .group t => t.value J env
  | .signed .not t => J.opposite (t.value J env)
  | .signed .minus t => J.negate (t.value J env)
  | .binary op a b => J.compute op (a.value J env) (b.value J env)
  | .choice c a b => J.choose (c.value J env) (a.value J env) (b.value J env)
  | .member t name => J.member (t.value J env) name
  | .index t place => J.index (t.value J env) (place.value J env)
  | .argument f a => J.argument (f.value J env) (a.value J env)
  | .call f => J.call (f.value J env)

-- What is written between its operands.
inductive Computation where
  | add
  | concat
  | subtract
  | multiply
  | divide
  | is
  | greaterThan
  | greaterThanOrEqual
  | lessThan
  | lessThanOrEqual
  deriving DecidableEq, Repr

namespace Computation

def expr : Computation → BinaryOp
  | .add => .add
  | .concat => .concat
  | .subtract => .subtract
  | .multiply => .multiply
  | .divide => .divide
  | .is => .is
  | .greaterThan => .greaterThan
  | .greaterThanOrEqual => .greaterThanOrEqual
  | .lessThan => .lessThan
  | .lessThanOrEqual => .lessThanOrEqual

def operator : Computation → Operator
  | .add => .add
  | .concat => .add
  | .subtract => .subtract
  | .multiply => .multiply
  | .divide => .divide
  | .is => .is
  | .greaterThan => .greater
  | .greaterThanOrEqual => .atLeast
  | .lessThan => .less
  | .lessThanOrEqual => .atMost

end Computation

def joiner : Junction → Operator
  | .and => .and
  | .or => .or

inductive Formula where
  | column (name : String)
  | number (x : Float)
  | text (content : String)
  | boolean (b : Bool)
  | compute (op : Computation) (a b : Formula)
  | power (a b : Formula)
  | absolute (a : Formula)
  | junction (op : Junction) {n : Nat} (parts : Fin n → Formula)
  | not (a : Formula)
  | contains (ignoreCase : Bool) (a b : Formula)
  | indexOf (a b : Formula)
  | extract (a : Formula) (pattern : String)
  | fallback (a b : Formula)
  | bucket (a : Formula) (size offset : Float)

namespace Formula

def expr : Formula → Expr
  | .column name => .ref name
  | .number x => .literal (.number x)
  | .text content => .literal (.string content)
  | .boolean b => .literal (.boolean b)
  | .compute op a b => .binary op.expr a.expr b.expr
  | .power a b => .binary .power a.expr b.expr
  | .absolute a => .unary .absolute a.expr
  | @junction op n parts => .junction op ((List.finRange n).map fun i => (parts i).expr)
  | .not a => .unary .not a.expr
  | .contains ignoreCase a b => .binary (.contains ignoreCase) a.expr b.expr
  | .indexOf a b => .binary .indexOf a.expr b.expr
  | .extract a pattern => .unary (.extract pattern) a.expr
  | .fallback a b => .binary .fallback a.expr b.expr
  | .bucket a size offset => .unary (.numberBucket size offset) a.expr

-- Buckets start at the offset, which is left out where it is zero; a text contains another if
-- that has a place in it.
def value {α : Type} (J : Engine α) (env : String → α) : Formula → α
  | .column name => env name
  | .number x => J.number x
  | .text content => J.text content.toList
  | .boolean b => J.constant (.boolean b)
  | .compute op a b => J.compute op.operator (a.value J env) (b.value J env)
  | .power a b => J.call (J.argument (J.argument (J.member (J.constant .math) "pow".toList)
      (a.value J env)) (b.value J env))
  | .absolute a => J.call (J.argument (J.member (J.constant .math) "abs".toList) (a.value J env))
  | @junction op n parts => J.joined (joiner op) (J.constant (.boolean (op == .and)))
      ((List.finRange n).map fun i => (parts i).value J env)
  | .not a => J.opposite (a.value J env)
  | .contains false a b =>
      J.compute .greater (J.find (J.quoted (a.value J env)) (b.value J env)) (J.number (-1.0))
  | .contains true a b =>
      J.compute .greater (J.find (J.lower (a.value J env)) (J.lower (b.value J env)))
        (J.number (-1.0))
  | .indexOf a b => J.find (J.quoted (a.value J env)) (b.value J env)
  | .extract a pattern =>
      J.compute .or (J.capture (a.value J env) pattern.toList) (J.constant .null)
  | .fallback a b => J.choose (J.compute .differs (a.value J env) (J.constant .null))
      (a.value J env) (b.value J env)
  | .bucket a size offset =>
      let start (x : α) : α :=
        J.compute .multiply (J.floor (J.compute .divide x (J.number size))) (J.number size)
      if offset == 0.0 then start (a.value J env)
      else J.compute .add (start (J.compute .subtract (a.value J env) (J.number offset)))
        (J.number offset)

-- The level of what stands outside of all parentheses in the text of a formula.
def level : Formula → Nat
  | .number x => if (Decimal.numberText x).toList.head? == some '-' then 7 else 8
  | .contains _ _ _ => 4
  | .extract _ _ => 1
  | .bucket _ _ offset => if offset == 0.0 then 6 else 5
  | _ => 8

-- What is written without parentheses binds tighter than what stands around it. A choice between
-- alternatives needs no parentheses for one of them, and neither does the test for a value.
def Grouped : Formula → Prop
  | .column _ => True
  | .number _ => True
  | .text _ => True
  | .boolean _ => True
  | .compute op a b =>
      a.Grouped ∧ b.Grouped ∧ op.operator.level ≤ a.level ∧ op.operator.level < b.level
  | .power a b => a.Grouped ∧ b.Grouped
  | .absolute a => a.Grouped
  | @junction op n parts =>
      (∀ i, (parts i).Grouped) ∧ (op = .and → n ≤ 1 ∨ ∀ i, Operator.and.level < (parts i).level)
  | .not a => a.Grouped ∧ 7 ≤ a.level
  | .contains ignoreCase a b => a.Grouped ∧ b.Grouped ∧ Operator.add.level < a.level ∧
      (ignoreCase = true → Operator.add.level < b.level)
  | .indexOf a b => a.Grouped ∧ b.Grouped ∧ Operator.add.level < a.level
  | .extract a _ => a.Grouped ∧ Operator.add.level < a.level
  | .fallback a b => a.Grouped ∧ b.Grouped
  | .bucket a _ offset => a.Grouped ∧
      (if offset == 0.0 then Operator.divide.level else Operator.subtract.level) ≤ a.level

-- Numbers that can be written, no number with a minus sign behind another one, and something
-- between all parentheses.
def Legible : Formula → Prop
  | .column _ => True
  | .number x => x.isInf = false
  | .text _ => True
  | .boolean _ => True
  | .compute op a b => a.Legible ∧ b.Legible ∧ (op = .subtract → b.level ≠ 7)
  | .power a b => a.Legible ∧ b.Legible
  | .absolute a => a.Legible
  | @junction _ n parts => (∀ i, (parts i).Legible) ∧ 0 < n
  | .not a => a.Legible
  | .contains _ a b => a.Legible ∧ b.Legible
  | .indexOf a b => a.Legible ∧ b.Legible
  | .extract a _ => a.Legible
  | .fallback a b => a.Legible ∧ b.Legible
  | .bucket a size offset => a.Legible ∧ size.isInf = false ∧ offset.isInf = false

end Formula

namespace Tree

def null : Tree :=
  .atom (.constant .null)

def math (name : String) : Tree :=
  .member (.atom (.constant .math)) name.toList

def ofNumber (x : Float) : Tree :=
  spell (fun text => .atom (.numeral text)) (.signed .minus) (.atom (.constant .nan)) x

def quoted (t : Tree) : Tree :=
  .group (.binary .add (.atom (.text [])) t)

def lower (t : Tree) : Tree :=
  .call (.member (quoted t) "toLowerCase".toList)

def find (t u : Tree) : Tree :=
  .call (.argument (.member t "indexOf".toList) u)

def capture (t : Tree) (pattern : List Char) : Tree :=
  .index (.group (.binary .or (.call (.argument (.member (quoted t) "match".toList)
    (.call (.argument (.atom (.constant .regExp)) (.atom (.text pattern)))))) (.atom .list)))
    (.atom (.numeral ['1']))

-- One more operand at the end. Alternatives that are one of several are alternatives with them.
def join : Operator → Tree → Tree → Tree
  | .or,s,.binary .or t u => .binary .or (.binary .or s t) u
  | op,s,t => .binary op s t

def joined (op : Operator) : List Tree → Tree
  | [] => .atom (.name [])
  | t :: rest => rest.foldl (join op) t

-- Whether there is a value. Of alternatives only the last is compared.
def present : Tree → Tree
  | .binary .or t u => .binary .or t (.binary .differs u null)
  | t => .binary .differs t null

end Tree

namespace Formula

open OlapQuery.Druid.Script.Tree (null math quoted lower find capture ofNumber)

-- The expression as which a formula is meant to be read, by the names of its variables.
def tree (spelled : String → String) : Formula → Tree
  | .column name => .atom (.name (spelled name).toList)
  | .number x => ofNumber x
  | .text content => .atom (.text content.toList)
  | .boolean b => .atom (.constant (.boolean b))
  | .compute op a b => .group (.binary op.operator (a.tree spelled) (b.tree spelled))
  | .power a b => .call (.argument (.argument (math "pow") (a.tree spelled)) (b.tree spelled))
  | .absolute a => .call (.argument (math "abs") (a.tree spelled))
  | @junction op n parts =>
      .group (Tree.joined (joiner op) ((List.finRange n).map fun i => (parts i).tree spelled))
  | .not a => .group (.signed .not (a.tree spelled))
  | .contains false a b => .binary .greater (find (quoted (a.tree spelled)) (b.tree spelled))
      (.signed .minus (.atom (.numeral ['1'])))
  | .contains true a b => .binary .greater (find (lower (a.tree spelled)) (lower (b.tree spelled)))
      (.signed .minus (.atom (.numeral ['1'])))
  | .indexOf a b => find (quoted (a.tree spelled)) (b.tree spelled)
  | .extract a pattern => .binary .or (capture (a.tree spelled) pattern.toList) null
  | .fallback a b => .choice (a.tree spelled).present (a.tree spelled) (b.tree spelled)
  | .bucket a size offset =>
      let start (t : Tree) : Tree := .binary .multiply (.call (.argument (math "floor")
        (.binary .divide t (ofNumber size)))) (ofNumber size)
      if offset == 0.0 then start (a.tree spelled)
      else .binary .add (start (.group (.binary .subtract (a.tree spelled) (ofNumber offset))))
        (ofNumber offset)

end Formula

section Values

variable {α : Type} (J : Engine α) (env : String → α)

theorem value_number {x : Float} (finite : x.isInf = false) :
    (Tree.ofNumber x).value J env = J.number x := by
  rw [← J.reads x finite]
  unfold Tree.ofNumber spell
  split
  · rfl
  · split <;> rfl

theorem value_one : J.numeral ['1'] = J.number 1.0 := by
  rw [← J.reads 1.0 (by decide +kernel)]
  rfl

theorem value_minusOne : J.negate (J.numeral ['1']) = J.number (-1.0) := by
  rw [← J.reads (-1.0) (by decide +kernel)]
  rfl

theorem or_assoc (a b c : α) :
    J.compute .or (J.compute .or a b) c = J.compute .or a (J.compute .or b c) := by
  simp only [J.or_chooses]
  by_cases first : J.truthy a = true <;> simp [first]

theorem value_join (op : Operator) (s t : Tree) :
    (Tree.join op s t).value J env = J.compute op (s.value J env) (t.value J env) := by
  unfold Tree.join
  split
  · exact or_assoc J _ _ _
  · rfl

theorem value_joined (op : Operator) (empty : α) {ts : List Tree} (some : ts ≠ []) :
    (Tree.joined op ts).value J env = J.joined op empty (ts.map fun t => t.value J env) := by
  cases ts with
  | nil => exact absurd rfl some
  | cons t rest =>
      simp only [Tree.joined,List.map_cons,Engine.joined]
      clear some
      induction rest generalizing t with
      | nil => rfl
      | cons u rest ih => rw [List.foldl_cons,ih,value_join,List.map_cons,List.foldl_cons]

theorem truthy_present (t : Tree) : J.truthy (t.present.value J env)
    = J.truthy (J.compute .differs (t.value J env) (J.constant .null)) := by
  unfold Tree.present
  split
  · rename_i s u
    change J.truthy (J.compute .or (s.value J env) (J.compute .differs (u.value J env) _)) =
      J.truthy (J.compute .differs (J.compute .or (s.value J env) (u.value J env)) _)
    rw [J.or_chooses,J.or_chooses]
    by_cases first : J.truthy (s.value J env) = true
    · simp [first,J.truthy_differs _ first]
    · simp [first,Tree.null,Tree.value]
  · rfl

theorem value_tree (spelled : String → String) {φ : Formula} (legible : φ.Legible) :
    (φ.tree spelled).value J env = φ.value J fun name => env (spelled name) := by
  induction φ with
  | column name =>
      change env (String.ofList (spelled name).toList) = env (spelled name)
      rw [String.ofList_toList]
  | number x => exact value_number J env legible
  | text content => rfl
  | boolean b => rfl
  | compute op a b left right =>
      simp only [Formula.tree,Tree.value,Formula.value,left legible.1,right legible.2.1]
  | power a b left right =>
      simp only [Formula.tree,Tree.value,Formula.value,left legible.1,right legible.2,Tree.math]
  | absolute a ih => simp only [Formula.tree,Tree.value,Formula.value,ih legible,Tree.math]
  | @junction op n parts ih =>
      have some : (List.finRange n).map (fun i => (parts i).tree spelled) ≠ [] := by
        simpa using Nat.ne_of_gt legible.2
      rw [Formula.tree,Tree.value,value_joined J env _ (J.constant (.boolean (op == .and))) some,
        List.map_map,Formula.value]
      exact congrArg _ (List.map_congr_left fun i _ => ih i (legible.1 i))
  | not a ih => simp only [Formula.tree,Tree.value,Formula.value,ih legible]
  | contains ignoreCase a b left right =>
      cases ignoreCase with
      | false =>
          simp only [Formula.tree,Formula.value,Tree.find,Tree.quoted,Tree.value,Engine.find,
            Engine.quoted,left legible.1,right legible.2,value_minusOne]
      | true =>
          simp only [Formula.tree,Formula.value,Tree.find,Tree.lower,Tree.quoted,Tree.value,
            Engine.find,Engine.lower,Engine.quoted,left legible.1,right legible.2,value_minusOne]
  | indexOf a b left right =>
      simp only [Formula.tree,Formula.value,Tree.find,Tree.quoted,Tree.value,Engine.find,
        Engine.quoted,left legible.1,right legible.2]
  | extract a pattern ih =>
      simp only [Formula.tree,Formula.value,Tree.capture,Tree.quoted,Tree.null,Tree.value,
        Engine.capture,Engine.quoted,ih legible,value_one]
  | fallback a b left right =>
      simp only [Formula.tree,Formula.value,Tree.value,Engine.choose,truthy_present,
        left legible.1,right legible.2]
  | bucket a size offset ih =>
      simp only [Formula.tree,Formula.value]
      split
      · simp only [Tree.value,Tree.math,Engine.floor,ih legible.1,value_number J env legible.2.1]
      · simp only [Tree.value,Tree.math,Engine.floor,ih legible.1,value_number J env legible.2.1,
          value_number J env legible.2.2]

end Values

end OlapQuery.Druid.Script
