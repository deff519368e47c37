import OlapQuery.Proofs.ExactNumbers
import OlapQuery.Proofs.Formulas

-- What stands at the top of the text of a formula, and what is made of it by the rules of
-- precedence. It is the formula that was meant if and only if the formula is safe.

namespace OlapQuery.Sql

-- Operands with operators between them, outside of all parentheses.
structure Written where
  first : Term
  rest : List (Operation × Term) := []

-- What is left when such operands have been read: the last of them still waits for an operator.
def Level.through (l : Level) (t : Term) : List (Operation × Term) → Level × Term
  | [] => (l,t)
  | (op,u) :: rest => (l.push t op).through u rest

def Level.read (l : Level) (w : Written) : Term :=
  (l.through w.first w.rest).1.close (l.through w.first w.rest).2

namespace Written

def term (w : Written) : Term :=
  ({} : Level).read w

def append (v : Written) (op : Operation) (w : Written) : Written :=
  { first := v.first,rest := v.rest ++ (op,w.first) :: w.rest }

def ofNumber? (x : Float) : Option Written :=
  if Formula.Finite x then
    some { first := denoted .numeral .negate (Decimal.numberText x).toList }
  else none

end Written

-- None where the text cannot be read at all.
def Formula.written? : Formula → Option Written
  | .column name => some { first := .column name.toList }
  | .number x => Written.ofNumber? x
  | .compute op a b => do
      let v ← a.written?
      let w ← b.written?
      if op = .subtract ∧ b.kind = .signed then none
      else some { first := (v.append op w).term }
  | .bucket a size offset => do
      let v ← a.written?
      if offset == 0.0 then
        let s ← Written.ofNumber? size
        some (Written.append { first := .floor (v.append .divide s).term } .multiply s)
      else
        let o ← Written.ofNumber? offset
        let s ← Written.ofNumber? size
        let start : Written := { first := (v.append .subtract o).term }
        some ((Written.append { first := .floor (start.append .divide s).term } .multiply s).append
          .add o)
  | .indexOf a b => do
      let v ← a.written?
      let w ← b.written?
      some (Written.append { first := .position v.term w.term } .subtract { first := .numeral ['1'] })

theorem Level.through_append (l : Level) (t : Term) (xs : List (Operation × Term)) (op : Operation)
    (u : Term) (ys : List (Operation × Term)) :
    l.through t (xs ++ (op,u) :: ys)
      = ((l.through t xs).1.push (l.through t xs).2 op).through u ys := by
  induction xs generalizing l t with
  | nil => rfl
  | cons x xs ih => exact ih _ _

-- Terms as an arithmetic of their own, in which nothing is equal that is not written alike.
def free : Arithmetic Term where
  number x := denoted .numeral .negate (Decimal.numberText x).toList
  numeral := .numeral
  negate := .negate
  compute := .compute
  floor := .floor
  position := .position
  reads _ _ _ := rfl

def Formula.meant (φ : Formula) : Term :=
  φ.value free fun name => .column name.toList

def Term.IsCompute : Term → Prop
  | .compute _ _ _ => True
  | _ => False

-- What a formula of each kind is written as.
inductive Shape : Formula.Kind → Written → Prop where
  | atom : Shape .atom { first := t }
  | signed : Shape .signed { first := t }
  | product (number : ¬ s.IsCompute) : Shape .product { first := t,rest := [(.multiply,s)] }
  | moved (size : ¬ s.IsCompute) (offset : ¬ o.IsCompute) :
      Shape .sum { first := t,rest := [(.multiply,s),(.add,o)] }
  | index (one : ¬ s.IsCompute) : Shape .sum { first := t,rest := [(.subtract,s)] }

section Terms

variable {op : Operation} {k k' : Formula.Kind} {v w : Written} {p s t : Term}

def Operation.isSum : Operation → Bool
  | .add => true
  | .subtract => true
  | .multiply => false
  | .divide => false

theorem append_read : (v.append op w).term
    = ((({} : Level).through v.first v.rest).1.push (({} : Level).through v.first v.rest).2 op).read w := by
  unfold Written.term Written.append Level.read
  rw [Level.through_append]

-- A sum takes all that stands before it as its left side.
theorem append_sum (sum : op.isSum = true) :
    (v.append op w).term = ({ sum := some (v.term,op) } : Level).read w := by
  have pushed (l : Level) (t : Term) : l.push t op = { sum := some (l.close t,op) } := by
    cases op with
    | add => rfl
    | subtract => rfl
    | multiply => cases sum
    | divide => cases sum
  rw [append_read,pushed]
  rfl

theorem append_product (factor : op.isSum = false) (left : Shape k v) (single : k ≠ .sum) :
    (v.append op w).term = ({ product := some (v.term,op) } : Level).read w := by
  have pushed (l : Level) (t : Term) :
      l.push t op = { l with product := some (l.factor t,op) } := by
    cases op with
    | add => cases factor
    | subtract => cases factor
    | multiply => rfl
    | divide => rfl
  rw [append_read,pushed]
  cases left with
  | atom => rfl
  | signed => rfl
  | product number => rfl
  | moved size offset => exact absurd rfl single
  | index one => exact absurd rfl single

theorem compute_differs {op' : Operation} {q x : Term} (number : ¬ x.IsCompute)
    (wide : t.IsCompute) : Term.compute op' q x ≠ .compute op s t := by
  intro same
  cases same
  exact number wide

theorem read_additive {l : Level} {outer : Operation} (pending : l.sum = some (p,outer))
    (sum : outer.isSum = true) : ∃ op q x, l.read w = .compute op q x ∧ op.isSum = true := by
  obtain ⟨t,rest⟩ := w
  induction rest generalizing l t p outer with
  | nil => exact ⟨outer,p,_,by rw [Level.read,Level.through,Level.close,pending],sum⟩
  | cons next rest ih =>
      obtain ⟨op,u⟩ := next
      have kept : ∃ q op', (l.push t op).sum = some (q,op') ∧ op'.isSum = true := by
        cases op with
        | add => exact ⟨_,.add,rfl,rfl⟩
        | subtract => exact ⟨_,.subtract,rfl,rfl⟩
        | multiply => exact ⟨p,outer,pending,sum⟩
        | divide => exact ⟨p,outer,pending,sum⟩
      obtain ⟨q,op',pending,sum⟩ := kept
      exact ih pending sum u

theorem append_stolen (factor : op.isSum = false) (left : Shape .sum v) :
    (v.append op w).term ≠ .compute op s t := by
  have kept (l : Level) (t : Term) : (l.push t op).sum = l.sum := by
    cases op with
    | add => cases factor
    | subtract => cases factor
    | multiply => rfl
    | divide => rfl
  have whole : ∃ op' q x, (v.append op w).term = .compute op' q x ∧ op'.isSum = true := by
    rw [append_read]
    cases left with
    | moved size offset => exact read_additive (kept _ _) rfl
    | index one => exact read_additive (kept _ _) rfl
  obtain ⟨op',q,x,is,sum⟩ := whole
  intro same
  cases is.symm.trans same
  rw [factor] at sum
  cases sum

theorem term_single (t : Term) : ({ first := t } : Written).term = t :=
  rfl

section Right

variable (right : Shape k' w) (wide : k' = .product ∨ k' = .sum → t.IsCompute)
include right wide

theorem read_sum : ({ sum := some (p,op) } : Level).read w = .compute op s t ↔
    p = s ∧ w.term = t ∧ k' ≠ .sum := by
  cases right with
  | atom => simp [Level.read,Level.through,Level.close,Level.factor,Written.term]
  | signed => simp [Level.read,Level.through,Level.close,Level.factor,Written.term]
  | product number =>
      simp [Level.read,Level.through,Level.push,Level.close,Level.factor,Written.term]
  | moved size offset =>
      exact ⟨fun same => absurd same (compute_differs offset (wide (.inr rfl))),
        fun apart => absurd rfl apart.2.2⟩
  | index one =>
      exact ⟨fun same => absurd same (compute_differs one (wide (.inr rfl))),
        fun apart => absurd rfl apart.2.2⟩

theorem read_product : ({ product := some (p,op) } : Level).read w = .compute op s t ↔
    p = s ∧ w.term = t ∧ k' ≠ .product ∧ k' ≠ .sum := by
  cases right with
  | atom => simp [Level.read,Level.through,Level.close,Level.factor,Written.term]
  | signed => simp [Level.read,Level.through,Level.close,Level.factor,Written.term]
  | product number =>
      exact ⟨fun same => absurd same (compute_differs number (wide (.inl rfl))),
        fun apart => absurd rfl apart.2.2.1⟩
  | moved size offset =>
      exact ⟨fun same => absurd same (compute_differs offset (wide (.inr rfl))),
        fun apart => absurd rfl apart.2.2.2⟩
  | index one =>
      exact ⟨fun same => absurd same (compute_differs one (wide (.inr rfl))),
        fun apart => absurd rfl apart.2.2.2⟩

theorem append_term (left : Shape k v) (plain : ¬ (op = .subtract ∧ k' = .signed)) :
    (v.append op w).term = .compute op s t ↔
      v.term = s ∧ w.term = t ∧ Formula.Keeps op k k' := by
  have factors (factor : op.isSum = false) : (v.append op w).term = .compute op s t ↔
      v.term = s ∧ w.term = t ∧ k ≠ .sum ∧ k' ≠ .product ∧ k' ≠ .sum := by
    by_cases single : k = .sum
    · subst single
      exact ⟨fun same => absurd same (append_stolen factor left),
        fun apart => absurd rfl apart.2.2.1⟩
    · rw [append_product factor left single,read_product right wide]
      simp [single]
  cases op with
  | add =>
      rw [append_sum rfl,read_sum right wide]
      rfl
  | subtract =>
      rw [append_sum rfl,read_sum right wide]
      have unsigned : k' ≠ .signed := fun signed => plain ⟨rfl,signed⟩
      simp [Formula.Keeps,unsigned]
  | multiply => exact factors rfl
  | divide => exact factors rfl

end Right

theorem append_last (sum : op.isSum = true) (t : Term) :
    (v.append op { first := t }).term = .compute op v.term t :=
  append_sum sum

theorem append_number (left : Shape k v) (t : Term) :
    (v.append op { first := t }).term = .compute op s t ↔
      v.term = s ∧ (op.isSum = true ∨ k ≠ .sum) := by
  rw [append_term .atom (fun wide => by rcases wide with none | none <;> cases none) left (by simp)]
  cases op <;> simp [Formula.Keeps,Operation.isSum,Written.term,Level.read,Level.through,Level.close,
    Level.factor]

end Terms

namespace Formula

theorem number_written {x : Float} {w : Written} :
    Written.ofNumber? x = some w ↔ Finite x ∧ w = { first := free.number x } := by
  rw [Written.ofNumber?,Option.ite_none_right_eq_some,Option.some_inj]
  exact and_congr_right fun _ => eq_comm

theorem zero_finite {x : Float} (zero : (x == 0.0) = true) : Finite x := by
  have none : Decimal.value? 0.0 = some 0 := by decide +kernel
  exact Decimal.value_finite (Decimal.value_of_beq none zero)

theorem number_narrow (x : Float) : ¬ (free.number x).IsCompute := by
  change ¬ (denoted Term.numeral Term.negate _).IsCompute
  unfold denoted
  split <;> exact id

theorem written_shape {φ : Formula} {w : Written} (written : φ.written? = some w) :
    Shape φ.kind w := by
  cases φ with
  | column name =>
      cases written
      exact .atom
  | number x =>
      obtain ⟨-,rfl⟩ := number_written.mp written
      rw [kind]
      split
      · exact .signed
      · exact .atom
  | compute op a b =>
      simp only [written?,Option.bind_eq_bind,Option.bind_eq_some_iff] at written
      obtain ⟨u,-,v,-,is⟩ := written
      obtain ⟨-,is⟩ := Option.ite_none_left_eq_some.mp is
      cases is
      exact .atom
  | bucket a size offset =>
      simp only [written?,Option.bind_eq_bind,Option.bind_eq_some_iff] at written
      obtain ⟨u,-,written⟩ := written
      rw [kind]
      split at written
      · rename_i zero
        obtain ⟨s,wide,is⟩ := Option.bind_eq_some_iff.mp written
        obtain ⟨-,rfl⟩ := number_written.mp wide
        cases is
        rw [if_pos zero]
        exact .product (number_narrow size)
      · rename_i zero
        obtain ⟨o,shift,is⟩ := Option.bind_eq_some_iff.mp written
        obtain ⟨s,wide,is⟩ := Option.bind_eq_some_iff.mp is
        obtain ⟨-,rfl⟩ := number_written.mp wide
        obtain ⟨-,rfl⟩ := number_written.mp shift
        cases is
        rw [if_neg zero]
        exact .moved (number_narrow size) (number_narrow offset)
  | indexOf a b =>
      simp only [written?,Option.bind_eq_bind,Option.bind_eq_some_iff] at written
      obtain ⟨u,-,v,-,is⟩ := written
      cases is
      exact .index id

theorem meant_wide {φ : Formula} (wide : φ.kind = .product ∨ φ.kind = .sum) : φ.meant.IsCompute := by
  cases φ with
  | column name => rcases wide with none | none <;> cases none
  | number x =>
      rw [kind] at wide
      split at wide <;> rcases wide with none | none <;> cases none
  | compute op a b => trivial
  | bucket a size offset =>
      unfold meant value
      dsimp only
      split <;> trivial
  | indexOf a b => trivial

theorem written_exact (φ : Formula) :
    (∃ w, φ.written? = some w ∧ w.term = φ.meant) ↔ φ.Safe := by
  induction φ with
  | column name => exact ⟨fun _ => trivial,fun _ => ⟨_,rfl,rfl⟩⟩
  | number x =>
      constructor
      · rintro ⟨w,written,-⟩
        exact (number_written.mp written).1
      · exact fun finite => ⟨_,number_written.mpr ⟨finite,rfl⟩,rfl⟩
  | compute op a b left right =>
      constructor
      · rintro ⟨w,written,same⟩
        simp only [written?,Option.bind_eq_bind,Option.bind_eq_some_iff] at written
        obtain ⟨u,first,v,second,is⟩ := written
        obtain ⟨apart,is⟩ := Option.ite_none_left_eq_some.mp is
        cases is
        obtain ⟨before,after,keeps⟩ :=
          (append_term (written_shape second) meant_wide (written_shape first) apart).mp same
        exact ⟨left.mp ⟨u,first,before⟩,right.mp ⟨v,second,after⟩,keeps⟩
      · rintro ⟨safe,safe',keeps⟩
        obtain ⟨u,first,before⟩ := left.mpr safe
        obtain ⟨v,second,after⟩ := right.mpr safe'
        have apart : ¬ (op = .subtract ∧ b.kind = .signed) := by
          rintro ⟨rfl,signed⟩
          exact keeps.2 signed
        refine ⟨{ first := (u.append op v).term },by simp [written?,first,second,apart],?_⟩
        exact (append_term (written_shape second) meant_wide (written_shape first) apart).mpr
          ⟨before,after,keeps⟩
  | bucket a size offset ih =>
      by_cases zero : (offset == 0.0) = true
      · have meant : (bucket a size offset).meant = .compute .multiply
            (.floor (.compute .divide a.meant (free.number size))) (free.number size) := by
          simp only [Formula.meant,value,zero,if_true]
          rfl
        have term (u : Written) (shape : Shape a.kind u) : (Written.append
            { first := .floor (u.append .divide { first := free.number size }).term } .multiply
              { first := free.number size }).term = (bucket a size offset).meant ↔
                u.term = a.meant ∧ a.kind ≠ .sum := by
          rw [meant,append_number .atom,term_single,Term.floor.injEq,append_number shape]
          simp [Operation.isSum]
        constructor
        · rintro ⟨w,written,same⟩
          simp only [written?,zero,if_true,Option.bind_eq_bind,Option.bind_eq_some_iff] at written
          obtain ⟨u,first,s,wide,is⟩ := written
          obtain ⟨finite,rfl⟩ := number_written.mp wide
          cases is
          obtain ⟨before,single⟩ := (term u (written_shape first)).mp same
          exact ⟨ih.mp ⟨u,first,before⟩,finite,zero_finite zero,fun _ => single⟩
        · rintro ⟨safe,finite,-,single⟩
          obtain ⟨u,first,before⟩ := ih.mpr safe
          refine ⟨_,?_,(term u (written_shape first)).mpr ⟨before,single zero⟩⟩
          simp only [written?,first,zero,if_true,number_written.mpr ⟨finite,rfl⟩]
          rfl
      · have meant : (bucket a size offset).meant = .compute .add (.compute .multiply
            (.floor (.compute .divide (.compute .subtract a.meant (free.number offset))
              (free.number size))) (free.number size)) (free.number offset) := by
          simp only [Formula.meant,value,zero]
          rfl
        have term (u : Written) (shape : Shape a.kind u) : ((Written.append
            { first := .floor (Written.append
              { first := (u.append .subtract { first := free.number offset }).term } .divide
                { first := free.number size }).term } .multiply { first := free.number size }).append
                  .add { first := free.number offset }).term = (bucket a size offset).meant ↔
                u.term = a.meant := by
          rw [meant,append_last rfl,Term.compute.injEq,append_number .atom,term_single,
            Term.floor.injEq,append_number .atom,term_single,append_number shape]
          simp [Operation.isSum]
        constructor
        · rintro ⟨w,written,same⟩
          simp only [written?,zero,Bool.false_eq_true,if_false,Option.bind_eq_bind,
            Option.bind_eq_some_iff] at written
          obtain ⟨u,first,o,shift,s,wide,is⟩ := written
          obtain ⟨finite,rfl⟩ := number_written.mp shift
          obtain ⟨finite',rfl⟩ := number_written.mp wide
          cases is
          have before := (term u (written_shape first)).mp same
          exact ⟨ih.mp ⟨u,first,before⟩,finite',finite,fun is => absurd is zero⟩
        · rintro ⟨safe,finite,finite',-⟩
          obtain ⟨u,first,before⟩ := ih.mpr safe
          refine ⟨_,?_,(term u (written_shape first)).mpr before⟩
          simp only [written?,first,zero,Bool.false_eq_true,if_false,
            number_written.mpr ⟨finite,rfl⟩,number_written.mpr ⟨finite',rfl⟩]
          rfl
  | indexOf a b left right =>
      have one : free.number 1.0 = .numeral ['1'] := by decide +kernel
      have meant : (indexOf a b).meant
          = .compute .subtract (.position a.meant b.meant) (.numeral ['1']) := by
        rw [← one]
        rfl
      have term (u v : Written) : (Written.append { first := .position u.term v.term } .subtract
          { first := .numeral ['1'] }).term = (indexOf a b).meant ↔
            u.term = a.meant ∧ v.term = b.meant := by
        rw [meant,append_number .atom]
        simp [Operation.isSum,term_single]
      constructor
      · rintro ⟨w,written,same⟩
        simp only [written?,Option.bind_eq_bind,Option.bind_eq_some_iff] at written
        obtain ⟨u,first,v,second,is⟩ := written
        cases is
        obtain ⟨before,after⟩ := (term u v).mp same
        exact ⟨left.mp ⟨u,first,before⟩,right.mp ⟨v,second,after⟩⟩
      · rintro ⟨safe,safe'⟩
        obtain ⟨u,first,before⟩ := left.mpr safe
        obtain ⟨v,second,after⟩ := right.mpr safe'
        exact ⟨_,by simp only [written?,first,second]; rfl,(term u v).mpr ⟨before,after⟩⟩

end Formula

end OlapQuery.Sql
