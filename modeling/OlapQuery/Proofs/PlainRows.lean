import OlapQuery.Proofs.Reading

-- A reading that can be run: rows of texts and times, with the conditions that compare a column
-- with a literal. It tells no other values apart and holds no other condition to be true.

namespace OlapQuery

open Time (Instant)

namespace Plain

inductive Datum where
  | text (value : String)
  | time (value : Instant)
  | other
  deriving DecidableEq, Repr

abbrev Record := String → Datum

def datum : Value → Datum
  | .string s => .text s
  | .time t => .time t
  | _ => .other

def value (row : Record) : Expr → Datum
  | .ref name => row name
  | .literal v => datum v
  | _ => .other

def inRange (r : TimeRange) : Datum → Bool
  | .time t => r.contains t
  | _ => false

-- An element of a set stands for itself or, as a range, for what lies in it.
def matchesElement (d : Datum) : Value → Bool
  | .timeRange r => inRange r d
  | v => d == datum v

def insideValue (d : Datum) : Value → Bool
  | .timeRange r => inRange r d
  | .set _ elements => elements.any (matchesElement d)
  | _ => false

def inside (d : Datum) : Expr → Bool
  | .literal v => insideValue d v
  | _ => false

def compares (op : BinaryOp) : Datum → Datum → Bool
  | .time t,.time u =>
      match op with
      | .greaterThan => !t.le u
      | .greaterThanOrEqual => u.le t
      | .lessThan => !u.le t
      | .lessThanOrEqual => t.le u
      | _ => false
  | _,_ => false

mutual
def holds (row : Record) : Expr → Bool
  | .literal (.boolean b) => b
  | .junction .and es => holdsAll row es
  | .binary .is e x => value row e == value row x
  | .binary .member e s => inside (value row e) s
  | .binary op e x => compares op (value row e) (value row x)
  | _ => false

def holdsAll (row : Record) : List Expr → Bool
  | [] => true
  | e :: rest => holds row e && holdsAll row rest
end

theorem holdsAll_exact (row : Record) (es : List Expr) :
    holdsAll row es = true ↔ ∀ e ∈ es, holds row e = true := by
  induction es with
  | nil => simp [holdsAll]
  | cons e rest ih => simp [holdsAll,ih]

theorem datum_same {a b : Value} (alike : a.same b = true) : datum a = datum b := by
  cases a <;> cases b <;> simp_all [Value.same,datum]

theorem value_same (row : Record) {a b : Expr} (alike : a.same b = true) :
    value row a = value row b := by
  cases a <;> cases b <;> simp_all [Expr.same,value]
  exact datum_same alike

theorem matchesElement_same (d : Datum) {a b : Value} (alike : a.same b = true) :
    matchesElement d a = matchesElement d b := by
  have same := datum_same alike
  cases a <;> cases b <;> simp_all [Value.same,matchesElement]

theorem elements_same (d : Datum) {as bs : List Value} (alike : Value.sameAll as bs = true) :
    as.any (matchesElement d) = bs.any (matchesElement d) := by
  induction as generalizing bs with
  | nil => cases bs <;> simp_all [Value.sameAll]
  | cons a rest ih =>
      cases bs with
      | nil => cases alike
      | cons b others =>
          simp only [Value.sameAll,Bool.and_eq_true] at alike
          simp only [List.any_cons,matchesElement_same d alike.1,ih alike.2]

theorem insideValue_same (d : Datum) {a b : Value} (alike : a.same b = true) :
    insideValue d a = insideValue d b := by
  cases a <;> cases b <;> simp_all [Value.same,insideValue]
  exact elements_same d alike.2

theorem inside_same (d : Datum) {a b : Expr} (alike : a.same b = true) :
    inside d a = inside d b := by
  cases a <;> cases b <;> simp_all [Expr.same,inside]
  exact insideValue_same d alike

-- The operations that this reading compares are told from the others by their name alone.
theorem binary_same (row : Record) (op : BinaryOp) {a b x y : Expr} (operands : a.same b = true)
    (expressions : x.same y = true) : holds row (.binary op a x) = holds row (.binary op b y) := by
  have left := value_same row operands
  have right := value_same row expressions
  have members := inside_same (value row b) expressions
  cases op <;> simp only [holds,left,right,members]

theorem literal_same (row : Record) {a b : Value} (alike : a.same b = true) :
    holds row (.literal a) = holds row (.literal b) := by
  cases a <;> cases b <;> simp_all [Value.same,holds]

theorem holdsAll_same (row : Record) {as bs : List Expr} (alike : Expr.sameAll as bs = true)
    (each : ∀ a ∈ as, ∀ b, a.same b = true → holds row a = holds row b) :
    holdsAll row as = holdsAll row bs := by
  induction as generalizing bs with
  | nil => cases bs <;> simp_all [Expr.sameAll]
  | cons a rest ih =>
      cases bs with
      | nil => cases alike
      | cons b others =>
          simp only [Expr.sameAll,Bool.and_eq_true] at alike
          have first := each a List.mem_cons_self b alike.1
          have tail := ih alike.2 (fun e member => each e (List.mem_cons_of_mem _ member))
          simp only [holdsAll,first,tail]

theorem holds_same (row : Record) (a : Expr) :
    ∀ b, a.same b = true → holds row a = holds row b := by
  induction a using Expr.structural with
  | literal v =>
      intro b alike
      cases b with
      | literal w => exact literal_same row (by simpa [Expr.same] using alike)
      | _ => cases alike
  | binary op e x left right =>
      intro b alike
      cases b with
      | binary other f y =>
          simp only [Expr.same,Bool.and_eq_true,beq_iff_eq] at alike
          obtain ⟨⟨rfl,operands⟩,expressions⟩ := alike
          exact binary_same row op operands expressions
      | _ => cases alike
  | junction op es ih =>
      intro b alike
      cases b with
      | junction other fs =>
          simp only [Expr.same,Bool.and_eq_true,beq_iff_eq] at alike
          obtain ⟨rfl,members⟩ := alike
          cases op with
          | and => simpa [holds] using holdsAll_same row members ih
          | or => simp [holds]
      | _ => cases alike
  | ref name => intro b alike; cases b <;> first | rfl | cases alike
  | ply => intro b alike; cases b <;> first | rfl | cases alike
  | unary op e ih => intro b alike; cases b <;> first | cases alike | simp only [holds]
  | split e keys dataName ih others => intro b alike; cases b <;> first | rfl | cases alike

def reading : ValueReading Record Datum where
  holds row e := holds row e = true
  holds_bool row b := by simp [holds]
  holds_and row es := by simpa [holds] using holdsAll_exact row es
  value := value
  constant := datum
  inside _ d s := inside d s = true
  holds_is row e v := by simp [holds,value]
  holds_member row e s := by simp [holds]
  value_same row a b alike := value_same row alike
  holds_same row a b alike := by rw [holds_same row a b alike]

theorem matchesElement_time (t : Instant) (v : Value) :
    matchesElement (.time t) v = true ↔ v = .time t ∨ ∃ r, v = .timeRange r ∧ r.contains t = true := by
  cases v with
  | time u =>
      simp only [matchesElement,datum,beq_iff_eq,Datum.time.injEq,Value.time.injEq,reduceCtorEq,
        false_and,exists_false,or_false]
      exact eq_comm
  | timeRange r => simp [matchesElement,inRange]
  | _ => simp [matchesElement,datum]

theorem reads_time {row : Record} {column : String} {t : Instant} (found : row column = .time t) :
    reading.toReading.ReadsTime row column t where
  is u := by simp [reading,holds,value,datum,found]
  inRange r := by simp [reading,holds,inside,insideValue,inRange,value,found]
  inSet type elements := by
    simp [reading,holds,inside,insideValue,value,found,matchesElement_time]
  greaterThan u := by simp [reading,holds,value,datum,found,compares]
  greaterThanOrEqual u := by simp [reading,holds,value,datum,found,compares]
  lessThan u := by simp [reading,holds,value,datum,found,compares]
  lessThanOrEqual u := by simp [reading,holds,value,datum,found,compares]

end Plain

end OlapQuery
