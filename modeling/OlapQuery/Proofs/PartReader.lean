import OlapQuery.Proofs.DialectTables
import OlapQuery.Proofs.KeyFormats
import OlapQuery.Proofs.SqlConditions

-- Parts of a time as an engine computes them: whole numbers with four operators, of which
-- multiplication and remainder bind tighter and all of which associate to the left, and calls of
-- its own functions of the time. The arguments of a call are kept apart by a comma or by one of
-- the words FROM and AS. The time is a quoted column.

namespace OlapQuery.Sql

open Time (LocalTime daysFromMonday)

-- What the functions of the engines give of a time.
inductive Native where
  | second
  | minute
  | hour
  | secondOfDay
  | dayOfMonth
  | dayOfYear
  -- Days since Monday and since Sunday, and the same counted from one.
  | sinceMonday
  | fromMonday
  | sinceSunday
  | fromSunday
  | weekOfYear
  | month
  | quarter
  | year
  deriving DecidableEq, Repr

def Native.number (clock : LocalTime) : Native → Int
  | .second => clock.second
  | .minute => clock.minute
  | .hour => clock.hour
  | .secondOfDay => clock.secondOfDay
  | .dayOfMonth => clock.date.day
  | .dayOfYear => clock.dayOfYear
  | .sinceMonday => daysFromMonday clock.dayNumber
  | .fromMonday => daysFromMonday clock.dayNumber + 1
  -- 1970-01-01, a Thursday, was four days after Sunday.
  | .sinceSunday => (clock.dayNumber + 4) % 7
  | .fromSunday => (clock.dayNumber + 4) % 7 + 1
  | .weekOfYear => clock.weekOfYear
  | .month => clock.date.month
  | .quarter => (clock.date.month + 2) / 3
  | .year => clock.date.year

namespace Family

def fields : Family → List (String × Native)
  | .presto => [("SECOND",.second),("MINUTE",.minute),("HOUR",.hour),("DAY",.dayOfMonth),
      ("DAY_OF_YEAR",.dayOfYear),("DAY_OF_WEEK",.fromMonday),("WEEK",.weekOfYear),
      ("MONTH",.month),("QUARTER",.quarter),("YEAR",.year)]
  | .bigQuery => [("SECOND",.second),("MINUTE",.minute),("HOUR",.hour),("DAY",.dayOfMonth),
      ("DAYOFYEAR",.dayOfYear),("DAYOFWEEK",.fromSunday),("ISOWEEK",.weekOfYear),
      ("MONTH",.month),("QUARTER",.quarter),("YEAR",.year)]
  | .postgres => [("SECOND",.second),("MINUTE",.minute),("HOUR",.hour),("DAY",.dayOfMonth),
      ("DOY",.dayOfYear),("DOW",.sinceSunday),("ISODOW",.fromMonday),("WEEK",.weekOfYear),
      ("MONTH",.month),("QUARTER",.quarter),("YEAR",.year)]
  | .mySql => []

def functions : Family → List (String × Native)
  | .mySql => [("SECOND",.second),("MINUTE",.minute),("HOUR",.hour),("TIME_TO_SEC",.secondOfDay),
      ("DAYOFMONTH",.dayOfMonth),("DAYOFYEAR",.dayOfYear),("WEEKDAY",.sinceMonday),
      ("MONTH",.month),("QUARTER",.quarter),("YEAR",.year)]
  | _ => []

end Family

namespace Parts

inductive Operation where
  | add
  | subtract
  | multiply
  | remainder
  deriving DecidableEq, Repr

inductive Separator where
  | comma
  | from
  | as
  deriving DecidableEq, Repr

inductive Term where
  | time
  | numeral (digits : List Char)
  -- A field or a type.
  | name (word : String)
  | compute (op : Operation) (a b : Term)
  | call (function : String) (a : Term)
  | callBoth (function : String) (by_ : Separator) (a b : Term)
  deriving DecidableEq, Repr

section Reading

inductive Lexeme where
  | time
  | numeral (digits : List Char)
  | word (text : String)
  | symbol (c : Char)
  deriving DecidableEq, Repr

-- Words are the same in capitals and small letters.
def ended (pending : List Char) : List Lexeme :=
  if pending.isEmpty then []
  else if pending.all Char.isDigit then [.numeral pending]
  else [.word (String.ofList (pending.map Char.toUpper))]

def lexemes (pending : List Char) : Frame → List Lexeme
  | [] => ended pending
  | none :: rest => ended pending ++ .time :: lexemes [] rest
  | some c :: rest =>
      if c.isAlphanum || c == '_' then lexemes (pending ++ [c]) rest
      else if c == ' ' then ended pending ++ lexemes [] rest
      else ended pending ++ .symbol c :: lexemes [] rest

-- What has been read of a sum before its next operand: the sum so far, and the product so far.
structure Level where
  sum : Option (Term × Operation) := none
  product : Option (Term × Operation) := none

namespace Level

def factor (l : Level) (t : Term) : Term :=
  match l.product with
  | none => t
  | some (p,op) => .compute op p t

def close (l : Level) (t : Term) : Term :=
  match l.sum with
  | none => l.factor t
  | some (s,op) => .compute op s (l.factor t)

end Level

-- A call or group that is still open: the argument before this one, and what waits for it.
structure Open where
  function : Option String := none
  given : Option (Term × Separator) := none
  level : Level

def Open.close? (o : Open) (t : Term) : Option Term :=
  match o.function,o.given with
  | none,none => some t
  | some f,none => some (.call f t)
  | some f,some (a,by_) => some (.callBoth f by_ a t)
  | none,some _ => none

inductive State where
  | want (level : Level) (outer : List Open)
  -- Behind a word that may be called.
  | named (word : String) (level : Level) (outer : List Open)
  | done (level : Level) (t : Term) (outer : List Open)

namespace State

def separate (l : Level) (t : Term) (by_ : Separator) : List Open → Option State
  | { function := some f,given := none,level } :: outer =>
      some (.want {} ({ function := some f,given := some (l.close t,by_),level } :: outer))
  | _ => none

def behind (l : Level) (t : Term) (outer : List Open) : Lexeme → Option State
  | .symbol '*' => some (.want { l with product := some (l.factor t,.multiply) } outer)
  | .symbol '%' => some (.want { l with product := some (l.factor t,.remainder) } outer)
  | .symbol '+' => some (.want { sum := some (l.close t,.add) } outer)
  | .symbol '-' => some (.want { sum := some (l.close t,.subtract) } outer)
  | .symbol ',' => separate l t .comma outer
  | .word "FROM" => separate l t .from outer
  | .word "AS" => separate l t .as outer
  | .symbol ')' =>
      match outer with
      | o :: outer => (o.close? (l.close t)).map fun u => .done o.level u outer
      | [] => none
  | _ => none

def step : State → Lexeme → Option State
  | .want l outer,.time => some (.done l .time outer)
  | .want l outer,.numeral digits => some (.done l (.numeral digits) outer)
  | .want l outer,.word w => some (.named w l outer)
  | .want l outer,.symbol '(' => some (.want {} ({ level := l } :: outer))
  | .named w l outer,.symbol '(' => some (.want {} ({ function := some w,level := l } :: outer))
  | .named w l outer,x => behind l (.name w) outer x
  | .done l t outer,x => behind l t outer x
  | _,_ => none

def finish : State → Option Term
  | .done l t [] => some (l.close t)
  | _ => none

end State

def term? (frame : Frame) : Option Term :=
  ((lexemes [] frame).foldlM State.step (.want {} [])).bind State.finish

def item? (column : String) : Token → Option (Option Char)
  | .char c => some (some c)
  | .identifier name => if name = column.toList then some none else none
  | .string _ => none

end Reading

end Parts

-- The term of the time in a column that a text is read as.
def Dialect.partTerm? (d : Dialect) (column text : String) : Option Parts.Term := do
  let tokens ← d.tokens text
  let frame ← tokens.mapM (Parts.item? column)
  Parts.term? frame

namespace Parts

section Frames

-- Text without quotes in which something stands behind each operand, unless it ends there.
def bare : Frame → Bool
  | [] => true
  | none :: rest => (rest.isEmpty || starts rest) && bare rest
  | some c :: rest => unmarked c && bare rest

def token (column : String) : Option Char → Token
  | some c => .char c
  | none => .identifier column.toList

theorem items_tokens (column : String) (frame : Frame) :
    (frame.map (token column)).mapM (item? column) = some frame := by
  induction frame with
  | nil => rfl
  | cons item rest ih =>
      rw [List.map_cons,List.mapM_cons,ih]
      cases item <;> simp [token,item?]

variable {d : Dialect}

theorem tokensFrom_fill (column : String) {frame : Frame} (plain : bare frame = true) :
    d.tokensFrom .outside (fill (d.quoteIdentifier column) frame)
      = some (frame.map (token column)) := by
  induction frame with
  | nil => rfl
  | cons item rest ih =>
      cases item with
      | some c =>
          obtain ⟨free,later⟩ := Bool.and_eq_true_iff.mp plain
          have unmarked : [c].all unmarked = true := by simpa using free
          have one := tokensFrom_free (d := d) unmarked (fill (d.quoteIdentifier column) rest)
          rw [ih later] at one
          exact one
      | none =>
          obtain ⟨apart,later⟩ := Bool.and_eq_true_iff.mp plain
          have fresh : d.Fresh (fill (d.quoteIdentifier column) rest) := by
            rcases Bool.or_eq_true_iff.mp apart with none | first
            · rw [List.isEmpty_iff.mp none]
              exact nofun
            · rw [← List.append_nil (fill _ rest)]
              exact fresh_fill first
          have one : d.tokensFrom .outside ((d.quoteIdentifier column).toList ++ _) = _ :=
            Dialect.tokensFrom_identifier fresh
          rw [ih later] at one
          exact one

theorem partTerm_fill (column : String) {text : String} {frame : Frame}
    (filled : text.toList = fill (d.quoteIdentifier column) frame) (plain : bare frame = true) :
    d.partTerm? column text = term? frame := by
  rw [Dialect.partTerm?,Dialect.tokens,filled,tokensFrom_fill column plain,Option.bind_eq_bind,
    Option.bind_some,items_tokens]
  rfl

end Frames

section Values

-- How numbers are computed with; what cannot be computed is none.
structure Arithmetic (ν : Type) where
  numeral : Nat → ν
  native : Native → ν
  compute : Operation → ν → ν → Option ν

-- Whole numbers, with the functions of the engine at a time.
def Arithmetic.at (clock : LocalTime) : Arithmetic Int where
  numeral n := n
  native x := x.number clock
  compute
    | .add,a,b => some (a + b)
    | .subtract,a,b => some (a - b)
    | .multiply,a,b => some (a * b)
    | .remainder,a,b => if b = 0 then none else some (a.tmod b)

inductive Datum (ν : Type) where
  | number (n : ν)
  | time
  -- The time without its date.
  | clock

variable {ν : Type} (A : Arithmetic ν) (family : Family)

def computed (op : Operation) : Datum ν → Datum ν → Option (Datum ν)
  | .number a,.number b =>
      if op = .remainder ∧ family = .bigQuery then none else (A.compute op a b).map .number
  | _,_ => none

def called (function : String) : Datum ν → Option (Datum ν)
  | .time => (family.functions.lookup function).map fun x => .number (A.native x)
  | _ => none

def extracted (field : String) : Datum ν → Option (Datum ν)
  | .time => (family.fields.lookup field).map fun x => .number (A.native x)
  | .clock =>
      if field = "EPOCH" ∧ family = .postgres then some (.number (A.native .secondOfDay)) else none
  | .number _ => none

def cast (type : String) : Datum ν → Option (Datum ν)
  | .number n => if type = "INT" ∧ family = .postgres then some (.number n) else none
  | .time => if type = "TIME" ∧ family = .postgres then some .clock else none
  | .clock => none

-- A week in mode 3 is the week of the year that begins on Monday and has its Thursday.
def calledBoth (function : String) (mode : Term) : Datum ν → Datum ν → Option (Datum ν)
  | .number a,.number b =>
      if function = "MOD" then (A.compute .remainder a b).map .number else none
  | .time,.number _ =>
      if function = "WEEK" ∧ mode = .numeral ['3'] ∧ family = .mySql then
        some (.number (A.native .weekOfYear))
      else none
  | _,_ => none

def Term.datum? : Term → Option (Datum ν)
  | .time => some .time
  | .numeral digits => some (.number (A.numeral (Decimal.natOfDigits digits)))
  | .name _ => none
  | .compute op a b => do computed A family op (← a.datum?) (← b.datum?)
  | .call f a => do called A family f (← a.datum?)
  | .callBoth f .comma a b => do calledBoth A family f b (← a.datum?) (← b.datum?)
  | .callBoth f .from (.name field) a => do
      if f = "EXTRACT" then extracted A family field (← a.datum?) else none
  | .callBoth f .as a (.name type) => do
      if f = "CAST" then cast family type (← a.datum?) else none
  | _ => none

def Term.value? (t : Term) : Option ν :=
  match t.datum? A family with
  | some (.number n) => some n
  | _ => none

end Values

section Homomorphisms

-- A way from numbers to numbers that keeps whatever can be computed.
structure Arithmetic.Hom {ν μ : Type} (A : Arithmetic ν) (B : Arithmetic μ) (h : ν → μ) :
    Prop where
  numeral : ∀ n, h (A.numeral n) = B.numeral n
  native : ∀ x, h (A.native x) = B.native x
  compute : ∀ op a b c, A.compute op a b = some c → B.compute op (h a) (h b) = some (h c)

def Datum.map {ν μ : Type} (h : ν → μ) : Datum ν → Datum μ
  | .number n => .number (h n)
  | .time => .time
  | .clock => .clock

variable {ν μ : Type} {A : Arithmetic ν} {B : Arithmetic μ} {h : ν → μ} {family : Family}
  (hom : A.Hom B h)
include hom

theorem computed_hom {op : Operation} {x y z : Datum ν} (is : computed A family op x y = some z) :
    computed B family op (x.map h) (y.map h) = some (z.map h) := by
  unfold computed at is
  split at is
  · obtain ⟨allowed,ran⟩ := Option.ite_none_left_eq_some.mp is
    obtain ⟨c,made,rfl⟩ := Option.map_eq_some_iff.mp ran
    simp only [computed,Datum.map,if_neg allowed,hom.compute _ _ _ _ made,Option.map_some]
  · cases is

theorem called_hom {function : String} {x z : Datum ν} (is : called A family function x = some z) :
    called B family function (x.map h) = some (z.map h) := by
  unfold called at is
  split at is
  · obtain ⟨f,found,rfl⟩ := Option.map_eq_some_iff.mp is
    simp only [called,Datum.map,found,Option.map_some,hom.native]
  · cases is

theorem extracted_hom {field : String} {x z : Datum ν}
    (is : extracted A family field x = some z) :
    extracted B family field (x.map h) = some (z.map h) := by
  unfold extracted at is
  split at is
  · obtain ⟨f,found,rfl⟩ := Option.map_eq_some_iff.mp is
    simp only [extracted,Datum.map,found,Option.map_some,hom.native]
  · obtain ⟨named,made⟩ := Option.ite_none_right_eq_some.mp is
    cases made
    simp only [extracted,Datum.map,if_pos named,hom.native]
  · cases is

omit hom in
theorem cast_map (h : ν → μ) {type : String} {x z : Datum ν} (is : cast family type x = some z) :
    cast family type (x.map h) = some (z.map h) := by
  unfold cast at is
  split at is
  · obtain ⟨named,made⟩ := Option.ite_none_right_eq_some.mp is
    cases made
    simp only [cast,Datum.map,if_pos named]
  · obtain ⟨named,made⟩ := Option.ite_none_right_eq_some.mp is
    cases made
    simp only [cast,Datum.map,if_pos named]
  · cases is

theorem calledBoth_hom {function : String} {mode : Term} {x y z : Datum ν}
    (is : calledBoth A family function mode x y = some z) :
    calledBoth B family function mode (x.map h) (y.map h) = some (z.map h) := by
  unfold calledBoth at is
  split at is
  · obtain ⟨named,ran⟩ := Option.ite_none_right_eq_some.mp is
    obtain ⟨c,made,rfl⟩ := Option.map_eq_some_iff.mp ran
    simp only [calledBoth,Datum.map,if_pos named,hom.compute _ _ _ _ made,Option.map_some]
  · obtain ⟨named,made⟩ := Option.ite_none_right_eq_some.mp is
    cases made
    simp only [calledBoth,Datum.map,if_pos named,hom.native]
  · cases is

theorem datum_hom {t : Term} {x : Datum ν} (is : t.datum? A family = some x) :
    t.datum? B family = some (x.map h) := by
  induction t using Term.datum?.induct generalizing x with
  | case1 => cases is; rfl
  | case2 digits => cases is; simp [Term.datum?,Datum.map,hom.numeral]
  | case3 => cases is
  | case4 op a b first second =>
      obtain ⟨l,left,rest⟩ := Option.bind_eq_some_iff.mp is
      obtain ⟨r,right,made⟩ := Option.bind_eq_some_iff.mp rest
      simp [Term.datum?,first left,second right,computed_hom hom made]
  | case5 f a ih =>
      obtain ⟨y,read,made⟩ := Option.bind_eq_some_iff.mp is
      simp [Term.datum?,ih read,called_hom hom made]
  | case6 f a b first second =>
      obtain ⟨l,left,rest⟩ := Option.bind_eq_some_iff.mp is
      obtain ⟨r,right,made⟩ := Option.bind_eq_some_iff.mp rest
      simp [Term.datum?,first left,second right,calledBoth_hom hom made]
  | case7 field a ih =>
      obtain ⟨y,read,made⟩ := Option.bind_eq_some_iff.mp ((if_pos rfl).symm.trans is)
      simp [Term.datum?,ih read,extracted_hom hom made]
  | case8 f field a other => simp [Term.datum?,other] at is
  | case9 a type ih =>
      obtain ⟨y,read,made⟩ := Option.bind_eq_some_iff.mp ((if_pos rfl).symm.trans is)
      simp [Term.datum?,ih read,cast_map h made]
  | case10 f a type other => simp [Term.datum?,other] at is
  | case11 => simp [Term.datum?] at is

theorem value_hom {t : Term} {n : ν} (is : t.value? A family = some n) :
    t.value? B family = some (h n) := by
  unfold Term.value? at is
  split at is
  · rename_i number
    cases is
    simp only [Term.value?,datum_hom hom number,Datum.map]
  · cases is

end Homomorphisms

end Parts

end OlapQuery.Sql
