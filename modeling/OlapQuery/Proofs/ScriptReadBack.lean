import OlapQuery.Druid.Aggregation
import OlapQuery.Proofs.FoldRun
import OlapQuery.Proofs.ScriptFormulas

-- The text of a formula that is grouped and legible is read as an expression that is worth what
-- the formula is, for every engine and whatever the variables are. No other text is read as the
-- expression that was meant.

namespace OlapQuery.Druid.Script

-- A text that a variable can be given as its name.
structure Identifier (text : String) : Prop where
  word : Word text.toList
  free : Atom.ofWord? text.toList = some (.name text.toList)

theorem underscore_free (more : List Char) :
    Atom.ofWord? ('_' :: more) = some (.name ('_' :: more)) := by
  have constantless : constants.lookup ('_' :: more) = none := by
    have starts : ∀ entry ∈ constants, entry.1.head? ≠ some '_' := by decide +kernel
    rw [List.lookup_eq_none_iff]
    intro entry listed
    rw [bne_iff_ne]
    intro same
    exact starts entry listed (same ▸ rfl)
  have unreserved : reserved.contains ('_' :: more) = false := by
    have starts : ∀ word ∈ reserved, word.head? ≠ some '_' := by decide +kernel
    rw [List.contains_eq_mem,decide_eq_false_iff_not]
    intro listed
    exact starts _ listed rfl
  rw [Atom.ofWord?,constantless,unreserved]
  rfl

-- Variables that are numbered by the columns they hold have names, whatever the columns are called.
theorem positional_identifier (names : List String) (place name text : String)
    (named : positional names place name = .ok text) : Identifier text := by
  unfold positional at named
  split at named
  · rename_i i _
    cases named
    have digits := (Decimal.digits_nat i).2
    refine ⟨⟨'_',(toString i).toList,by simp,by decide,fun c listed => ?_⟩,?_⟩
    · simp [isWordPart,digits c listed]
    · rw [String.toList_append]
      exact underscore_free _
  · cases named

section Texts

variable {t u : Tree} {x y : List Char}

theorem Primary.of_text (primary : Primary t x) (same : x = y) : Primary t y :=
  same ▸ primary

theorem Reads.of_text (reads : Reads t x) (same : x = y) : Reads t y :=
  same ▸ reads

theorem Primary.above (primary : Primary t x) (op : Operator) : op.level < t.level := by
  rw [primary.level]
  cases op <;> decide

theorem Primary.null : Primary Tree.null "null".toList :=
  .word (.of_parts 'n' ['u','l','l'] rfl rfl rfl) rfl

theorem Primary.one : Primary (.atom (.numeral ['1'])) ['1'] :=
  .numeral (Decimal.digits_nat 1).numeral

theorem Primary.math (name : String) (word : Word name.toList) :
    Primary (Tree.math name) ("Math.".toList ++ name.toList) := by
  have object : Primary (.atom (.constant .math)) "Math".toList :=
    .word (.of_parts 'M' ['a','t','h'] rfl rfl rfl) rfl
  exact (object.member rfl word).of_text (by simp [Mark.text])

theorem Primary.quoted (inner : Reads t x) (tight : Operator.add.level < t.level) :
    Primary t.quoted ("(''+".toList ++ x ++ ")".toList) := by
  have sum := Primary.empty.reads.binary .add inner (.plain (by decide)) (by decide) tight
  exact (Primary.group sum).of_text (by simp [Mark.text,Operator.text])

theorem Primary.lower (inner : Reads t x) (tight : Operator.add.level < t.level) :
    Primary t.lower ("(''+".toList ++ x ++ ").toLowerCase()".toList) := by
  have word : Word "toLowerCase".toList :=
    (.of_parts 't' ['o','L','o','w','e','r','C','a','s','e'] rfl rfl rfl)
  exact ((Primary.quoted inner tight).member rfl word).invoke.of_text (by simp [Mark.text])

theorem Primary.find (inner : Primary t x) (whole : t.stops '.' = true) (place : Reads u y) :
    Primary (t.find u) (x ++ ".indexOf(".toList ++ y ++ ")".toList) := by
  have word : Word "indexOf".toList := .of_parts 'i' ['n','d','e','x','O','f'] rfl rfl rfl
  exact ((inner.member whole word).apply place).of_text (by simp [Mark.text])

theorem Primary.found (place : Primary t x) :
    Reads (.binary .greater t (.signed .minus (.atom (.numeral ['1'])))) (x ++ ">-1".toList) := by
  have minusOne := Primary.one.reads.signed .minus (Nat.le_succ 7) fun _ => by decide
  have compared := place.reads.binary .greater minusOne (.plain (by decide))
    (Nat.le_of_lt (place.above .greater)) (by decide)
  exact compared.of_text (by simp [Operator.text,Sign.mark,Mark.text])

theorem Primary.capture (inner : Reads t x) (tight : Operator.add.level < t.level)
    (pattern : String) : Primary (t.capture pattern.toList) ("((''+".toList ++ x
      ++ ").match(RegExp(".toList ++ (Json.stringText pattern).toList ++ "))||[])[1]".toList) := by
  have word : Word "match".toList := .of_parts 'm' ['a','t','c','h'] rfl rfl rfl
  have regExp : Primary (.atom (.constant .regExp)) "RegExp".toList :=
    .word (.of_parts 'R' ['e','g','E','x','p'] rfl rfl rfl) rfl
  have found := ((Primary.quoted inner tight).member rfl word).apply
    (regExp.apply (Primary.text pattern).reads).reads
  have some := found.reads.binary .or Primary.list.reads (.plain (by decide))
    (Nat.le_of_lt (found.above .or)) (Primary.list.above .or)
  exact ((Primary.group some).index Primary.one.reads).of_text (by simp [Mark.text,Operator.text])

theorem numeral_undashed {text : List Char} (numeral : Decimal.Numeral text) :
    text.head? ≠ some '-' := by
  obtain ⟨whole,fraction,exponent,digits,-,-,rfl⟩ := numeral.parts
  cases whole with
  | nil => exact absurd rfl digits.1
  | cons c whole =>
      intro head
      cases head
      exact absurd (digits.2 '-' List.mem_cons_self) (by decide)

theorem numberText_nan {n : Float} (nan : n.isNaN = true) : Decimal.numberText n = "NaN" := by
  unfold Decimal.numberText
  split
  · rename_i whole is
    have finite := (Decimal.whole_finite is).1
    rw [nan] at finite
    cases finite
  · rw [Decimal.Layout.write,if_pos nan]
    rfl

theorem Reads.number {n : Float} (finite : n.isInf = false) :
    Reads (Tree.ofNumber n) (Decimal.numberText n).toList := by
  unfold Tree.ofNumber spell
  cases nan : n.isNaN with
  | true =>
      rw [numberText_nan nan]
      exact (Primary.word (.of_parts 'N' ['a','N'] rfl rfl rfl) rfl).reads
  | false =>
      rcases Decimal.numberText_signed nan finite with numeral | ⟨more,numeral,text⟩
      · split
        · rename_i text
          exact absurd (by rw [text]; rfl) (numeral_undashed numeral)
        · exact (Primary.numeral numeral).reads
      · rw [text]
        exact (Primary.numeral numeral).reads.signed .minus (Nat.le_succ 7)
          fun _ => numeral_undashed numeral

theorem ofNumber_level (n : Float) : (Tree.ofNumber n).level
    = if (Decimal.numberText n).toList.head? == some '-' then 7 else 8 := by
  unfold Tree.ofNumber spell
  split
  · rename_i text
    rw [text]
    rfl
  · rename_i other
    have undashed : (Decimal.numberText n).toList.head? ≠ some '-' := by
      intro head
      obtain ⟨more,text⟩ := List.head?_eq_some_iff.mp head
      exact other more text
    have plain : ((Decimal.numberText n).toList.head? == some '-') = false := by
      simpa using undashed
    rw [plain]
    cases n.isNaN <;> rfl

theorem number_above (n : Float) (op : Operator) : op.level < (Tree.ofNumber n).level := by
  rw [ofNumber_level]
  split <;> cases op <;> decide

theorem Reads.floored (inner : Reads t x) (loose : Operator.divide.level ≤ t.level) {n : Float}
    (finite : n.isInf = false) :
    Reads (.binary .multiply (.call (.argument (Tree.math "floor") (.binary .divide t
        (Tree.ofNumber n)))) (Tree.ofNumber n))
      ("Math.floor(".toList ++ x ++ " / ".toList ++ (Decimal.numberText n).toList ++ ") * ".toList
        ++ (Decimal.numberText n).toList) := by
  have quotient := inner.binary .divide (Reads.number finite) .spaced loose (number_above n _)
  have whole := (Primary.math "floor" (.of_parts 'f' ['l','o','o','r'] rfl rfl rfl)).apply quotient
  exact (whole.reads.binary .multiply (Reads.number finite) .spaced
    (Nat.le_of_lt (whole.above .multiply)) (number_above n _)).of_text
      (by simp [Mark.text,Operator.text])

theorem tree_level (spelled : String → String) (φ : Formula) :
    (φ.tree spelled).level = φ.level := by
  cases φ with
  | number x => exact ofNumber_level x
  | contains ignoreCase a b => cases ignoreCase <;> rfl
  | bucket a size offset =>
      simp only [Formula.tree,Formula.level]
      split <;> rfl
  | _ => rfl

-- The text of two alternatives of which the last is null.
def Opened (t : Tree) (text : List Char) : Prop :=
  ∃ u x, t = .binary .or u Tree.null ∧ Primary u x ∧ text = x ++ "||null".toList

theorem Opened.reads (opened : Opened t x) : Reads t x := by
  obtain ⟨u,y,rfl,first,rfl⟩ := opened
  exact (first.reads.binary .or Primary.null.reads (.plain (by decide)) (Nat.le_of_lt (first.above .or))
    (Primary.null.above .or)).of_text (by simp [Operator.text])

-- One more alternative, although it consists of two.
theorem Opened.joined (opened : Opened u y) (first : Reads t x)
    (loose : Operator.or.level ≤ t.level) :
    Reads (Tree.join .or t u) (x ++ Operator.or.text ++ y) := by
  obtain ⟨v,z,rfl,inner,rfl⟩ := opened
  have early := first.binary .or inner.reads (.plain (by decide)) loose (inner.above .or)
  exact (early.binary .or Primary.null.reads (.plain (by decide)) (Nat.le_refl _)
    (Primary.null.above .or)).of_text (by simp [Operator.text])

theorem Opened.present (opened : Opened t x) : Reads t.present (x ++ "!=null".toList) := by
  obtain ⟨u,y,rfl,first,rfl⟩ := opened
  have compared := Primary.null.reads.binary .differs Primary.null.reads (.plain (by decide))
    (Nat.le_of_lt (Primary.null.above .differs)) (Primary.null.above .differs)
  exact (first.reads.binary .or compared (.plain (by decide)) (Nat.le_of_lt (first.above .or))
    (by decide)).of_text (by simp [Operator.text])

theorem join_closed {op : Operator} (tight : op.level < u.level) :
    Tree.join op t u = .binary op t u := by
  unfold Tree.join
  split
  · exact absurd tight (Nat.lt_irrefl _)
  · rfl

theorem join_level (op : Operator) (t u : Tree) : (Tree.join op t u).level = op.level := by
  unfold Tree.join
  split <;> rfl

theorem present_closed (tight : Operator.differs.level ≤ t.level) :
    t.present = .binary .differs t Tree.null := by
  unfold Tree.present
  split
  · have low : ¬ Operator.differs.level ≤ Operator.or.level := by decide
    exact absurd tight low
  · rfl

end Texts

-- What is known of the text of a formula.
structure Written (spelled : String → String) (φ : Formula) (text : List Char) : Prop where
  reads : Reads (φ.tree spelled) text
  opened : φ.level = Operator.or.level → Opened (φ.tree spelled) text
  dash : text.head? = some '-' → φ.level = 7

section Written

variable {spelled : String → String} {φ ψ : Formula} {x y : List Char}

theorem Primary.written (primary : Primary (φ.tree spelled) x) (undashed : x.head? ≠ some '-') :
    Written spelled φ x := by
  have level : φ.level = 8 := by rw [← tree_level spelled φ]; exact primary.level
  refine ⟨primary.reads,fun alternatives => ?_,fun head => absurd head undashed⟩
  rw [level] at alternatives
  cases alternatives

theorem tight_or_opened (φ : Formula) :
    φ.level = Operator.or.level ∨ Operator.differs.level < φ.level := by
  cases φ with
  | number x =>
      rw [Formula.level]
      split <;> exact .inr (by decide)
  | bucket a size offset =>
      rw [Formula.level]
      split <;> exact .inr (by decide)
  | extract a pattern => exact .inl rfl
  | _ => exact .inr (by simp [Formula.level,Operator.level])

theorem Written.present (written : Written spelled φ x) :
    Reads (φ.tree spelled).present (x ++ "!=null".toList) := by
  rcases tight_or_opened φ with alternatives | tight
  · exact (written.opened alternatives).present
  · rw [← tree_level spelled] at tight
    rw [present_closed (Nat.le_of_lt tight)]
    exact (written.reads.binary .differs Primary.null.reads (.plain (by decide)) (Nat.le_of_lt tight)
      (Primary.null.above .differs)).of_text (by simp [Operator.text])

theorem Written.joined {op : Junction} (written : Written spelled φ x)
    (tight : op = .and → Operator.and.level < φ.level) {t : Tree} (first : Reads t y)
    (loose : (joiner op).level ≤ t.level) :
    Reads (Tree.join (joiner op) t (φ.tree spelled)) (y ++ (joiner op).text ++ x) := by
  have closed (tight : (joiner op).level < φ.level) :
      Reads (Tree.join (joiner op) t (φ.tree spelled)) (y ++ (joiner op).text ++ x) := by
    rw [← tree_level spelled] at tight
    rw [join_closed tight]
    exact first.binary _ written.reads (.plain (by cases op <;> decide)) loose tight
  cases op with
  | and => exact closed (tight rfl)
  | or =>
      rcases tight_or_opened φ with alternatives | tight
      · exact (written.opened alternatives).joined first loose
      · exact closed (Nat.lt_of_le_of_lt (by decide) tight)

theorem joined_reads {op : Junction} {parts : List Formula} {xs : List (List Char)}
    (each : List.Forall₂ (Written spelled) parts xs)
    (tight : op = .and → ∀ φ ∈ parts, Operator.and.level < φ.level) {t : Tree} (first : Reads t y)
    (loose : (joiner op).level ≤ t.level) :
    Reads ((parts.map fun φ => φ.tree spelled).foldl (Tree.join (joiner op)) t)
      (y ++ xs.flatMap fun x => (joiner op).text ++ x) := by
  induction each generalizing t y with
  | nil => simpa using first
  | cons written rest ih =>
      have second := written.joined (fun and => tight and _ List.mem_cons_self) first loose
      have later := ih (fun and φ member => tight and φ (List.mem_cons_of_mem _ member)) second
        (by rw [join_level])
      exact later.of_text (by simp)

theorem intercalate_flatMap (mark x : String) (xs : List String) :
    (String.intercalate mark (x :: xs)).toList
      = x.toList ++ xs.flatMap fun y => mark.toList ++ y.toList := by
  induction xs generalizing x with
  | nil => simp
  | cons y xs ih => rw [String.intercalate_cons_cons]; simp [ih]

theorem junction_reads {op : Junction} {parts : List Formula} {texts : List String}
    (each : List.Forall₂ (Written spelled) parts (texts.map String.toList)) (some : parts ≠ [])
    (tight : op = .and → parts.length ≤ 1 ∨ ∀ φ ∈ parts, Operator.and.level < φ.level) :
    Reads (Tree.joined (joiner op) (parts.map fun φ => φ.tree spelled))
      (String.intercalate (String.ofList (joiner op).text) texts).toList := by
  cases texts with
  | nil =>
      cases each
      exact absurd rfl some
  | cons x xs =>
      rw [intercalate_flatMap,String.toList_ofList]
      rw [List.map_cons] at each
      obtain ⟨φ,rest,written,later,rfl⟩ := List.forall₂_cons_right_iff.mp each
      have text : (xs.flatMap fun y => (joiner op).text ++ y.toList)
          = (xs.map String.toList).flatMap fun y => (joiner op).text ++ y := by
        rw [List.flatMap_map]
      rw [text,List.map_cons,Tree.joined]
      by_cases single : rest = []
      · subst single
        rw [List.forall₂_nil_left_iff.mp later]
        simpa using written.reads
      · have tight : op = .and → ∀ ψ ∈ φ :: rest, Operator.and.level < ψ.level := fun and =>
          (tight and).resolve_left (by simpa using single)
        have loose : (joiner op).level ≤ (φ.tree spelled).level := by
          rw [tree_level]
          cases op with
          | and => exact Nat.le_of_lt (tight rfl φ List.mem_cons_self)
          | or =>
              rcases tight_or_opened φ with same | tight
              · exact Nat.le_of_eq same.symm
              · exact Nat.le_trans (by decide) (Nat.le_of_lt tight)
        exact joined_reads later (fun and φ member => tight and φ (List.mem_cons_of_mem _ member))
          written.reads loose

theorem ofExprs_each {variableOf : String → Compiled String} {es : List Expr} {texts : List String}
    (ran : ofExprs variableOf es = .ok texts) :
    List.Forall₂ (fun e text => ofExpr variableOf e = .ok text) es texts := by
  induction es generalizing texts with
  | nil =>
      cases ran
      exact .nil
  | cons e rest ih =>
      obtain ⟨first,begins,ran⟩ := Compiled.bind_ok.mp ran
      obtain ⟨others,goesOn,ran⟩ := Compiled.bind_ok.mp ran
      cases Compiled.pure_ok.mp ran
      exact .cons begins (ih goesOn)

theorem one_ok {f : String → String} {a : Compiled String} {text : String}
    (ran : (do return f (← a)) = (.ok text : Compiled String)) :
    ∃ x, a = .ok x ∧ text = f x := by
  obtain ⟨x,first,ran⟩ := Compiled.bind_ok.mp ran
  exact ⟨x,first,(Compiled.pure_ok.mp ran).symm⟩

theorem both_ok {f : String → String → String} {a b : Compiled String} {text : String}
    (ran : (do return f (← a) (← b)) = (.ok text : Compiled String)) :
    ∃ x y, a = .ok x ∧ b = .ok y ∧ text = f x y := by
  obtain ⟨x,first,ran⟩ := Compiled.bind_ok.mp ran
  obtain ⟨y,second,ran⟩ := Compiled.bind_ok.mp ran
  exact ⟨x,y,first,second,(Compiled.pure_ok.mp ran).symm⟩

-- The name that a column is given, empty if it is given none.
def spelling (variableOf : String → Compiled String) (name : String) : String :=
  (variableOf name).toOption.getD ""

theorem bucket_written {a : Formula} {size offset : Float} {text : String}
    (operand : Reads (a.tree spelled) text.toList)
    (loose : (if offset == 0.0 then Operator.divide.level else Operator.subtract.level)
      ≤ (a.tree spelled).level)
    (width : size.isInf = false) (shift : offset.isInf = false) :
    Written spelled (.bucket a size offset) (numberFloor text size offset).toList := by
  by_cases zero : (offset == 0.0) = true
  · rw [if_pos zero] at loose
    have level : (Formula.bucket a size offset).level ≠ Operator.or.level := by
      rw [Formula.level,if_pos zero]; decide
    refine ⟨?_,fun alternatives => absurd alternatives level,by simp [numberFloor,zero]⟩
    rw [Formula.tree,if_pos zero]
    exact (operand.floored loose width).of_text (by simp [numberFloor,zero])
  · rw [if_neg zero] at loose
    have level : (Formula.bucket a size offset).level ≠ Operator.or.level := by
      rw [Formula.level,if_neg zero]; decide
    have shifted := operand.binary .subtract (Reads.number shift) .spaced loose (number_above offset _)
    have whole := Primary.group shifted
    have start := whole.reads.floored (Nat.le_of_lt (whole.above .divide)) width
    have looser : Operator.add.level ≤ Operator.multiply.level := by decide
    have back := start.binary .add (Reads.number shift) .spaced looser (number_above offset _)
    refine ⟨?_,fun alternatives => absurd alternatives level,by simp [numberFloor,zero]⟩
    rw [Formula.tree,if_neg zero]
    exact back.of_text (by simp [numberFloor,zero,Mark.text,Operator.text])

theorem written_text {variableOf : String → Compiled String}
    (identifiers : ∀ name text, variableOf name = .ok text → Identifier text) {φ : Formula}
    (grouped : φ.Grouped) (legible : φ.Legible) {text : String}
    (ran : ofExpr variableOf φ.expr = .ok text) :
    Written (spelling variableOf) φ text.toList := by
  induction φ generalizing text with
  | column name =>
      have named : variableOf name = .ok text := ran
      have known := identifiers name text named
      have spelled : spelling variableOf name = text := by rw [spelling,named]; rfl
      refine Primary.written ?_ ?_
      · rw [Formula.tree,spelled]
        exact .word known.word known.free
      · obtain ⟨c,more,is,start,-⟩ := known.word
        rw [is]
        rintro head
        cases head
        cases start
  | number x =>
      cases ran
      refine ⟨Reads.number legible,fun alternatives => ?_,fun head => ?_⟩
      · rw [Formula.level] at alternatives
        split at alternatives <;> cases alternatives
      · rw [Formula.level,if_pos (by simpa using head)]
  | text content =>
      cases ran
      exact Primary.written (Primary.text content) (by simp [Json.stringText])
  | boolean b =>
      cases ran
      cases b with
      | true =>
          exact Primary.written (.word (.of_parts 't' ['r','u','e'] rfl rfl rfl) rfl) (by simp)
      | false =>
          exact Primary.written (.word (.of_parts 'f' ['a','l','s','e'] rfl rfl rfl) rfl) (by simp)
  | compute op a b left right =>
      have parts : (do return "(" ++ (← ofExpr variableOf a.expr) ++ String.ofList op.operator.text
          ++ (← ofExpr variableOf b.expr) ++ ")") = (.ok text : Compiled String) := by
        cases op <;> exact ran
      obtain ⟨x,y,first,second,rfl⟩ := both_ok parts
      obtain ⟨groupedLeft,groupedRight,loose,tight⟩ := grouped
      obtain ⟨legibleLeft,legibleRight,single⟩ := legible
      have before := left groupedLeft legibleLeft first
      have after := right groupedRight legibleRight second
      rw [← tree_level (spelling variableOf)] at loose tight
      have between : Between op.operator y.toList op.operator.text := .bare fun minus head => by
        refine single ?_ (after.dash head)
        cases op <;> first | rfl | cases minus
      have whole := before.reads.binary op.operator after.reads between loose tight
      exact Primary.written ((Primary.group whole).of_text (by simp [Mark.text])) (by simp)
  | power a b left right =>
      obtain ⟨x,y,first,second,rfl⟩ := both_ok ran
      have call := (Primary.math "pow" (.of_parts 'p' ['o','w'] rfl rfl rfl)).applyBoth
        (left grouped.1 legible.1 first).reads (right grouped.2 legible.2 second).reads
      exact Primary.written (call.of_text (by simp [Mark.text])) (by simp)
  | absolute a ih =>
      obtain ⟨x,inner,rfl⟩ := one_ok ran
      have call := (Primary.math "abs" (.of_parts 'a' ['b','s'] rfl rfl rfl)).apply
        (ih grouped legible inner).reads
      exact Primary.written (call.of_text (by simp [Mark.text])) (by simp)
  | @junction op n parts ih =>
      obtain ⟨texts,listed,rest⟩ := Compiled.bind_ok.mp ran
      cases Compiled.pure_ok.mp rest
      have each : List.Forall₂ (Written (spelling variableOf)) ((List.finRange n).map parts)
          (texts.map String.toList) := by
        rw [List.forall₂_map_left_iff,List.forall₂_map_right_iff]
        exact (List.forall₂_map_left_iff.mp (ofExprs_each listed)).imp fun i text written =>
          ih i (grouped.1 i) (legible.1 i) written
      have inner := junction_reads each (by simpa using Nat.ne_of_gt legible.2)
        fun and => by simpa using grouped.2 and
      rw [List.map_map] at inner
      refine Primary.written ((Primary.group inner).of_text ?_) (by simp)
      cases op <;> simp [Mark.text,joiner,Operator.text]
  | not a ih =>
      obtain ⟨x,inner,rfl⟩ := one_ok ran
      have tight : 7 ≤ (a.tree (spelling variableOf)).level := by rw [tree_level]; exact grouped.2
      have whole := (ih grouped.1 legible inner).reads.signed .not tight fun minus => by cases minus
      exact Primary.written ((Primary.group whole).of_text (by simp [Mark.text,Sign.mark])) (by simp)
  | contains ignoreCase a b left right =>
      obtain ⟨groupedLeft,groupedRight,tight,lowered⟩ := grouped
      rw [← tree_level (spelling variableOf)] at tight lowered
      cases ignoreCase with
      | false =>
          obtain ⟨x,y,first,second,rfl⟩ := both_ok ran
          have place := (Primary.quoted (left groupedLeft legible.1 first).reads tight).find rfl
            (right groupedRight legible.2 second).reads
          exact ⟨place.found.of_text (by simp),fun alternatives => (by cases alternatives),by simp⟩
      | true =>
          obtain ⟨x,y,first,second,rfl⟩ := both_ok ran
          have place := (Primary.lower (left groupedLeft legible.1 first).reads tight).find rfl
            (Primary.lower (right groupedRight legible.2 second).reads (lowered rfl)).reads
          exact ⟨place.found.of_text (by simp),fun alternatives => (by cases alternatives),by simp⟩
  | indexOf a b left right =>
      obtain ⟨x,y,first,second,rfl⟩ := both_ok ran
      have tight : Operator.add.level < (a.tree (spelling variableOf)).level := by
        rw [tree_level]; exact grouped.2.2
      have place := (Primary.quoted (left grouped.1 legible.1 first).reads tight).find rfl
        (right grouped.2.1 legible.2 second).reads
      exact Primary.written (place.of_text (by simp)) (by simp)
  | extract a pattern ih =>
      obtain ⟨x,inner,rfl⟩ := one_ok ran
      have tight : Operator.add.level < (a.tree (spelling variableOf)).level := by
        rw [tree_level]; exact grouped.2
      have first := Primary.capture (ih grouped.1 legible inner).reads tight pattern
      have opened : Opened ((Formula.extract a pattern).tree (spelling variableOf)) ("((''+" ++ x
          ++ ").match(RegExp(" ++ Json.stringText pattern ++ "))||[])[1]||null").toList :=
        ⟨_,_,rfl,first,by simp⟩
      exact ⟨opened.reads,fun _ => opened,by simp⟩
  | fallback a b left right =>
      obtain ⟨x,y,first,second,rfl⟩ := both_ok ran
      have before := left grouped.1 legible.1 first
      have choice := Primary.choice before.present before.reads
        (right grouped.2 legible.2 second).reads
      exact Primary.written (choice.of_text (by simp [Mark.text])) (by simp)
  | bucket a size offset ih =>
      obtain ⟨x,inner,rfl⟩ := one_ok ran
      rw [Formula.Grouped,← tree_level (spelling variableOf)] at grouped
      exact bucket_written (ih grouped.1 legible.1 inner).reads grouped.2 legible.2.1 legible.2.2

end Written

section Proper

variable {spelled : String → String}

theorem join_proper {op : Operator} {t u : Tree} (proper : (Tree.join op t u).Proper) :
    t.Proper ∧ u.Proper ∧ (op ≠ .or → op.level ≤ t.level ∧ op.level < u.level) := by
  unfold Tree.join at proper
  split at proper
  · obtain ⟨⟨first,second,-,tight⟩,third,-,last⟩ := proper
    exact ⟨first,⟨second,third,Nat.le_of_lt tight,last⟩,fun other => absurd rfl other⟩
  · exact ⟨proper.1,proper.2.1,fun _ => proper.2.2⟩

theorem joined_proper {op : Operator} {ts : List Tree} {t : Tree}
    (proper : (ts.foldl (Tree.join op) t).Proper) :
    (∀ u ∈ t :: ts, u.Proper) ∧
      (op ≠ .or → ts ≠ [] → op.level ≤ t.level ∧ ∀ u ∈ ts, op.level < u.level) := by
  induction ts generalizing t with
  | nil => exact ⟨by simpa using proper,fun _ some => absurd rfl some⟩
  | cons u ts ih =>
      obtain ⟨parts,levels⟩ := ih proper
      obtain ⟨first,rest⟩ := List.forall_mem_cons.mp parts
      obtain ⟨left,right,loose⟩ := join_proper first
      refine ⟨List.forall_mem_cons.mpr ⟨left,List.forall_mem_cons.mpr ⟨right,rest⟩⟩,fun other _ => ?_⟩
      refine ⟨(loose other).1,List.forall_mem_cons.mpr ⟨(loose other).2,?_⟩⟩
      by_cases none : ts = []
      · simp [none]
      · exact (levels other none).2

theorem junction_grouped {op : Junction} {parts : List Formula}
    (proper : (Tree.joined (joiner op) (parts.map fun φ => φ.tree spelled)).Proper) :
    (∀ φ ∈ parts, (φ.tree spelled).Proper) ∧
      (op = .and → parts.length ≤ 1 ∨ ∀ φ ∈ parts, Operator.and.level < φ.level) := by
  cases parts with
  | nil => exact ⟨nofun,fun _ => .inr nofun⟩
  | cons φ rest =>
      obtain ⟨each,levels⟩ := joined_proper proper
      refine ⟨fun ψ member => each _ (List.mem_map_of_mem member),?_⟩
      rintro rfl
      by_cases single : rest = []
      · exact .inl (by simp [single])
      · obtain ⟨first,others⟩ := levels nofun (by simpa using single)
        refine .inr (List.forall_mem_cons.mpr ⟨?_,fun ψ member => ?_⟩)
        · rw [tree_level] at first
          rcases tight_or_opened φ with same | tight
          · rw [same] at first
            exact absurd first (by decide)
          · exact Nat.lt_trans (by decide) tight
        · rw [← tree_level spelled]
          exact others _ (List.mem_map_of_mem member)

theorem quoted_proper {φ : Formula} (proper : (φ.tree spelled).quoted.Proper) :
    (φ.tree spelled).Proper ∧ Operator.add.level < φ.level := by
  rw [← tree_level spelled]
  exact ⟨proper.2.1,proper.2.2.2⟩

theorem find_proper {t u : Tree} (proper : (t.find u).Proper) : t.Proper ∧ u.Proper :=
  ⟨proper.1.1.1,proper.1.2.2⟩

theorem grouped_proper {φ : Formula} (proper : (φ.tree spelled).Proper) : φ.Grouped := by
  induction φ with
  | column name => trivial
  | number x => trivial
  | text content => trivial
  | boolean b => trivial
  | compute op a b left right =>
      obtain ⟨first,second,loose,tight⟩ := proper
      rw [tree_level] at loose tight
      exact ⟨left first,right second,loose,tight⟩
  | power a b left right => exact ⟨left proper.1.1.2.2,right proper.1.2.2⟩
  | absolute a ih => exact ih proper.1.2.2
  | @junction op n parts ih =>
      have proper : (Tree.joined (joiner op) (((List.finRange n).map parts).map
          fun φ => φ.tree spelled)).Proper := by rw [List.map_map]; exact proper
      obtain ⟨each,levels⟩ := junction_grouped proper
      refine ⟨fun i => ih i (each _ (List.mem_map_of_mem (List.mem_finRange i))),fun and => ?_⟩
      simpa using levels and
  | not a ih =>
      obtain ⟨inner,tight⟩ := proper
      rw [tree_level] at tight
      exact ⟨ih inner,tight⟩
  | contains ignoreCase a b left right =>
      cases ignoreCase with
      | false =>
          obtain ⟨first,second⟩ := find_proper proper.1
          obtain ⟨inner,tight⟩ := quoted_proper first
          exact ⟨left inner,right second,tight,nofun⟩
      | true =>
          obtain ⟨first,second⟩ := find_proper proper.1
          obtain ⟨inner,tight⟩ := quoted_proper first.1.1
          obtain ⟨innerRight,tightRight⟩ := quoted_proper second.1.1
          exact ⟨left inner,right innerRight,tight,fun _ => tightRight⟩
  | indexOf a b left right =>
      obtain ⟨first,second⟩ := find_proper proper
      obtain ⟨inner,tight⟩ := quoted_proper first
      exact ⟨left inner,right second,tight⟩
  | extract a pattern ih =>
      obtain ⟨captured,-⟩ := proper
      obtain ⟨⟨⟨⟨⟨first,-⟩,-⟩,-⟩,-⟩,-⟩ := captured
      obtain ⟨inner,tight⟩ := quoted_proper first
      exact ⟨ih inner,tight⟩
  | fallback a b left right => exact ⟨left proper.2.1,right proper.2.2⟩
  | bucket a size offset ih =>
      have start {t : Tree} (proper : Tree.Proper (.binary .multiply (.call (.argument
          (Tree.math "floor") (.binary .divide t (Tree.ofNumber size)))) (Tree.ofNumber size))) :
          t.Proper ∧ Operator.divide.level ≤ t.level :=
        ⟨proper.1.1.2.2.1,proper.1.1.2.2.2.2.1⟩
      rw [Formula.Grouped]
      rw [Formula.tree] at proper
      by_cases zero : (offset == 0.0) = true
      · rw [if_pos zero] at proper ⊢
        obtain ⟨inner,loose⟩ := start proper
        exact ⟨ih inner,by rwa [tree_level] at loose⟩
      · rw [if_neg zero] at proper ⊢
        obtain ⟨inner,-,loose,-⟩ := (start proper.1).1
        exact ⟨ih inner,by rwa [tree_level] at loose⟩

end Proper

-- The text is read as an expression that is worth the same as the formula, for every engine and
-- whatever the variables are.
def Formula.ReadsBack (spelled : String → String) (φ : Formula) (text : String) : Prop :=
  ∃ t, read text = some t ∧ ∀ (α : Type) (J : Engine α) (env : String → α),
    t.value J env = φ.value J fun name => env (spelled name)

theorem script_read_back {variableOf : String → Compiled String}
    (identifiers : ∀ name text, variableOf name = .ok text → Identifier text) {φ : Formula}
    {text : String} (ran : ofExpr variableOf φ.expr = .ok text) (legible : φ.Legible) :
    (φ.Grouped → φ.ReadsBack (spelling variableOf) text) ∧
      (read text = some (φ.tree (spelling variableOf)) ↔ φ.Grouped) := by
  have reads (grouped : φ.Grouped) : read text = some (φ.tree (spelling variableOf)) :=
    (written_text identifiers grouped legible ran).reads.read
  refine ⟨fun grouped => ⟨_,reads grouped,fun α J env => value_tree J env _ legible⟩,?_,reads⟩
  intro meant
  exact grouped_proper (read_proper meant)

inductive Datum where
  | number (x : Rat)
  | text (content : List Char)
  | boolean (b : Bool)
  | null
  | missing
  | math
  | member (t : Datum) (name : List Char)
  | argument (f a : Datum)
  deriving DecidableEq

namespace Datum

def toNumber : Datum → Rat
  | .number x => x
  | .boolean true => 1
  | _ => 0

def toText : Datum → List Char
  | .text content => content
  | _ => []

def isNull : Datum → Bool
  | .null => true
  | .missing => true
  | _ => false

def truthy : Datum → Bool
  | .number x => x ≠ 0
  | .text content => !content.isEmpty
  | .boolean b => b
  | .null => false
  | .missing => false
  | _ => true

def compute (op : Operator) (a b : Datum) : Datum :=
  match op with
  | .or => if a.truthy then a else b
  | .and => if a.truthy then b else a
  | .is => .boolean (a = b)
  | .differs => .boolean (if a.isNull || b.isNull then a.isNull != b.isNull else a ≠ b)
  | .less => .boolean (a.toNumber < b.toNumber)
  | .atMost => .boolean (a.toNumber ≤ b.toNumber)
  | .greater => .boolean (a.toNumber > b.toNumber)
  | .atLeast => .boolean (a.toNumber ≥ b.toNumber)
  | .add =>
      match a,b with
      | .text _,_ => .text (a.toText ++ b.toText)
      | _,.text _ => .text (a.toText ++ b.toText)
      | _,_ => .number (a.toNumber + b.toNumber)
  | .subtract => .number (a.toNumber - b.toNumber)
  | .multiply => .number (a.toNumber * b.toNumber)
  | .divide => .number (a.toNumber / b.toNumber)

def call : Datum → Datum
  | .argument (.member .math ['f','l','o','o','r']) a => .number a.toNumber.floor
  | .argument (.member (.text content) ['i','n','d','e','x','O','f']) a =>
      match (List.range (content.length + 1)).find? fun i => a.toText.isPrefixOf (content.drop i) with
      | some i => .number i
      | none => .number (-1)
  | _ => .missing

def constant : Constant → Datum
  | .boolean b => .boolean b
  | .null => .null
  | .math => .math
  | _ => .missing

def numeral (text : List Char) : Datum :=
  .number (Decimal.natOfDigits (text.takeWhile Char.isDigit))

def negate (a : Datum) : Datum :=
  .number (-a.toNumber)

def engine : Engine Datum where
  number := spell numeral negate .missing
  numeral
  text := .text
  constant
  list := .missing
  negate
  compute
  member := .member
  index _ _ := .missing
  argument := .argument
  call
  truthy
  reads _ _ := rfl
  or_chooses _ _ := rfl
  truthy_differs a true := by
    cases a <;> first | rfl | cases true

end Datum

namespace Snippets

def ofColumn (name : String) : Compiled String :=
  if name == "x" then .ok "d" else unsupportedOp name

def x : Formula :=
  .column "x"

def absent : Formula :=
  .not (.contains false x (.text "a"))

def inverse : Formula :=
  .compute .divide (.number 1.0) (.bucket x 10.0 0.0)

def raised : Formula :=
  .compute .subtract x (.number (-5.0))

def kept : Formula :=
  .junction .or [.not (.compute .is (.fallback (.extract x "(a)") (.text "none")) (.text "b")),
    .extract x "(c)",.contains true x (.text "d")].get

theorem ofColumn_identifier (name text : String) (named : ofColumn name = .ok text) :
    Identifier text := by
  unfold ofColumn at named
  split at named
  · cases named
    exact ⟨⟨'d',[],rfl,rfl,nofun⟩,by decide +kernel⟩
  · cases named

theorem alternatives_kept :
    ∃ text, ofExpr (positional ["y","x"] "javascript aggregator") kept.expr = .ok text ∧
      kept.ReadsBack (spelling (positional ["y","x"] "javascript aggregator")) text ∧
      ofExpr ofColumn absent.expr = .ok "(!(''+d).indexOf(\"a\")>-1)" ∧
      read "(!(''+d).indexOf(\"a\")>-1)" ≠ some (absent.tree (spelling ofColumn)) := by
  have ran : ofExpr (positional ["y","x"] "javascript aggregator") kept.expr
      = .ok ("((!((((''+_1).match(RegExp(\"(a)\"))||[])[1]||null"
        ++ "!=null?((''+_1).match(RegExp(\"(a)\"))||[])[1]||null:\"none\")===\"b\"))"
        ++ "||((''+_1).match(RegExp(\"(c)\"))||[])[1]||null"
        ++ "||(''+_1).toLowerCase().indexOf((''+\"d\").toLowerCase())>-1)") := by
    decide +kernel
  have legible : kept.Legible := by
    simp [kept,x,Formula.Legible,Fin.forall_fin_succ]
  have grouped : kept.Grouped := by
    simp [kept,x,Formula.Grouped,Formula.level,Computation.operator,Operator.level,
      Fin.forall_fin_succ]
  have lost : ofExpr ofColumn absent.expr = .ok "(!(''+d).indexOf(\"a\")>-1)" := by
    decide +kernel
  have loose : ¬ absent.Grouped := fun grouped => absurd grouped.2 (by decide)
  refine ⟨_,ran,(script_read_back (positional_identifier _ _) ran legible).1 grouped,lost,
    fun meant => ?_⟩
  exact loose ((script_read_back ofColumn_identifier lost ⟨trivial,trivial⟩).2.mp meant)

theorem absence_lost :
    ofExpr ofColumn absent.expr = .ok "(!(''+d).indexOf(\"a\")>-1)" ∧
      ¬ absent.ReadsBack (spelling ofColumn) "(!(''+d).indexOf(\"a\")>-1)" ∧
      (∃ t, read "(!(''+d).indexOf(\"a\")>-1)" = some t ∧
        t.value Datum.engine (fun _ => .text ['a']) = .boolean true ∧
        absent.value Datum.engine (fun _ => .text ['a']) = .boolean false) ∧
      ofExpr ofColumn inverse.expr = .ok "(1/Math.floor(d / 10) * 10)" ∧
      (∃ t, read "(1/Math.floor(d / 10) * 10)" = some t ∧
        t.value Datum.engine (fun _ => .number 25) = .number 5 ∧
        inverse.value Datum.engine (fun _ => .number 25) = .number (1 / 20)) ∧
      ofExpr ofColumn raised.expr = .ok "(d--5)" ∧ read "(d--5)" = none := by
  have misread : read "(!(''+d).indexOf(\"a\")>-1)" = some (.group (.binary .greater
      (.signed .not (Tree.find (Tree.quoted (.atom (.name ['d']))) (.atom (.text ['a']))))
      (.signed .minus (.atom (.numeral ['1']))))) := by
    decide +kernel
  have scaled : read "(1/Math.floor(d / 10) * 10)" = some (.group (.binary .multiply
      (.binary .divide (.atom (.numeral ['1'])) (.call (.argument (Tree.math "floor")
        (.binary .divide (.atom (.name ['d'])) (.atom (.numeral ['1','0']))))))
      (.atom (.numeral ['1','0'])))) := by
    decide +kernel
  refine ⟨by decide +kernel,?_,⟨_,misread,by decide +kernel,by decide +kernel⟩,by decide +kernel,
    ⟨_,scaled,by decide +kernel,by decide +kernel⟩,by decide +kernel,by decide +kernel⟩
  rintro ⟨t,again,same⟩
  cases misread.symm.trans again
  exact absurd (same Datum Datum.engine fun _ => .text ['a']) (by decide +kernel)

end Snippets

end OlapQuery.Druid.Script
